import Laoke.Error
import Laoke.Script.Machine
import Laoke.TokenStream

/-!
# From text to output

`compile` turns a text into tokens, the tokens into a program and the program
into a script.  `run` also runs that script and gives the text that the program
said.
-/

namespace Laoke

/-- The stages of a text that was compiled. -/
structure Compiled where
  tokens : List Token
  program : Program
  table : SymbolTable
  code : String
  deriving Repr

/-- The script of a program. -/
def Program.emit (o : ScriptOptions) (program : Program) : Except EmissionError Draft :=
  match Emitter.program o program (.start o) with
  | .ok () draft => .ok draft
  | .error e _ => .error e

/-- Compiles a text and keeps all stages. -/
def compile (o : ScriptOptions) (source : String) : Except Error Compiled :=
  match tokenize source with
  | .error e => .error (.lexical e)
  | .ok tokens =>
    match Program.ofTokens tokens with
    | .error e => .error (.parse e)
    | .ok program =>
      match program.emit o with
      | .error e => .error (.emission e)
      | .ok draft => .ok ⟨tokens, program, draft.table, draft.code⟩

/-- The script of a text. -/
def compileToScript (o : ScriptOptions) (source : String) : Except Error String :=
  (compile o source).map Compiled.code

/-- Runs a script. -/
def runScript (o : ScriptOptions) (code : String) : Except Error String :=
  (Script.execute o.accumulator code).1.mapError .execution

/-- What the program in a text says. -/
def run (o : ScriptOptions) (source : String) : Except Error String :=
  match compileToScript o source with
  | .error e => .error e
  | .ok code => runScript o code

end Laoke
