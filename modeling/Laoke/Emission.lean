import Laoke.Program
import Laoke.Script.Literal
import Laoke.SymbolTable
import Laoke.Text.Lines

/-!
# The script of a program

Every statement becomes one line of script, a loop also the deeper lines of its
body.  What a program says is gathered in one variable of the script, the
accumulator, which the first line sets to the empty text.  Expressions are
written token after token with nothing in between.

A token that has no place in an expression stops the work; the lines written and
the identifiers met up to there are kept.
-/

namespace Laoke

/-- How a script is written. -/
structure ScriptOptions where
  /-- The indentation of one level. -/
  indent : String := "  "
  /-- The name of the accumulator. -/
  accumulator : String := "_db_output"
  /-- What the names of variables start with. -/
  stem : String := "_db_var"
  deriving DecidableEq, Repr

/-- Why a program has no script. -/
inductive EmissionError where
  /-- A token that cannot stand in an expression. -/
  | unwritable (token : Token)
  deriving DecidableEq, Repr

/-- The text of an emission error. -/
def EmissionError.message : EmissionError → String
  | unwritable token => "cannot render " ++ token.display ++ " in an expression"

/-- A script being written. -/
structure Draft where
  table : SymbolTable
  lines : List String := []
  deriving DecidableEq, Repr

/-- Steps that write a script. -/
abbrev Emitter := EStateM EmissionError Draft

namespace Emitter

/-- The script name of an identifier. -/
def nameOf (x : String) : Emitter String := fun draft =>
  .ok (draft.table.resolve x).1 { draft with table := (draft.table.resolve x).2 }

/-- Writes a line. -/
def line (text : String) : Emitter Unit := fun draft =>
  .ok () { draft with lines := draft.lines ++ [text] }

/-- The text of a token inside an expression. -/
def token : Token → Emitter String
  | .integer n => pure n.repr
  | .identifier x => nameOf x
  | .string s => pure (Script.literal s)
  | .keyword k =>
    match k.symbol? with
    | some c => pure c.toString
    | none => throw (.unwritable (.keyword k))

/-- The text of an expression. -/
def expression : Expression → Emitter String
  | [] => pure ""
  | t :: rest => do
    let first ← token t
    let more ← expression rest
    return first ++ more

mutual

/-- Writes the lines of a statement at a given depth. -/
def statement (o : ScriptOptions) (depth : Nat) : Statement → Emitter Unit
  | .say value => do
    let e ← expression value
    line (Text.repeated o.indent depth ++ o.accumulator ++ " += str(" ++ e ++ ") + \"\\n\"")
  | .declare name => do
    let x ← nameOf name
    line (Text.repeated o.indent depth ++ x ++ " = None")
  | .assign name value => do
    let x ← nameOf name
    let e ← expression value
    line (Text.repeated o.indent depth ++ x ++ " = " ++ e)
  | .increase name amount => do
    let x ← nameOf name
    let e ← expression amount
    line (Text.repeated o.indent depth ++ x ++ " += " ++ e)
  | .decrease name amount => do
    let x ← nameOf name
    let e ← expression amount
    line (Text.repeated o.indent depth ++ x ++ " -= " ++ e)
  | .loop counter first last body => do
    let x ← nameOf counter
    let a ← expression first
    let b ← expression last
    line (Text.repeated o.indent depth ++ "for " ++ x ++ " in range(" ++ a ++ ", " ++ b ++ " + 1):")
    statements o (depth + 1) body
    if body.isEmpty then line (Text.repeated o.indent (depth + 1) ++ "pass")

/-- Writes the lines of statements one after the other. -/
def statements (o : ScriptOptions) (depth : Nat) : List Statement → Emitter Unit
  | [] => pure ()
  | s :: more => do
    statement o depth s
    statements o depth more

end

/-- Writes the script of a program. -/
def program (o : ScriptOptions) (p : Program) : Emitter Unit := do
  line (o.accumulator ++ " = \"\"")
  statements o 0 p

end Emitter

namespace Draft

/-- A script with nothing written yet. -/
def start (o : ScriptOptions) : Draft :=
  { table := { stem := o.stem } }

/-- The text of a script. -/
def code (draft : Draft) : String :=
  Text.joinLines draft.lines

end Draft

end Laoke
