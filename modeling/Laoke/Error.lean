import Laoke.Emission
import Laoke.Numeral
import Laoke.Program.Reader
import Laoke.Script.Error

/-!
# Why a program has no output

An error belongs to the stage that found it: the tokens, the statements, the
script or its run.
-/

namespace Laoke

/-- Why a program has no output. -/
inductive Error where
  | lexical (e : LexicalError)
  | parse (e : ParseError)
  | emission (e : EmissionError)
  | execution (e : Script.Error)
  deriving DecidableEq, Repr

namespace Error

/-- The text of an error without its stage. -/
def detail : Error → String
  | lexical e => e.message
  | parse e => e.message
  | emission e => e.message
  | execution e => e.message

/-- The name of the stage that found an error. -/
def stage : Error → String
  | lexical _ => "Lexical error"
  | parse _ => "Parse error"
  | emission _ => "Codegen error"
  | execution _ => "Execution error"

/-- The text of an error. -/
def message (e : Error) : String :=
  e.stage ++ ": " ++ e.detail

/-- Whether an error ends the program that meets it, in place of being reported. -/
def isFatal : Error → Bool
  | execution .tooLong => true
  | _ => false

end Error

end Laoke
