import Laoke.Token

/-!
# Programs

A program is a list of statements, and loops are the only nesting.  An
expression is kept as the flat run of its tokens: which runs make sense, and
how tightly the operators bind, is settled where the program is evaluated.
-/

namespace Laoke

/-- An expression: its tokens in the order of the text, the quotes around strings left out. -/
abbrev Expression := List Token

/-- The literal `1`. -/
def Expression.one : Expression :=
  [.integer 1]

/-- A statement.  Variables are named by the text of their identifier. -/
inductive Statement where
  /-- Prints a value and ends the line. -/
  | say (value : Expression)
  /-- Introduces a variable without a value. -/
  | declare (name : String)
  | assign (name : String) (value : Expression)
  | increase (name : String) (amount : Expression)
  | decrease (name : String) (amount : Expression)
  /-- Runs the body once for every number from the first bound to the last, both included. -/
  | loop (counter : String) (first last : Expression) (body : List Statement)
  deriving Repr

/-- A program: the statements of a text. -/
abbrev Program := List Statement

/-- The name of a statement's form in reports. -/
def Statement.label : Statement → String
  | say _ => "SAY"
  | declare _ => "VAR_DECL"
  | assign _ _ => "ASSIGN"
  | increase _ _ => "INC_BY"
  | decrease _ _ => "DEC_BY"
  | loop _ _ _ _ => "LOOP"

end Laoke
