import Laoke.Script.Value

/-!
# Scripts as trees

A script is a list of assignments and of loops over ranges of integers.
-/

namespace Laoke.Script

/-- An expression of a script. -/
inductive Expr where
  | int (n : Int)
  | str (s : String)
  | none
  | name (x : String)
  | unary (op : UnaryOp) (operand : Expr)
  | binary (op : BinaryOp) (left right : Expr)
  | call (function : String) (arguments : List Expr)
  deriving Repr

/-- The ways to assign. -/
inductive AssignOp where
  | set
  | add
  | sub
  deriving DecidableEq, Repr

/-- A statement of a script. -/
inductive Statement where
  | assign (name : String) (op : AssignOp) (value : Expr)
  /-- Runs the body for every integer from the start up to, and not including, the end. -/
  | forRange (counter : String) (start stop : Expr) (body : List Statement)
  | pass
  deriving Repr

end Laoke.Script
