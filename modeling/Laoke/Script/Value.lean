import Laoke.Bounds
import Laoke.Text.Lines

/-!
# Values and arithmetic

A value is nothing, an integer or a text.  Arithmetic on integers is exact: a
result is either the true one or an overflow.  Division rounds down.  Texts add
up by concatenation and multiply by repetition, which may come to no text at all:
one that would be longer than any text can be.
-/

namespace Laoke.Script

/-- A value. -/
inductive Value where
  | none
  | int (n : Int)
  | str (s : String)
  deriving DecidableEq, Repr

/-- The operators with two operands. -/
inductive BinaryOp where
  | add
  | sub
  | mul
  | div
  deriving DecidableEq, Repr

/-- The operators with one operand. -/
inductive UnaryOp where
  | neg
  | pos
  deriving DecidableEq, Repr

/-- The symbol of an operator. -/
def BinaryOp.symbol : BinaryOp → String
  | add => "+"
  | sub => "-"
  | mul => "*"
  | div => "/"

/-- The symbol of an operator. -/
def UnaryOp.symbol : UnaryOp → String
  | neg => "-"
  | pos => "+"

/-- The name of a value's type in messages. -/
def Value.typeName : Value → String
  | none => "NoneType"
  | int _ => "int"
  | str _ => "str"

/-- The text of a value when it is printed. -/
def Value.display : Value → String
  | none => "None"
  | int n => n.repr
  | str s => s

/-- Why an operation has no value. -/
inductive ArithmeticFault where
  | binaryType (op : BinaryOp) (left right : String)
  | unaryType (op : UnaryOp) (operand : String)
  | divisionByZero
  | overflow
  /-- A text would be longer than any can be. -/
  | tooLong
  deriving DecidableEq, Repr

namespace Value

/-- An exact result as a value, if it is an integer of the language. -/
def ofExact (n : Int) : Except ArithmeticFault Value :=
  if inBounds n then .ok (.int n) else .error .overflow

/-- The quotient of two integers rounded toward zero.  There is none by zero, nor if it is no integer
of the language. -/
def quotient? (a b : Int) : Option Int :=
  if b ≠ 0 && inBounds (a.tdiv b) then some (a.tdiv b) else .none

/-- The quotient of two integers rounded down.  It is one less than rounded toward zero where there is
a remainder and only one of the two is negative. -/
def floorDiv (a b : Int) : Except ArithmeticFault Value :=
  match quotient? a b with
  | .none => .error .overflow
  | some q =>
    if a.tmod b ≠ 0 && (a < 0) != (b < 0) then .ok (.int (q - 1)) else .ok (.int q)

/-- A text as often as a number says, and not at all if that is negative.  There is none that would
be longer than a text can be. -/
def repetition (s : String) (n : Int) : Except ArithmeticFault Value :=
  if s.utf8ByteSize * n.toNat ≤ greatestLength then .ok (.str (Text.repeated s n.toNat))
  else .error .tooLong

/-- The value of an operator at two operands. -/
def binary : BinaryOp → Value → Value → Except ArithmeticFault Value
  | .add, .int a, .int b => ofExact (a + b)
  | .add, .str a, .str b => .ok (.str (a ++ b))
  | .sub, .int a, .int b => ofExact (a - b)
  | .mul, .int a, .int b => ofExact (a * b)
  | .mul, .str s, .int n => repetition s n
  | .mul, .int n, .str s => repetition s n
  | .div, .int a, .int b => if b = 0 then .error .divisionByZero else floorDiv a b
  | op, a, b => .error (.binaryType op a.typeName b.typeName)

/-- The value of an operator at one operand. -/
def unary : UnaryOp → Value → Except ArithmeticFault Value
  | .neg, .int n => ofExact (-n)
  | .pos, .int n => .ok (.int n)
  | op, a => .error (.unaryType op a.typeName)

end Value

end Laoke.Script
