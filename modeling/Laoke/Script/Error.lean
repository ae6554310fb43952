import Laoke.Script.Literal
import Laoke.Script.Token
import Laoke.Script.Value

/-!
# Why a script has no result
-/

namespace Laoke.Script

/-- What a line of a script was to go on with. -/
inductive Wanted where
  | expression
  | name
  | word (text : String)
  | mark (text : String)
  | commaOrParen
  | assignment
  | lineEnd
  deriving DecidableEq, Repr

/-- A wanted item as messages put it. -/
def Wanted.label : Wanted → String
  | expression => "expected an expression"
  | name => "expected a name"
  | word s => "expected '" ++ s ++ "'"
  | mark s => "expected '" ++ s ++ "'"
  | commaOrParen => "expected ',' or ')'"
  | assignment => "expected an assignment"
  | lineEnd => "expected end of line"

/-- What is wrong with the form of a script. -/
inductive SyntaxFault where
  | unexpectedCharacter (c : Char)
  | literal (fault : LiteralFault)
  | unexpectedIndent
  | missingBlock
  | unexpectedToken (wanted : Wanted) (found : Option Token)
  deriving DecidableEq, Repr

/-- The text of a fault of form. -/
def SyntaxFault.message : SyntaxFault → String
  | unexpectedCharacter c => "unexpected character '" ++ c.toString ++ "'"
  | literal (.invalidEscape c) => "invalid escape '\\" ++ c.toString ++ "'"
  | literal .unterminated => "unterminated string"
  | unexpectedIndent => "unexpected indent"
  | missingBlock => "expected an indented block"
  | unexpectedToken wanted none => wanted.label ++ ", found end of line"
  | unexpectedToken wanted (some t) => wanted.label ++ ", found " ++ t.describe

/-- What is wrong with the types of values. -/
inductive TypeFault where
  | binary (op : BinaryOp) (left right : String)
  | unary (op : UnaryOp) (operand : String)
  | rangeBound (bound : String)
  | argumentCount (given : Nat)
  | notCallable (name : String)
  deriving DecidableEq, Repr

/-- The text of a fault of types. -/
def TypeFault.message : TypeFault → String
  | binary op left right =>
    "unsupported operand type(s) for " ++ op.symbol ++ ": '" ++ left ++ "' and '" ++ right ++ "'"
  | unary op operand => "bad operand type for unary " ++ op.symbol ++ ": '" ++ operand ++ "'"
  | rangeBound bound => "range() argument must be int, not '" ++ bound ++ "'"
  | argumentCount given => "str() takes exactly one argument (" ++ given.repr ++ " given)"
  | notCallable name => "'" ++ name ++ "' is not callable"

/-- Why a script has no result. -/
inductive Error where
  | ofSyntax (line : Nat) (fault : SyntaxFault)
  | undefinedName (name : String)
  | ofType (fault : TypeFault)
  | divisionByZero
  | overflow
  /-- A text is longer than any can be; a run that comes to this does not go on, nor does the program
  that started it. -/
  | tooLong
  | missingAccumulator (name : String)
  deriving DecidableEq, Repr

/-- The text of an error. -/
def Error.message : Error → String
  | ofSyntax line fault => "Syntax error on line " ++ line.repr ++ ": " ++ fault.message
  | undefinedName name => "Name '" ++ name ++ "' is not defined"
  | ofType fault => "Type error: " ++ fault.message
  | divisionByZero => "Division by zero"
  | overflow => "Integer overflow"
  | tooLong => "capacity overflow"
  | missingAccumulator name => "Output accumulator '" ++ name ++ "' is missing or not a string"

/-- An arithmetic fault as the error of a script. -/
def Error.ofArithmetic : ArithmeticFault → Error
  | .binaryType op left right => .ofType (.binary op left right)
  | .unaryType op operand => .ofType (.unary op operand)
  | .divisionByZero => .divisionByZero
  | .overflow => .overflow
  | .tooLong => .tooLong

end Laoke.Script
