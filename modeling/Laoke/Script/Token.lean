import Laoke.Text.Quoted

/-!
# Tokens of a script
-/

namespace Laoke.Script

/-- A token of a script line. -/
inductive Token where
  | name (text : String)
  | int (value : Int)
  | str (text : String)
  | plus
  | minus
  | star
  | slash
  | leftParen
  | rightParen
  | comma
  | colon
  | equal
  | plusEqual
  | minusEqual
  deriving DecidableEq, Repr

namespace Token

/-- A token as messages describe it. -/
def describe : Token → String
  | name s => "Name(" ++ Text.quoted s ++ ")"
  | int n => "Int(" ++ n.repr ++ ")"
  | str s => "Str(" ++ Text.quoted s ++ ")"
  | plus => "Plus"
  | minus => "Minus"
  | star => "Star"
  | slash => "Slash"
  | leftParen => "LParen"
  | rightParen => "RParen"
  | comma => "Comma"
  | colon => "Colon"
  | equal => "Eq"
  | plusEqual => "PlusEq"
  | minusEqual => "MinusEq"

end Token

end Laoke.Script
