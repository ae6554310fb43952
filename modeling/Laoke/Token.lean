import Laoke.Keyword
import Laoke.Text.Quoted

/-!
# Tokens of a program

A program is read as a list of keywords, identifiers, strings and integers.
-/

namespace Laoke

/-- A token of a program text. -/
inductive Token where
  | keyword (word : Keyword)
  | identifier (name : String)
  | string (text : String)
  | integer (value : Int)
  deriving DecidableEq, Repr

/-- The kinds of tokens. -/
inductive TokenKind where
  | keyword
  | identifier
  | string
  | integer
  deriving DecidableEq, Repr

/-- The name of a kind in messages. -/
def TokenKind.label : TokenKind → String
  | keyword => "KEYWORD"
  | identifier => "IDENTIFIER"
  | string => "STRING"
  | integer => "INTEGER"

/-- The name of a kind in listings of tokens and programs. -/
def TokenKind.name : TokenKind → String
  | keyword => "Keyword"
  | identifier => "Identifier"
  | string => "StringLiteral"
  | integer => "IntegerLiteral"

/-- All kinds of tokens. -/
def TokenKind.all : List TokenKind :=
  [keyword, identifier, string, integer]

/-- The kind with the given listed name. -/
def TokenKind.ofName? (s : String) : Option TokenKind :=
  all.find? fun k => k.name = s

namespace Token

/-- The kind of a token. -/
def kind : Token → TokenKind
  | keyword _ => .keyword
  | identifier _ => .identifier
  | string _ => .string
  | integer _ => .integer

/-- What a token carries, as messages show it. -/
def content : Token → String
  | keyword k => k.spelling
  | identifier s => Text.quoted s
  | string s => Text.quoted s
  | integer n => n.repr

/-- A token as messages show it: its kind, then its content between angle brackets. -/
def display (t : Token) : String :=
  t.kind.label ++ " <" ++ t.content ++ ">"

end Token

end Laoke
