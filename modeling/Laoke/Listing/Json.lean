import Laoke.Program

/-!
# Listings for other programs

Tokens and programs are listed as JSON over several lines: two spaces for each
level, and lists that hold nothing on one line.
-/

namespace Laoke.Listing

/-- A JSON value of the kinds that listings use. -/
inductive Json where
  | string (s : String)
  | integer (n : Int)
  | array (items : List Json)
  | object (fields : List (String × Json))

namespace Json

/-- A hexadecimal digit. -/
def hexDigit (n : Nat) : Char :=
  n.digitChar

/-- A character of a string.  Controls are escaped and all else stands for itself. -/
def escapeChar (c : Char) : List Char :=
  if c = '"' then ['\\', '"']
  else if c = '\\' then ['\\', '\\']
  else if c = '\x08' then ['\\', 'b']
  else if c = '\x0c' then ['\\', 'f']
  else if c = '\n' then ['\\', 'n']
  else if c = '\r' then ['\\', 'r']
  else if c = '\t' then ['\\', 't']
  else if c.toNat < 0x20 then
    ['\\', 'u', '0', '0', hexDigit (c.toNat / 16), hexDigit (c.toNat % 16)]
  else [c]

/-- A string in quotes. -/
def quote (s : String) : String :=
  String.ofList ('"' :: s.toList.flatMap escapeChar ++ ['"'])

/-- The start of a line at a given depth. -/
def margin (depth : Nat) : String :=
  String.ofList (List.replicate (2 * depth) ' ')

mutual

/-- The text of a value whose lines start at a given depth. -/
def pretty (depth : Nat) : Json → String
  | string s => quote s
  | integer n => n.repr
  | array items =>
    if items.isEmpty then "[]"
    else "[\n" ++ prettyItems (depth + 1) items ++ "\n" ++ margin depth ++ "]"
  | object fields =>
    if fields.isEmpty then "\x7b\x7d"
    else "\x7b\n" ++ prettyFields (depth + 1) fields ++ "\n" ++ margin depth ++ "\x7d"

/-- The lines of the items of an array. -/
def prettyItems (depth : Nat) : List Json → String
  | [] => ""
  | [item] => margin depth ++ pretty depth item
  | item :: more => margin depth ++ pretty depth item ++ ",\n" ++ prettyItems depth more

/-- The lines of the fields of an object. -/
def prettyFields (depth : Nat) : List (String × Json) → String
  | [] => ""
  | [(key, value)] => margin depth ++ quote key ++ ": " ++ pretty depth value
  | (key, value) :: more =>
    margin depth ++ quote key ++ ": " ++ pretty depth value ++ ",\n" ++ prettyFields depth more

end

/-- A token as its kind and its value. -/
def ofToken (t : Token) : Json :=
  .object [("kind", .string t.kind.name), ("value",
    match t with
    | .keyword k => .string k.name
    | .identifier s => .string s
    | .string s => .string s
    | .integer n => .integer n)]

/-- Tokens in order. -/
def ofTokens (tokens : List Token) : Json :=
  .array (tokens.map ofToken)

mutual

/-- A statement under the name of its form. -/
def ofStatement : Statement → Json
  | .say e => .object [("Say", ofTokens e)]
  | .declare x => .object [("VarDecl", .string x)]
  | .assign x e => .object [("Assign", .array [.string x, ofTokens e])]
  | .increase x e => .object [("IncBy", .array [.string x, ofTokens e])]
  | .decrease x e => .object [("DecBy", .array [.string x, ofTokens e])]
  | .loop x first last body =>
    .object [("Loop", .object [("var", .string x), ("from", ofTokens first), ("to", ofTokens last),
      ("body", .array (ofStatements body))])]

/-- Statements in order. -/
def ofStatements : List Statement → List Json
  | [] => []
  | s :: more => ofStatement s :: ofStatements more

end

end Json

/-- The listing of tokens. -/
def tokensJson (tokens : List Token) : String :=
  (Json.ofTokens tokens).pretty 0

/-- The listing of a program. -/
def programJson (program : Program) : String :=
  (Json.array (Json.ofStatements program)).pretty 0

end Laoke.Listing
