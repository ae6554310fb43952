import Laoke.Bounds
import Laoke.Token

/-!
# Numerals and identifiers inside a run of characters

Characters that belong to no keyword and no string come in runs.  A run opens
with at most one numeral, and whatever follows it is one identifier.  A numeral
is either a maximal run of the digits `0` to `9` or a single Chinese digit, so
`十五` is the number ten followed by the identifier `五`.
-/

namespace Laoke

/-- Why a text has no tokens. -/
inductive LexicalError where
  /-- A run of digits denotes a number beyond the greatest integer. -/
  | integerOverflow (digits : String)
  deriving DecidableEq, Repr

/-- The text of a lexical error. -/
def LexicalError.message : LexicalError → String
  | integerOverflow digits =>
    "integer literal " ++ digits ++ " does not fit in a signed 64-bit integer"

/-- The Chinese digits and what they count. -/
def chineseDigits : List (Char × Nat) :=
  [('零', 0), ('一', 1), ('二', 2), ('两', 2), ('三', 3), ('四', 4), ('五', 5), ('六', 6),
   ('七', 7), ('八', 8), ('九', 9), ('十', 10)]

/-- The value of a Chinese digit. -/
def chineseDigit? (c : Char) : Option Nat :=
  chineseDigits.lookup c

/-- The number that a run of decimal digits denotes. -/
def decimalValue (digits : List Char) : Nat :=
  Nat.ofDigitChars 10 digits 0

/-- Splits a numeral off the start of a run: its value, if there is one, and the rest. -/
def leadingNumeral (cs : List Char) : Except LexicalError (Option Int × List Char) :=
  match cs with
  | [] => .ok (none, [])
  | c :: rest =>
    if c.isDigit then
      let digits := cs.takeWhile Char.isDigit
      if inBounds (decimalValue digits) then
        .ok (some (decimalValue digits), cs.dropWhile Char.isDigit)
      else
        .error (.integerOverflow (String.ofList digits))
    else
      match chineseDigit? c with
      | some n => .ok (some n, rest)
      | none => .ok (none, cs)

/-- The tokens of a run: its leading numeral, then what is left of it as an identifier. -/
def runTokens (cs : List Char) : Except LexicalError (List Token) :=
  match leadingNumeral cs with
  | .error e => .error e
  | .ok (value?, rest) =>
    .ok ((value?.map Token.integer).toList ++
      if rest.isEmpty then [] else [.identifier (String.ofList rest)])

end Laoke
