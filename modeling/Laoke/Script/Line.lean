import Laoke.Numeral
import Laoke.Script.Error
import Laoke.Script.Name
import Laoke.Text.Blank

/-!
# Lines of a script

A script is cut into lines and each line into tokens.  Blanks separate tokens
and `#` ends a line early.  Lines without a token are dropped; the others keep
their number and how far they are indented, which is all that later readers need
to know of the layout.
-/

namespace Laoke.Script

/-- The token at the start of a text whose first character is neither a blank nor a comment,
and the text after it. -/
def tokenAt (line : Nat) (c : Char) (rest : List Char) : Except Error (Token × List Char) :=
  if c.isDigit then
    let value := decimalValue (c :: rest.takeWhile Char.isDigit)
    if inBounds value then .ok (.int value, rest.dropWhile Char.isDigit) else .error .overflow
  else if c = '"' then
    match readLiteral rest with
    | .ok (text, after) => .ok (.str (String.ofList text), after)
    | .error fault => .error (.ofSyntax line (.literal fault))
  else if isNameStart c then
    .ok (.name (String.ofList (c :: rest.takeWhile isNamePart)), rest.dropWhile isNamePart)
  else
    match c, rest with
    | '+', '=' :: after => .ok (.plusEqual, after)
    | '-', '=' :: after => .ok (.minusEqual, after)
    | '+', _ => .ok (.plus, rest)
    | '-', _ => .ok (.minus, rest)
    | '*', _ => .ok (.star, rest)
    | '/', _ => .ok (.slash, rest)
    | '(', _ => .ok (.leftParen, rest)
    | ')', _ => .ok (.rightParen, rest)
    | ',', _ => .ok (.comma, rest)
    | ':', _ => .ok (.colon, rest)
    | '=', _ => .ok (.equal, rest)
    | _, _ => .error (.ofSyntax line (.unexpectedCharacter c))

theorem length_le_of_tokenAt {line : Nat} {c : Char} {rest after : List Char} {t : Token}
    (h : tokenAt line c rest = .ok (t, after)) : after.length ≤ rest.length := by
  unfold tokenAt at h
  split at h
  · dsimp only at h
    split at h
    · simp only [Except.ok.injEq, Prod.mk.injEq] at h
      rw [← h.2]
      exact (List.dropWhile_sublist _).length_le
    · simp at h
  · split at h
    · split at h
      · rename_i hr
        simp only [Except.ok.injEq, Prod.mk.injEq] at h
        rw [← h.2]
        exact Nat.le_of_lt (length_lt_of_readLiteral hr)
      · simp at h
    · split at h
      · simp only [Except.ok.injEq, Prod.mk.injEq] at h
        rw [← h.2]
        exact (List.dropWhile_sublist _).length_le
      · split at h <;> simp only [Except.ok.injEq, Prod.mk.injEq, reduceCtorEq] at h <;>
          simp [← h.2]

/-- The tokens of one line. -/
def tokenizeLine (line : Nat) (cs : List Char) : Except Error (List Token) :=
  match cs with
  | [] => .ok []
  | c :: rest =>
    if Text.isBlank c then tokenizeLine line rest
    else if c = '#' then .ok []
    else
      match h : tokenAt line c rest with
      | .error e => .error e
      | .ok (t, after) =>
        have := length_le_of_tokenAt h
        match tokenizeLine line after with
        | .ok more => .ok (t :: more)
        | .error e => .error e
termination_by cs.length

/-- A line that holds tokens. -/
structure Line where
  /-- Its number in the script, counted from one. -/
  number : Nat
  /-- The number of spaces and tabs it starts with. -/
  indent : Nat
  tokens : List Token
  deriving DecidableEq, Repr

/-- The number of spaces and tabs at the start of a text. -/
def indentOf (cs : List Char) : Nat :=
  (cs.takeWhile fun c => c = ' ' || c = '\t').length

/-- The lines that hold tokens, given the number of the first line. -/
def readLinesFrom (number : Nat) : List (List Char) → Except Error (List Line)
  | [] => .ok []
  | cs :: more =>
    match tokenizeLine number cs with
    | .error e => .error e
    | .ok tokens =>
      match readLinesFrom (number + 1) more with
      | .error e => .error e
      | .ok lines => .ok (if tokens.isEmpty then lines else ⟨number, indentOf cs, tokens⟩ :: lines)

/-- The lines of a script that hold tokens. -/
def readLines (code : String) : Except Error (List Line) :=
  readLinesFrom 1 (Text.splitLines code.toList)

end Laoke.Script
