/-!
# Scanning a settings text

A scanner reads from the front of a text and leaves the rest, or fails.  The
pieces that all parts of the format share stand here: blanks, line ends and
comments.
-/

namespace Laoke.Toml

/-- Reads from the front of a text, or fails. -/
abbrev Scan := StateT (List Char) Option

/-- What a repeated reader makes of a text. -/
inductive Step (α : Type) where
  | read (value : α) (rest : List Char)
  /-- Nothing more to read here. -/
  | stop
  | fail

/-- Reads as often as `step` finds something, which must use up some of the text. -/
def many {α : Type} (step : List Char → Step α) (cs : List Char) : Option (List α × List Char) :=
  match step cs with
  | .fail => none
  | .stop => some ([], cs)
  | .read a rest =>
    if rest.length < cs.length then
      match many step rest with
      | some (more, last) => some (a :: more, last)
      | none => none
    else none
termination_by cs.length

/-- Reads one character. -/
def char (c : Char) : Scan Unit := fun cs =>
  match cs with
  | d :: rest => if d = c then some ((), rest) else none
  | [] => none

/-- Reads a fixed text. -/
def word (cs : List Char) : Scan Unit := fun text =>
  if cs.isPrefixOf text then some ((), text.drop cs.length) else none

/-- Whether a character is a blank inside a line. -/
def isBlank (c : Char) : Bool :=
  c = ' ' || c = '\t'

/-- Skips the blanks of a line. -/
def blanks : Scan Unit := fun cs =>
  some ((), cs.dropWhile isBlank)

/-- Whether a character may stand in a text of any kind: everything but controls, tabs excepted. -/
def isPlain (c : Char) : Bool :=
  c = '\t' || (0x20 ≤ c.toNat && c.toNat ≠ 0x7F)

/-- The rest after a line end. -/
def newline? : List Char → Option (List Char)
  | '\n' :: rest => some rest
  | '\r' :: '\n' :: rest => some rest
  | _ => none

/-- Reads the end of a line or of the text. -/
def lineEnd : Scan Unit := fun cs =>
  match cs with
  | [] => some ((), [])
  | _ => (newline? cs).map fun rest => ((), rest)

/-- Skips a comment, if one starts here. -/
def comment : Scan Unit := fun cs =>
  match cs with
  | '#' :: rest => some ((), rest.dropWhile isPlain)
  | _ => some ((), cs)

/-- Reads what may follow the end of an expression on its line. -/
def lineRest : Scan Unit := do
  blanks
  comment
  lineEnd

/-- Skips blanks, line ends and comments that end with their line; the flag says that a comment
is open. -/
def layoutFrom : Bool → List Char → Option (List Char)
  | false, [] => some []
  | true, [] => none
  | _, '\n' :: rest => layoutFrom false rest
  | _, '\r' :: '\n' :: rest => layoutFrom false rest
  | true, c :: rest => if isPlain c then layoutFrom true rest else none
  | false, c :: rest =>
    if isBlank c then layoutFrom false rest
    else if c = '#' then layoutFrom true rest
    else if c = '\r' then none
    else some (c :: rest)

/-- Skips blanks, line ends and comments. -/
def layout : Scan Unit := fun cs =>
  (layoutFrom false cs).map fun rest => ((), rest)

end Laoke.Toml
