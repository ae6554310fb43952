import Laoke.Text.Lines

/-!
# The history of a dialogue

The lines entered, oldest first.  Empty lines and lines equal to the one before
are not kept, and only the last hundred are.  A history file starts with a mark;
backslashes and line feeds inside a line are escaped in it.  A file without the
mark is read as plain lines.
-/

namespace Laoke

/-- The lines entered, and how many of them are not in the history file yet. -/
structure History where
  entries : List String := []
  fresh : Nat := 0
  deriving DecidableEq, Repr

namespace History

/-- The number of lines that are kept. -/
def capacity : Nat := 100

/-- The first line of a history file. -/
def mark : String := "#V2"

/-- Whether a line is kept. -/
def keeps (h : History) (line : String) : Bool :=
  !line.isEmpty && h.entries.getLast? ≠ some line

/-- Enters a line. -/
def add (h : History) (line : String) : History :=
  if h.keeps line then
    let entries := (if h.entries.length = capacity then h.entries.tail else h.entries) ++ [line]
    { entries, fresh := min (h.fresh + 1) entries.length }
  else h

/-- A character of a line as it stands in a history file. -/
def escapeChar (c : Char) : List Char :=
  if c = '\\' then ['\\', '\\']
  else if c = '\n' then ['\\', 'n']
  else [c]

/-- The line that an escaped line stands for; nothing if an escape is unknown. -/
def unescape? : List Char → Option (List Char)
  | [] => some []
  | '\\' :: '\\' :: rest => (unescape? rest).map ('\\' :: ·)
  | '\\' :: 'n' :: rest => (unescape? rest).map ('\n' :: ·)
  | '\\' :: _ => none
  | c :: rest => (unescape? rest).map (c :: ·)

/-- The text of the history file. -/
def toText (h : History) : String :=
  mark ++ "\n" ++ String.join (h.entries.map fun entry =>
    String.ofList (entry.toList.flatMap escapeChar) ++ "\n")

/-- A line of a marked file. A line with an unknown escape stands for itself. -/
def readLine (cs : List Char) : String :=
  String.ofList ((unescape? cs).getD cs)

/-- The lines of a marked file that hold an unknown escape. -/
def badLines (text : String) : List String :=
  match Text.splitLines text.toList with
  | first :: more =>
    if String.ofList first = mark then
      (more.filter fun cs => (unescape? cs).isNone).map String.ofList
    else []
  | [] => []

/-- The history in a file. -/
def ofText (text : String) : History :=
  let lines := Text.splitLines text.toList
  let entries :=
    match lines with
    | [] => []
    | first :: more =>
      if String.ofList first = mark then more.map readLine else lines.map String.ofList
  { entries.foldl add {} with fresh := 0 }

/-- Whether there is something to write into the history file. -/
def isChanged (h : History) : Bool :=
  h.fresh ≠ 0

end History

end Laoke
