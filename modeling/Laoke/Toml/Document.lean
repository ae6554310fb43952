import Laoke.Toml.Number
import Laoke.Toml.Value

/-!
# Settings texts

A settings text is a list of values under dotted keys, part of them below
headers that name the table they belong to.  `parse` gives the table of the whole
text, or nothing if the text is malformed or says the same thing twice.
-/

namespace Laoke.Toml

/-- Reads a value that holds no other values. -/
def scalar : Scan Value := fun cs =>
  match cs with
  | [] => none
  | c :: _ =>
    if c = '"' || c = '\'' then (do return .string (← string) : Scan Value) cs
    else if c = 't' then (do word ['t', 'r', 'u', 'e']; return .boolean true : Scan Value) cs
    else if c = 'f' then (do word ['f', 'a', 'l', 's', 'e']; return .boolean false : Scan Value) cs
    else if c = 'i' || c = 'n' then (do wordFloat; return .float : Scan Value) cs
    else
      (((do dateTime; return .dateTime : Scan Value) cs).or
        (((do digitFloat; return .float : Scan Value) cs).or
          (((do wordFloat; return .float : Scan Value) cs).or
            ((do return .integer (← integer) : Scan Value) cs))))

/-- Reads a further item of an array.  Items are divided by commas, and one may follow the last. -/
def arrayStep (value : Scan Value) (cs : List Char) : Step Value :=
  match layout cs with
  | none => .fail
  | some ((), ']' :: _) => .stop
  | some ((), rest) =>
    match (do let v ← value; layout; return v : Scan Value) rest with
    | none => .fail
    | some (v, ',' :: after) => .read v after
    | some (v, ']' :: after) => .read v (']' :: after)
    | some _ => .fail

/-- Reads an array after its opening bracket. -/
def array (value : Scan Value) : Scan Value := fun cs => do
  let (items, rest) ← many (arrayStep value) cs
  let ((), rest) ← layout rest
  let ((), after) ← char ']' rest
  return (.array items, after)

/-- Reads a key and its value inside a table in braces. -/
def inlinePair (value : Scan Value) : Scan (List String × Value) := do
  let key ← keyPath
  char '='
  blanks
  let v ← value
  blanks
  return (key, v)

/-- Reads a further pair after a comma. -/
def inlineStep (value : Scan Value) : List Char → Step (List String × Value)
  | ',' :: rest =>
    match inlinePair value rest with
    | some (pair, after) => .read pair after
    | none => .fail
  | _ => .stop

/-- Reads a table after its opening brace. -/
def inlineTable (value : Scan Value) : Scan Value := fun cs =>
  match cs.dropWhile isBlank with
  | '\x7d' :: after => some (.table [], after)
  | _ => do
    let (first, rest) ← inlinePair value cs
    let (more, rest) ← many (inlineStep value) rest
    let ((), after) ← char '\x7d' rest
    let t ← TableNode.addValues (first :: more) {}
    return (.table (entryValues t.entries), after)

/-- Reads a value in which at most `depth` brackets and braces are open at a time. -/
def value : Nat → Scan Value
  | 0 => scalar
  | depth + 1 => fun cs =>
    match cs with
    | '[' :: rest => array (value depth) rest
    | '\x7b' :: rest => inlineTable (value depth) rest
    | _ => scalar cs

/-- A line of a settings text. -/
inductive Entry where
  | pair (key : List String) (v : Value)
  /-- A header; a repeated one stands in double brackets. -/
  | header (repeats : Bool) (key : List String)

/-- Reads a header after its first bracket. -/
def header : Scan Entry := fun cs =>
  match cs with
  | '[' :: rest => (do
    let key ← keyPath
    word [']', ']']
    lineRest
    return .header true key : Scan Entry) rest
  | _ => (do
    let key ← keyPath
    char ']'
    lineRest
    return .header false key : Scan Entry) cs

/-- Reads a key, its value and the rest of the line. -/
def pair : Scan Entry := do
  let key ← keyPath
  char '='
  blanks
  let v ← value (depthLimit - 1)
  lineRest
  return .pair key v

/-- Reads a line, which may hold nothing. -/
def entryStep (cs : List Char) : Step (Option Entry) :=
  let text := cs.dropWhile isBlank
  let content? : Option (Option Entry × List Char) :=
    match text with
    | [] => none
    | '#' :: _ => (do lineRest; return none : Scan (Option Entry)) text
    | '[' :: rest => (do return some (← header) : Scan (Option Entry)) rest
    | '\n' :: _ => (do lineEnd; return none : Scan (Option Entry)) text
    | '\r' :: _ => (do lineEnd; return none : Scan (Option Entry)) text
    | _ => (do return some (← pair) : Scan (Option Entry)) text
  if text.isEmpty then .stop
  else
    match content? with
    | some (found?, rest) => .read found? rest
    | none => .fail

/-- Adds the table that a header opens, with its values. -/
def addSection (root : TableNode) (repeats : Bool) (key : List String)
    (pairs : List (List String × Value)) : Option TableNode :=
  match key.getLast? with
  | none => none
  | some name =>
    root.modify false (fun parent =>
      match parent.get? name, repeats with
      | none, false =>
        (TableNode.addValues pairs {}).map fun t => parent.set name t.toNode
      | some (.table true false entries), false =>
        (TableNode.addValues pairs { entries }).map fun t => parent.set name t.toNode
      | none, true =>
        (TableNode.addValues pairs {}).map fun t => parent.set name (.tables [t.entries])
      | some (.tables items), true =>
        (TableNode.addValues pairs {}).map fun t =>
          parent.set name (.tables (items ++ [t.entries]))
      | _, _ => none) key.dropLast

/-- Groups entries into the values before the first header and one section for each header. -/
def sections : List Entry → List (List String × Value) × List (Bool × List String ×
    List (List String × Value))
  | [] => ([], [])
  | .pair key v :: more =>
    let (pairs, rest) := sections more
    ((key, v) :: pairs, rest)
  | .header repeats key :: more =>
    let (pairs, rest) := sections more
    ([], (repeats, key, pairs) :: rest)

/-- The table of a list of entries. -/
def assemble (entries : List Entry) : Option TableNode :=
  let (pairs, rest) := sections entries
  rest.foldl (fun root? (repeats, key, pairs) =>
    root?.bind fun root => addSection root repeats key pairs) (TableNode.addValues pairs {})

/-- The table of a settings text.  A byte order mark may stand before it. -/
def parse (text : String) : Option (List (String × Value)) := do
  let cs := text.toList
  let cs := if cs.head? = some '\ufeff' then cs.tail else cs
  let (entries, _) ← many entryStep cs
  let root ← assemble (entries.filterMap id)
  return entryValues root.entries

end Laoke.Toml
