/-!
# Values of a settings text

Tables keep the order of their keys.  While a text is read a table also
remembers how it came about, since a table may be opened once by a header, and
dotted keys may only extend tables that dotted keys made.
-/

namespace Laoke.Toml

/-- A value of a settings text. -/
inductive Value where
  | string (s : String)
  | integer (n : Int)
  | float
  | boolean (b : Bool)
  | dateTime
  | array (items : List Value)
  | table (entries : List (String × Value))
  deriving Repr

/-- What stands under a key while a text is read. -/
inductive Node where
  /-- A value given outright; nothing can be added to it. -/
  | value (v : Value)
  /-- A table.  It is implicit if no header opened it yet, and dotted if dotted keys made it. -/
  | table (implicit dotted : Bool) (entries : List (String × Node))
  /-- Tables under one header that is repeated. -/
  | tables (items : List (List (String × Node)))
  deriving Repr

/-- A table while a text is read. -/
structure TableNode where
  implicit : Bool := false
  dotted : Bool := false
  entries : List (String × Node) := []

namespace TableNode

/-- A table as what stands under a key. -/
def toNode (t : TableNode) : Node :=
  .table t.implicit t.dotted t.entries

/-- What stands under a key. -/
def get? (t : TableNode) (key : String) : Option Node :=
  t.entries.lookup key

/-- The table with something else under a key. -/
def set (t : TableNode) (key : String) (node : Node) : TableNode :=
  if (t.get? key).isSome then
    { t with entries := t.entries.map fun (k, n) => if k = key then (k, node) else (k, n) }
  else { t with entries := t.entries ++ [(key, node)] }

/-- Changes the table at the end of a path.  Tables missing on the way are made, and of repeated
tables the last one counts. -/
def modify (dotted : Bool) (change : TableNode → Option TableNode) :
    List String → TableNode → Option TableNode
  | [], t => change t
  | key :: path, t =>
    match t.get? key with
    | none =>
      (modify dotted change path { implicit := true, dotted }).map fun child =>
        t.set key child.toNode
    | some (.value _) => none
    | some (.table implicit wasDotted entries) =>
      if dotted && !implicit then none
      else
        (modify dotted change path ⟨implicit, wasDotted, entries⟩).map fun child =>
          t.set key child.toNode
    | some (.tables items) =>
      match items.getLast? with
      | none => none
      | some last =>
        (modify dotted change path { entries := last }).map fun child =>
          t.set key (.tables (items.dropLast ++ [child.entries]))

/-- Adds a value under a dotted key: the path to its table and its name there. -/
def addValue (path : List String) (key : String) (v : Value) (t : TableNode) : Option TableNode :=
  t.modify true (fun table =>
    if table.dotted = path.isEmpty || (table.get? key).isSome then none
    else some (table.set key (.value v))) path

/-- Adds values one after the other. -/
def addValues : List (List String × Value) → TableNode → Option TableNode
  | [], t => some t
  | (key, v) :: more, t =>
    match key.getLast? with
    | none => none
    | some name =>
      match t.addValue key.dropLast name v with
      | none => none
      | some t => addValues more t

end TableNode

mutual

/-- What stands under a key, as a value. -/
def Node.toValue : Node → Value
  | .value v => v
  | .table _ _ entries => .table (entryValues entries)
  | .tables items => .array (tableValues items)

/-- The values under the keys of a table. -/
def entryValues : List (String × Node) → List (String × Value)
  | [] => []
  | (key, node) :: more => (key, node.toValue) :: entryValues more

/-- The values of repeated tables. -/
def tableValues : List (List (String × Node)) → List Value
  | [] => []
  | entries :: more => .table (entryValues entries) :: tableValues more

end

end Laoke.Toml
