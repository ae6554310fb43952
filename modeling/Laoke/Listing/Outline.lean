import Laoke.Program

/-!
# Listings for readers

A program is listed as an outline: every part stands on lines of its own under
the name of its form, four spaces deeper than what it is part of, with a comma
after it.
-/

namespace Laoke.Listing

/-- A part of an outline. -/
inductive Outline where
  | leaf (text : String)
  /-- A named form and its unnamed parts. -/
  | form (name : String) (parts : List Outline)
  /-- A named form and its named parts. -/
  | record (name : String) (fields : List (String × Outline))
  | list (items : List Outline)

namespace Outline

/-- The start of a line at a given depth. -/
def margin (depth : Nat) : String :=
  String.ofList (List.replicate (4 * depth) ' ')

mutual

/-- The text of a part whose lines start at a given depth. -/
def render (depth : Nat) : Outline → String
  | leaf text => text
  | form name parts => name ++ "(\n" ++ renderAll (depth + 1) parts ++ margin depth ++ ")"
  | record name fields =>
    name ++ " \x7b\n" ++ renderFields (depth + 1) fields ++ margin depth ++ "\x7d"
  | list items =>
    if items.isEmpty then "[]"
    else "[\n" ++ renderAll (depth + 1) items ++ margin depth ++ "]"

/-- The lines of unnamed parts. -/
def renderAll (depth : Nat) : List Outline → String
  | [] => ""
  | part :: more => margin depth ++ render depth part ++ ",\n" ++ renderAll depth more

/-- The lines of named parts. -/
def renderFields (depth : Nat) : List (String × Outline) → String
  | [] => ""
  | (name, part) :: more =>
    margin depth ++ name ++ ": " ++ render depth part ++ ",\n" ++ renderFields depth more

end

/-- A text as a part. -/
def ofText (s : String) : Outline :=
  .leaf (Text.quoted s)

/-- A token as a part. -/
def ofToken (t : Token) : Outline :=
  .form t.kind.name [match t with
    | .keyword k => .leaf k.name
    | .identifier s => ofText s
    | .string s => ofText s
    | .integer n => .leaf n.repr]

/-- An expression as a part. -/
def ofExpression (e : Expression) : Outline :=
  .record "Expression" [("tokens", .list (e.map ofToken))]

mutual

/-- A statement as a part. -/
def ofStatement : Statement → Outline
  | .say e => .form "Say" [ofExpression e]
  | .declare x => .form "VarDecl" [ofText x]
  | .assign x e => .form "Assign" [ofText x, ofExpression e]
  | .increase x e => .form "IncBy" [ofText x, ofExpression e]
  | .decrease x e => .form "DecBy" [ofText x, ofExpression e]
  | .loop x first last body =>
    .record "Loop" [("var", ofText x), ("from", ofExpression first), ("to", ofExpression last),
      ("body", .list (ofStatements body))]

/-- Statements as parts. -/
def ofStatements : List Statement → List Outline
  | [] => []
  | s :: more => ofStatement s :: ofStatements more

end

end Outline

/-- The outline of a program. -/
def programOutline (program : Program) : String :=
  (Outline.record "Program" [("statements", .list (Outline.ofStatements program))]).render 0

end Laoke.Listing
