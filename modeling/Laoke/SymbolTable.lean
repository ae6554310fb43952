/-!
# Symbol tables

A table gives every identifier of a program a name of its own in the script: a
common stem followed by a number, counted from zero in the order in which the
identifiers are first met.  Only the identifiers are kept, since an
identifier's place in the list is its number.
-/

namespace Laoke

/-- The identifiers met so far, and the stem of the names that stand for them. -/
structure SymbolTable where
  stem : String
  identifiers : List String := []
  deriving DecidableEq, Repr

namespace SymbolTable

/-- The name with a given number. -/
def nameAt (t : SymbolTable) (i : Nat) : String :=
  t.stem ++ i.repr

/-- The number of identifiers met. -/
def size (t : SymbolTable) : Nat :=
  t.identifiers.length

/-- The name of an identifier that was met before. -/
def get? (t : SymbolTable) (x : String) : Option String :=
  (t.identifiers.idxOf? x).map t.nameAt

/-- The table in which an identifier has been met. -/
def insert (t : SymbolTable) (x : String) : SymbolTable :=
  if x ∈ t.identifiers then t else { t with identifiers := t.identifiers ++ [x] }

/-- The name of an identifier, which gets the next number if it is new. -/
def resolve (t : SymbolTable) (x : String) : String × SymbolTable :=
  (t.nameAt (t.identifiers.idxOf x), t.insert x)

/-- All identifiers with their names, in the order in which they were met. -/
def entries (t : SymbolTable) : List (String × String) :=
  t.identifiers.zipIdx.map fun (x, i) => (x, t.nameAt i)

end SymbolTable

end Laoke
