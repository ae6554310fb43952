import Laoke.Proofs.Numbering
import Laoke.Proofs.Respelling

/-!
# Names, given and read

A table gives a name to every identifier that is resolved, and a script shows the
name wherever the identifier stands.  For that to work a name must not change
once it has been given, must not be given twice, and must come back as one token
when the script is read.

* `SymbolTable.nodup_insert`, `SymbolTable.nodup_insertAll`: no identifier is met
  twice, after one more call and after any number of calls.
* `SymbolTable.resolveAll_eq`: the names that calls return are those of the table
  after the last of them.
* `SymbolTable.get?_eq_lookup`: the name of an identifier is the one in its entry.
* `SymbolTable.kept_resolve`, `SymbolTable.kept_resolveAll`: a table that keeps the names
  it has given, and makes each of them once, gives the same names.
* `names_of_resolveAll`: so names are numbered by first calls, and stay.
* `Script.isName_iff_one_token`: a text is a name if and only if it reads as one, and
  so does every name that a table can give.
-/

namespace Laoke

/-! ### Names that are given -/

namespace SymbolTable

/-- Resolves identifiers one after the other: the names that the calls return, and the table after
the last call. -/
def resolveAll (t : SymbolTable) : List String → List String × SymbolTable
  | [] => ([], t)
  | x :: xs =>
    let (name, t) := t.resolve x
    let (names, t) := t.resolveAll xs
    (name :: names, t)

theorem nodup_insert {t : SymbolTable} (h : t.identifiers.Nodup) (x : String) :
    (t.insert x).identifiers.Nodup := by
  unfold insert
  split
  · exact h
  · rename_i hx
    refine List.nodup_append.2 ⟨h, List.pairwise_singleton _ x, fun y hy z hz he => hx ?_⟩
    rwa [← List.mem_singleton.1 hz, ← he]

theorem nodup_insertAll {t : SymbolTable} (h : t.identifiers.Nodup) (xs : List String) :
    (t.insertAll xs).identifiers.Nodup := by
  induction xs generalizing t with
  | nil => exact h
  | cons x xs ih => exact ih (nodup_insert h x)

/-- **A name that was returned is the name for good**: all calls agree with the last table. -/
theorem resolveAll_eq (t : SymbolTable) (xs : List String) :
    t.resolveAll xs = (xs.map (t.insertAll xs).nameOf, t.insertAll xs) := by
  induction xs generalizing t with
  | nil => rfl
  | cons x xs ih =>
    have hlast : (t.insertAll (x :: xs)).nameOf x = t.nameOf x := by
      rw [← t.nameOf_insert x]
      exact nameOf_of_extends (extends_insertAll (t.insert x) xs) (t.mem_insert x)
    rw [List.map_cons, hlast]
    show ((t.resolve x).1 :: ((t.insert x).resolveAll xs).1, ((t.insert x).resolveAll xs).2) = _
    rw [ih]
    rfl

/-- Later calls do not change what an identifier is found under. -/
theorem get?_insertAll (t : SymbolTable) {x : String} (hx : x ∈ t.identifiers)
    (later : List String) : (t.insertAll later).get? x = some (t.nameOf x) := by
  have hlater := t.extends_insertAll later
  rw [get?_of_mem _ (hlater.mem hx), nameOf_of_extends hlater hx]

theorem keys_entries (t : SymbolTable) : t.entries.map Prod.fst = t.identifiers := by
  rw [entries, List.map_map]
  exact List.zipIdx_map_fst 0 t.identifiers

theorem eq_nameAt_of_entries {t : SymbolTable} {i : Nat} {x name : String}
    (h : t.entries[i]? = some (x, name)) : name = t.nameAt i := by
  rw [entries, List.getElem?_map, List.getElem?_zipIdx, Option.map_map,
    Option.map_eq_some_iff] at h
  obtain ⟨y, -, hy⟩ := h
  rw [← (Prod.mk.inj hy).2, Nat.zero_add]

/-- The entries of a table that has met no identifier twice. -/
theorem entries_eq_map {t : SymbolTable} (h : t.identifiers.Nodup) :
    t.entries = t.identifiers.map fun x => (x, t.nameOf x) := by
  refine List.ext_getElem (by simp [entries]) fun i hi hi' => ?_
  have hlt : i < t.identifiers.length := by simpa using hi'
  simp [entries, nameOf, h.idxOf_getElem i hlt]

theorem get?_eq_lookup {t : SymbolTable} (h : t.identifiers.Nodup) (x : String) :
    t.get? x = t.entries.lookup x := by
  rw [entries_eq_map h]
  by_cases hx : x ∈ t.identifiers
  · rw [t.get?_of_mem hx, List.lookup_graph _ hx]
  · have hnone : t.identifiers.idxOf? x = none := List.idxOf?_eq_none_iff.2 hx
    rw [get?, hnone, Option.map_none, eq_comm, List.lookup_eq_none_iff]
    intro p hp
    obtain ⟨y, hy, rfl⟩ := List.mem_map.1 hp
    exact bne_iff_ne.2 fun he => hx (he ▸ hy)

end SymbolTable

/-! ### Names that are kept -/

/-- A table that keeps the names it has given, each beside its identifier. -/
structure NameStore where
  stem : String
  entries : List (String × String) := []
  deriving DecidableEq, Repr

namespace NameStore

/-- The name that is kept for an identifier. -/
def get? (t : NameStore) (x : String) : Option String :=
  t.entries.lookup x

/-- The name that is kept for an identifier.  If there is none, one is made of the number of entries,
and kept. -/
def resolve (t : NameStore) (x : String) : String × NameStore :=
  match t.get? x with
  | some name => (name, t)
  | none =>
    let name := t.stem ++ t.entries.length.repr
    (name, { t with entries := t.entries ++ [(x, name)] })

/-- Resolves identifiers one after the other. -/
def resolveAll (t : NameStore) : List String → List String × NameStore
  | [] => ([], t)
  | x :: xs =>
    let (name, t) := t.resolve x
    let (names, t) := t.resolveAll xs
    (name :: names, t)

end NameStore

namespace SymbolTable

/-- The same table with the names in it. -/
def kept (t : SymbolTable) : NameStore :=
  ⟨t.stem, t.entries⟩

theorem length_entries (t : SymbolTable) : t.entries.length = t.identifiers.length := by
  rw [← t.keys_entries, List.length_map]

theorem kept_insert {t : SymbolTable} {x : String} (hx : x ∉ t.identifiers) :
    (t.insert x).kept = ⟨t.stem, t.entries ++ [(x, t.nameAt t.identifiers.length)]⟩ := by
  rw [insert, if_neg hx, kept, entries, entries, List.zipIdx_append, List.map_append, Nat.zero_add]
  rfl

/-- **One call**: the name is found where it was kept, or is new and has the next number. -/
theorem kept_resolve {t : SymbolTable} (h : t.identifiers.Nodup) (x : String) :
    t.kept.resolve x = ((t.resolve x).1, (t.resolve x).2.kept) := by
  have hget : t.kept.get? x = t.get? x := (get?_eq_lookup h x).symm
  by_cases hx : x ∈ t.identifiers
  · have hsame : t.insert x = t := if_pos hx
    rw [NameStore.resolve, hget, t.get?_of_mem hx, resolve, hsame]
    rfl
  · have hnone : t.get? x = none := by rw [get?, List.idxOf?_eq_none_iff.2 hx]; rfl
    have hnumber : t.identifiers.idxOf x = t.identifiers.length := List.idxOf_of_notMem hx
    have hname : t.kept.stem ++ t.kept.entries.length.repr = t.nameAt t.identifiers.length := by
      show t.nameAt t.entries.length = _
      rw [length_entries]
    rw [NameStore.resolve, hget, hnone, resolve, hnumber]
    dsimp only
    rw [hname, kept_insert hx]
    rfl

/-- **All calls.** -/
theorem kept_resolveAll {t : SymbolTable} (h : t.identifiers.Nodup) (xs : List String) :
    t.kept.resolveAll xs = ((t.resolveAll xs).1, (t.resolveAll xs).2.kept) := by
  induction xs generalizing t with
  | nil => rfl
  | cons x xs ih =>
    have hrest := ih (nodup_insert h x)
    rw [NameStore.resolveAll, kept_resolve h x]
    dsimp only
    rw [show (t.resolve x).2 = t.insert x from rfl, hrest]
    rfl

end SymbolTable

/-- **Names are numbered by first calls, and stay.**  Whatever identifiers are resolved, and however
often: the entries are the identifiers in the order of their first calls, each once, and the number
in a name is the place of its entry; what a call returned is what the table holds, now and after any
later calls; and two calls return the same name if and only if they were for the same identifier.
The names do not have to be counted again to be found: a table that makes each of them once and keeps
it returns the same names, and keeps these entries. -/
theorem names_of_resolveAll {stem : String} {calls names : List String} {t : SymbolTable}
    (h : ({ stem } : SymbolTable).resolveAll calls = (names, t)) :
    (t.entries.map Prod.fst = calls.eraseDups ∧ (t.entries.map Prod.fst).Nodup) ∧
      (∀ (i : Nat) (x name : String), t.entries[i]? = some (x, name) → name = stem ++ i.repr) ∧
      (∀ x, t.get? x = t.entries.lookup x) ∧
      (∀ later, calls.map (t.resolveAll later).2.get? = names.map some) ∧
      (∀ p ∈ calls.zip names, ∀ q ∈ calls.zip names, p.2 = q.2 ↔ p.1 = q.1) ∧
      ({ stem } : NameStore).resolveAll calls = (names, ⟨stem, t.entries⟩) := by
  obtain ⟨rfl, rfl⟩ := Prod.mk.inj ((SymbolTable.resolveAll_eq _ _).symm.trans h)
  set t := ({ stem } : SymbolTable).insertAll calls
  have hstem : t.stem = stem := (SymbolTable.extends_insertAll _ calls).stem
  have hnone : SymbolTable.identifiers { stem } = ([] : List String).eraseDups := rfl
  have hmet : t.identifiers = calls.eraseDups := SymbolTable.identifiers_insertAll hnone calls
  have hnodup : t.identifiers.Nodup := SymbolTable.nodup_insertAll List.nodup_nil calls
  have hmem : ∀ x ∈ calls, x ∈ t.identifiers := fun x hx => SymbolTable.mem_insertAll _ hx
  refine ⟨?_, ?_, SymbolTable.get?_eq_lookup hnodup, ?_, ?_, ?_⟩
  · rw [t.keys_entries]
    exact ⟨hmet, hnodup⟩
  · intro i x name hi
    rw [SymbolTable.eq_nameAt_of_entries hi, SymbolTable.nameAt, hstem]
  · intro later
    rw [SymbolTable.resolveAll_eq, List.map_map]
    exact List.map_congr_left fun x hx => t.get?_insertAll (hmem x hx) later
  · rw [← List.map_prod_left_eq_zip]
    intro p hp q hq
    obtain ⟨x, hx, rfl⟩ := List.mem_map.1 hp
    obtain ⟨y, -, rfl⟩ := List.mem_map.1 hq
    exact ⟨t.nameOf_inj (hmem x hx), fun he => congrArg t.nameOf he⟩
  · have hkept := SymbolTable.kept_resolveAll (t := { stem }) List.nodup_nil calls
    have hlast : t.kept = ⟨stem, t.entries⟩ := congrArg (NameStore.mk · t.entries) hstem
    rw [SymbolTable.resolveAll_eq] at hkept
    exact hkept.trans (congrArg (Prod.mk _) hlast)

/-- New and repeated identifiers in turn, and a stem that itself ends in a digit. -/
theorem names_of_resolveAll_interleaved :
    ({ stem := "v1" } : SymbolTable).resolveAll ["乙", "甲", "乙", "v10", "甲"] =
        (["v10", "v11", "v10", "v12", "v11"], ⟨"v1", ["乙", "甲", "v10"]⟩) ∧
      (∀ later, ["乙", "甲", "乙", "v10", "甲"].map
          (SymbolTable.resolveAll ⟨"v1", ["乙", "甲", "v10"]⟩ later).2.get? =
        ["v10", "v11", "v10", "v12", "v11"].map some) ∧
      ({ stem := "v1" } : NameStore).resolveAll ["乙", "甲", "乙", "v10", "甲"] =
        (["v10", "v11", "v10", "v12", "v11"],
          ⟨"v1", [("乙", "v10"), ("甲", "v11"), ("v10", "v12")]⟩) := by
  have hcalls : ({ stem := "v1" } : SymbolTable).resolveAll ["乙", "甲", "乙", "v10", "甲"] =
      (["v10", "v11", "v10", "v12", "v11"], ⟨"v1", ["乙", "甲", "v10"]⟩) := by decide +kernel
  obtain ⟨-, -, -, hstay, -, hkept⟩ := names_of_resolveAll hcalls
  exact ⟨hcalls, hstay, hkept⟩

/-! ### Names that are read -/

namespace Script

/-- **A text is a name if and only if it reads as one**: a line that holds nothing else, no blank in
front and no comment behind, and whose first token goes on to its end. -/
theorem isName_iff_tokenizeLine (s : String) (line : Nat) :
    isName s.toList = true ↔ tokenizeLine line s.toList = .ok [.name s] := by
  constructor
  · intro h
    have hwritten := Written.token (t := .name s) h (closes_nil _) .nil
    rw [List.append_nil] at hwritten
    exact hwritten.tokenizeLine line
  · intro h
    exact spellable_of_tokenizeLine h (.name s) List.mem_cons_self

/-- **Names are what reads as a name**, on any line.  So a stem that is a name gives names only,
whatever the number behind it: each reads as one token that is itself, and none is a reserved
word. -/
theorem isName_iff_one_token :
    (∀ (s : String) (line : Nat),
      isName s.toList = true ↔ tokenizeLine line s.toList = .ok [.name s]) ∧
    ∀ t : SymbolTable, isName t.stem.toList = true → ∀ i line : Nat,
      tokenizeLine line (t.nameAt i).toList = .ok [.name (t.nameAt i)] ∧
        isReserved (t.nameAt i) = false := by
  refine ⟨isName_iff_tokenizeLine, fun t ht i line => ⟨?_, isReserved_nameAt t i⟩⟩
  exact (isName_iff_tokenizeLine _ _).1 (isName_nameAt ht i)

/-- Blanks and comments leave no trace in the tokens, but the text is another one; and a stem may be
a reserved word. -/
theorem isName_iff_one_token_edges :
    isName "_数²٣".toList = true ∧ tokenizeLine 3 "_数²٣".toList = .ok [.name "_数²٣"] ∧
      tokenizeLine 3 " x#".toList = .ok [.name "x"] ∧ isName " x#".toList = false ∧
      isReserved "in" = true ∧ tokenizeLine 3 "in10".toList = .ok [.name "in10"] ∧
      isReserved "in10" = false := by
  have hname : isName "_数²٣".toList = true := by decide +kernel
  have hblank : tokenizeLine 3 " x#".toList = .ok [.name "x"] := by decide +kernel
  have hnot : isName " x#".toList = false := by
    rw [← Bool.not_eq_true, isName_iff_one_token.1 _ 3, hblank]
    decide
  exact ⟨hname, (isName_iff_one_token.1 _ 3).1 hname, hblank, hnot, by decide,
    isName_iff_one_token.2 { stem := "in" } (by decide +kernel) 10 3⟩

end Script

end Laoke
