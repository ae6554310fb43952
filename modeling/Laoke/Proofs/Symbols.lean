import Laoke.SymbolTable
import Mathlib.Data.List.Basic

/-!
# Names that stay

A table only grows at its end, so the name of an identifier is settled once it
has been met: every later table gives the same one (`nameOf_of_extends`).
Different identifiers have different names, since a name is the stem followed by
the identifier's place (`nameOf_inj`), and that is the place at which it came
first (`insertAll_eq`).
-/

namespace Laoke.SymbolTable

/-- The name that stands for an identifier.  One that was not met yet has the next number. -/
def nameOf (t : SymbolTable) (x : String) : String :=
  t.nameAt (t.identifiers.idxOf x)

/-- The table in which some identifiers have been met, one after the other. -/
def insertAll (t : SymbolTable) (xs : List String) : SymbolTable :=
  xs.foldl insert t

/-- A table that has met everything another one has, first and in the same order. -/
structure Extends (t t' : SymbolTable) : Prop where
  stem : t'.stem = t.stem
  identifiers : t.identifiers <+: t'.identifiers

theorem Extends.refl (t : SymbolTable) : Extends t t := ⟨rfl, List.prefix_refl _⟩

theorem Extends.trans {t u v : SymbolTable} (h : Extends t u) (g : Extends u v) : Extends t v :=
  ⟨g.stem.trans h.stem, h.identifiers.trans g.identifiers⟩

theorem Extends.mem {t u : SymbolTable} (h : Extends t u) {x : String} (hx : x ∈ t.identifiers) :
    x ∈ u.identifiers := h.identifiers.subset hx

theorem extends_insert (t : SymbolTable) (x : String) : Extends t (t.insert x) := by
  unfold insert
  split
  · exact .refl t
  · exact ⟨rfl, List.prefix_append _ _⟩

theorem mem_insert (t : SymbolTable) (x : String) : x ∈ (t.insert x).identifiers := by
  unfold insert
  split
  · assumption
  · simp

theorem insertAll_append (t : SymbolTable) (xs ys : List String) :
    t.insertAll (xs ++ ys) = (t.insertAll xs).insertAll ys := List.foldl_append

/-- **A table goes on with what it has not met**, each identifier once and in the order in which they
come first. -/
theorem insertAll_eq (t : SymbolTable) (xs : List String) :
    t.insertAll xs =
      { t with identifiers := t.identifiers ++ (xs.filter (· ∉ t.identifiers)).eraseDups } := by
  induction xs generalizing t with
  | nil => simp [insertAll]
  | cons x xs ih =>
    have hstep : t.insertAll (x :: xs) = (t.insert x).insertAll xs := rfl
    rw [hstep, ih, insert]
    by_cases hx : x ∈ t.identifiers
    · simp [hx]
    · -- From now on the table has met `x`, which leaves it out of the others.
      have hothers : xs.filter (· ∉ t.identifiers ++ [x]) =
          (xs.filter (· ∉ t.identifiers)).filter (fun y => !y == x) := by
        rw [List.filter_filter]
        refine List.filter_congr fun y _ => ?_
        by_cases hy : y = x <;> simp [hy]
      rw [if_neg hx, hothers, List.filter_cons_of_pos (by simpa using hx), List.eraseDups_cons,
        List.append_assoc, List.singleton_append]

theorem extends_insertAll (t : SymbolTable) (xs : List String) : Extends t (t.insertAll xs) := by
  induction xs generalizing t with
  | nil => exact .refl t
  | cons x xs ih => exact (t.extends_insert x).trans (ih _)

theorem mem_insertAll (t : SymbolTable) {xs : List String} {x : String} (h : x ∈ xs) :
    x ∈ (t.insertAll xs).identifiers := by
  induction xs generalizing t with
  | nil => exact absurd h (by simp)
  | cons y ys ih =>
    rcases List.mem_cons.1 h with rfl | h
    · exact (extends_insertAll (t.insert x) ys).mem (t.mem_insert x)
    · exact ih (t.insert y) h

/-- **Names stay**: a table that has met an identifier has settled its name. -/
theorem nameOf_of_extends {t t' : SymbolTable} (h : Extends t t') {x : String}
    (hx : x ∈ t.identifiers) : t'.nameOf x = t.nameOf x := by
  obtain ⟨more, hmore⟩ := h.identifiers
  rw [nameOf, nameOf, nameAt, nameAt, h.stem, ← hmore, List.idxOf_append_of_mem hx]

theorem nameOf_insert (t : SymbolTable) (x : String) : (t.insert x).nameOf x = t.nameOf x := by
  unfold insert
  split
  · rfl
  · rename_i hx
    rw [nameOf, nameOf, List.idxOf_append_of_notMem hx, List.idxOf_eq_length hx]
    simp [nameAt]

theorem nameAt_inj (t : SymbolTable) {i j : Nat} (h : t.nameAt i = t.nameAt j) : i = j := by
  have hd : Nat.toDigits 10 i = Nat.toDigits 10 j := by
    rw [← Nat.toList_repr, ← Nat.toList_repr, (String.append_right_inj t.stem).1 h]
  rw [← Nat.ofDigitChars_ten_toDigits (n := i), hd, Nat.ofDigitChars_ten_toDigits]

/-- **Different identifiers have different names.** -/
theorem nameOf_inj (t : SymbolTable) {x y : String} (hx : x ∈ t.identifiers)
    (h : t.nameOf x = t.nameOf y) : x = y :=
  (List.idxOf_inj hx).1 (t.nameAt_inj h)

theorem get?_of_mem (t : SymbolTable) {x : String} (hx : x ∈ t.identifiers) :
    t.get? x = some (t.nameOf x) := by
  unfold get?
  cases h : t.identifiers.idxOf? x with
  | none => exact absurd hx (List.idxOf?_eq_none_iff.1 h)
  | some i =>
    rw [nameOf, List.idxOf_eq_getD_idxOf?, h]
    rfl

end Laoke.SymbolTable
