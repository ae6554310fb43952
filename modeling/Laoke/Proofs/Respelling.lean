import Laoke.Proofs.Rows

/-!
# Tokens with spaces between them

A token of a script is over at a space, whatever it is.  So tokens can be written
on one line with a space between any two of them, and are read back one by one:
a string keeps its quotes, its backslashes and what looks like a comment to
itself, and no line ends inside it.

Not every token can be written like that.  A name may have characters that names
do not have, and a number a sign; but no such token is ever read
(`spellable_of_tokenizeLine`), so the tokens that read back are exactly those
that a line can have at all.
-/

namespace Laoke.Script

/-- The line with one space between any two of some tokens. -/
def spaced (ts : List Token) : List Char :=
  List.intercalate [' '] (ts.map Token.spelling)

theorem spaced_cons_cons (t u : Token) (ts : List Token) :
    spaced (t :: u :: ts) = t.spelling ++ ' ' :: spaced (u :: ts) := by
  simp [spaced, List.intercalate_cons_cons]

/-- **A space ends every token**, so the line is made of the tokens. -/
theorem written_spaced {ts : List Token} (h : ∀ t ∈ ts, t.Spellable) : Written ts (spaced ts) := by
  induction ts with
  | nil => exact .nil
  | cons t ts ih =>
    have ht := h t List.mem_cons_self
    have hts := ih fun u hu => h u (List.mem_cons_of_mem _ hu)
    cases ts with
    | nil =>
      have hlast : spaced [t] = t.spelling ++ [] := by simp [spaced]
      rw [hlast]
      exact .token ht (closes_nil t) .nil
    | cons u ts =>
      rw [spaced_cons_cons]
      exact .token ht (closes_space _ t) hts.space

/-! ### Tokens that are read -/

theorem isName_cons_takeWhile {c : Char} (hc : isNameStart c = true) (rest : List Char) :
    isName (c :: rest.takeWhile isNamePart) = true := by
  rw [isName, hc, Bool.true_and, List.all_takeWhile]

/-- **A token that is read can be written.** -/
theorem spellable_of_tokenAt {line : Nat} {c : Char} {rest after : List Char} {t : Token}
    (h : tokenAt line c rest = .ok (t, after)) : t.Spellable := by
  unfold tokenAt at h
  split at h
  · -- Digits alone have no sign, and more than fit are an error.
    dsimp only at h
    split at h
    · rename_i hbounds
      cases h
      simp only [inBounds, Bool.and_eq_true, decide_eq_true_eq] at hbounds
      exact ⟨Int.natCast_nonneg _, hbounds.2⟩
    · cases h
  · split at h
    · split at h
      · cases h
        trivial
      · cases h
    · split at h
      · rename_i hstart
        cases h
        show isName (String.ofList _).toList = true
        rw [String.toList_ofList]
        exact isName_cons_takeWhile hstart rest
      · split at h <;> cases h <;> trivial

theorem spellable_of_tokenizeLine {line : Nat} {cs : List Char} {ts : List Token}
    (h : tokenizeLine line cs = .ok ts) : ∀ t ∈ ts, t.Spellable := by
  fun_induction tokenizeLine line cs generalizing ts with
  | case1 =>
    cases h
    simp
  | case2 c rest hb ih => exact ih h
  | case3 =>
    cases h
    simp
  | case4 => cases h
  | case5 c rest hb hc t after ht _ more hmore ih =>
    cases h
    exact List.forall_mem_cons.2 ⟨spellable_of_tokenAt ht, ih hmore⟩
  | case6 => cases h

/-- **Tokens with spaces between them read back**, all on one line, whatever the number of the line and
whatever the strings among them.  This holds of all tokens whose names are names and whose integers
have no sign and are in bounds, and of no others. -/
theorem spaced_reads_back_iff {ts : List Token} :
    (∀ t ∈ ts, t.Spellable) ↔
      (∀ c ∈ spaced ts, c ≠ '\n' ∧ c ≠ '\r') ∧ ∀ line, tokenizeLine line (spaced ts) = .ok ts := by
  constructor
  · intro h
    have hwritten := written_spaced h
    exact ⟨hwritten.unbroken, hwritten.tokenizeLine⟩
  · rintro ⟨-, h⟩
    exact spellable_of_tokenizeLine (h 1)

/-- A quote, a backslash, a line end and a comment inside a string, between other tokens. -/
example : spaced [.name "数_1", .plusEqual, .str "“\"\\\n# 1", .star, .int 9223372036854775807] =
      "数_1 += \"“\\\"\\\\\\n# 1\" * 9223372036854775807".toList ∧
    tokenizeLine 3 "数_1 += \"“\\\"\\\\\\n# 1\" * 9223372036854775807".toList =
      .ok [.name "数_1", .plusEqual, .str "“\"\\\n# 1", .star, .int 9223372036854775807] := by
  decide +kernel

end Laoke.Script
