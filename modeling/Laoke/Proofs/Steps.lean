/-!
# Steps one after the other

Readers, emitters and runs of a script are all steps that hand on a state and
may fail.  These lemmas take such a sequence apart, and put it together from its
steps.
-/

namespace Laoke

variable {ε σ α β : Type}

/-- **A sequence succeeds when its parts do**, one after the other. -/
theorem bind_eq_ok {m : EStateM ε σ α} {f : α → EStateM ε σ β} {s s' : σ} {b : β} :
    (m >>= f) s = .ok b s' ↔ ∃ a mid, m s = .ok a mid ∧ f a mid = .ok b s' := by
  change EStateM.bind m f s = .ok b s' ↔ _
  unfold EStateM.bind
  cases m s with
  | ok a mid =>
    constructor
    · exact fun h => ⟨a, mid, rfl, h⟩
    · rintro ⟨a', mid', h, hf⟩
      cases h
      exact hf
  | error e mid => simp

/-- **A sequence fails where its first part does, or where the second does after it.** -/
theorem bind_eq_error {m : EStateM ε σ α} {f : α → EStateM ε σ β} {s s' : σ} {e : ε} :
    (m >>= f) s = .error e s' ↔
      m s = .error e s' ∨ ∃ a mid, m s = .ok a mid ∧ f a mid = .error e s' := by
  change EStateM.bind m f s = .error e s' ↔ _
  unfold EStateM.bind
  cases m s with
  | ok a mid =>
    constructor
    · exact fun h => .inr ⟨a, mid, rfl, h⟩
    · rintro (h | ⟨a', mid', h, hf⟩)
      · cases h
      · cases h
        exact hf
  | error e' mid => simp

theorem bind_of_ok {m : EStateM ε σ α} {f : α → EStateM ε σ β} {s mid : σ} {a : α}
    (h : m s = .ok a mid) : (m >>= f) s = f a mid := by
  change EStateM.bind m f s = f a mid
  rw [EStateM.bind, h]

theorem bind_of_error {m : EStateM ε σ α} {f : α → EStateM ε σ β} {s mid : σ} {e : ε}
    (h : m s = .error e mid) : (m >>= f) s = .error e mid := by
  change EStateM.bind m f s = .error e mid
  rw [EStateM.bind, h]

theorem pure_eq_ok {a b : α} {s s' : σ} :
    (pure a : EStateM ε σ α) s = .ok b s' ↔ a = b ∧ s = s' := by
  change EStateM.Result.ok a s = .ok b s' ↔ _
  simp

/-- The same without a state. -/
theorem except_bind_eq_ok {x : Except ε α} {f : α → Except ε β} {b : β} :
    x >>= f = .ok b ↔ ∃ a, x = .ok a ∧ f a = .ok b := by
  cases x with
  | ok a =>
    constructor
    · exact fun h => ⟨a, rfl, h⟩
    · rintro ⟨a', h, hf⟩
      cases h
      exact hf
  | error e =>
    constructor
    · exact fun h => nomatch h
    · rintro ⟨a, h, -⟩
      cases h

theorem except_bind_eq_error {x : Except ε α} {f : α → Except ε β} {e : ε} :
    x >>= f = .error e ↔ x = .error e ∨ ∃ a, x = .ok a ∧ f a = .error e := by
  cases x with
  | ok a =>
    constructor
    · exact fun h => .inr ⟨a, rfl, h⟩
    · rintro (h | ⟨a', h, hf⟩)
      · cases h
      · cases h
        exact hf
  | error e' =>
    constructor
    · intro h
      cases h
      exact .inl rfl
    · rintro (h | ⟨a, h, -⟩)
      · cases h
        rfl
      · cases h

end Laoke
