import Laoke.Program.Reader

/-!
# Readers take tokens off the front

What a reader leaves is always a suffix of what it was given, also when it fails
(`TakesFront`), and a statement takes at least one token.  So reading a list of
statements is reading one and then the others (`statements_eq`): the bounds that
make the recursion well founded never come into play.
-/

namespace Laoke.Reader

/-- The tokens that a reader leaves, whether it succeeds or fails. -/
def left {α : Type} : EStateM.Result Expectation (List Token) α → List Token
  | .ok _ rest => rest
  | .error _ rest => rest

/-- A reader that only ever takes tokens off the front. -/
def TakesFront {α : Type} (reader : Reader α) : Prop :=
  ∀ tokens, left (reader tokens) <:+ tokens

theorem TakesFront.pure {α : Type} (a : α) : TakesFront (Pure.pure a : Reader α) :=
  fun _ => List.suffix_refl _

theorem TakesFront.bind {α β : Type} {r : Reader α} {f : α → Reader β} (hr : TakesFront r)
    (hf : ∀ a, TakesFront (f a)) : TakesFront (r >>= f) := by
  intro tokens
  have h := hr tokens
  change left (EStateM.bind r f tokens) <:+ tokens
  unfold EStateM.bind
  cases hrt : r tokens with
  | ok a rest =>
    rw [hrt] at h
    exact (hf a rest).trans h
  | error e rest =>
    rw [hrt] at h
    exact h

theorem expect_takesFront (k : Keyword) : TakesFront (expect k) := by
  intro tokens
  unfold expect
  split
  · split
    · exact List.suffix_cons _ _
    · exact List.suffix_refl _
  · exact List.suffix_refl _

theorem left_consExpression (t : Token) (r : EStateM.Result Expectation (List Token) Expression) :
    left (consExpression t r) = left r := by
  cases r <;> rfl

theorem expression_takesFront : TakesFront expression := by
  intro tokens
  fun_induction expression tokens with
  | case1 => exact List.suffix_refl _
  | case2 n rest ih | case3 x rest ih =>
    rw [left_consExpression]
    exact ih.trans (List.suffix_cons _ _)
  | case4 s rest ih =>
    rw [left_consExpression]
    exact ih.trans ⟨[_, _, _], rfl⟩
  | case5 => exact ⟨[_, _], rfl⟩
  | case6 => exact ⟨[_], rfl⟩
  | case7 k rest _ _ _ _ ih =>
    rw [left_consExpression]
    exact ih.trans (List.suffix_cons _ _)
  | case8 => exact List.suffix_refl _
  | case9 => exact List.suffix_refl _

/-- Either no statement starts, or at least one token is taken. -/
theorem statementWith_eq_none_or {body : Reader (List Statement)} (hb : TakesFront body)
    (tokens : List Token) :
    statementWith body tokens = .ok none tokens ∨
      ∃ t rest, tokens = t :: rest ∧ left (statementWith body tokens) <:+ rest := by
  have expectAnd {α : Type} (k : Keyword) {r : Reader α} (hr : TakesFront r) :
      TakesFront (expect k >>= fun _ => r) := (expect_takesFront k).bind fun _ => hr
  have one {r : Reader (Option Statement)} (hr : TakesFront r) (t : Token) (rest : List Token) :
      ∃ t' rest', t :: rest = t' :: rest' ∧ left (r rest) <:+ rest' := ⟨t, rest, rfl, hr rest⟩
  have two {r : Reader (Option Statement)} (hr : TakesFront r) (t u : Token) (rest : List Token) :
      ∃ t' rest', t :: u :: rest = t' :: rest' ∧ left (r rest) <:+ rest' :=
    ⟨t, u :: rest, rfl, (hr rest).trans (List.suffix_cons _ _)⟩
  unfold statementWith
  split
  · exact .inr (one (expectAnd _ (expression_takesFront.bind fun _ => expectAnd _ (.pure _))) _ _)
  · exact .inr (two (expectAnd _ (.pure _)) _ _ _)
  · exact .inr (two (expression_takesFront.bind fun _ => expectAnd _ (.pure _)) _ _ _)
  · exact .inr (two (expectAnd _ (.pure _)) _ _ _)
  · exact .inr (two (expression_takesFront.bind fun _ => expectAnd _ (expectAnd _ (.pure _))) _ _ _)
  · exact .inr (two (expectAnd _ (.pure _)) _ _ _)
  · exact .inr (two (expression_takesFront.bind fun _ => expectAnd _ (expectAnd _ (.pure _))) _ _ _)
  · exact .inr (two (expression_takesFront.bind fun _ => expectAnd _ (expression_takesFront.bind
      fun _ => expectAnd _ (hb.bind fun _ => expectAnd _ (.pure _)))) _ _ _)
  · exact .inl rfl

theorem statementWith_takesFront {body : Reader (List Statement)} (hb : TakesFront body) :
    TakesFront (statementWith body) := by
  intro tokens
  rcases statementWith_eq_none_or hb tokens with h | ⟨t, rest, rfl, h⟩
  · rw [h]
    exact List.suffix_refl _
  · exact h.trans (List.suffix_cons _ _)

theorem length_lt_of_statementWith {body : Reader (List Statement)} (hb : TakesFront body)
    {tokens rest : List Token} {s : Statement}
    (h : statementWith body tokens = .ok (some s) rest) : rest.length < tokens.length := by
  rcases statementWith_eq_none_or hb tokens with h' | ⟨t, tail, rfl, h'⟩
  · rw [h] at h'
    simp at h'
  · rw [h] at h'
    exact Nat.lt_succ_of_le h'.length_le

theorem bind_congr_of_shorter {α β : Type} {r : Reader α} (hr : TakesFront r)
    {f g : α → Reader β} {tokens : List Token}
    (h : ∀ a rest, rest.length ≤ tokens.length → f a rest = g a rest) :
    (r >>= f) tokens = (r >>= g) tokens := by
  change EStateM.bind r f tokens = EStateM.bind r g tokens
  have hl := (hr tokens).length_le
  unfold EStateM.bind
  cases hrt : r tokens with
  | ok a rest =>
    rw [hrt] at hl
    exact h a rest hl
  | error e rest => rfl

theorem statementWith_congr {tokens : List Token} {b b' : Reader (List Statement)}
    (h : ∀ rest, rest.length < tokens.length → b rest = b' rest) :
    statementWith b tokens = statementWith b' tokens := by
  unfold statementWith
  split <;> try rfl
  refine bind_congr_of_shorter expression_takesFront fun _ _ h1 => ?_
  refine bind_congr_of_shorter (expect_takesFront _) fun _ _ h2 => ?_
  refine bind_congr_of_shorter expression_takesFront fun _ _ h3 => ?_
  refine bind_congr_of_shorter (expect_takesFront _) fun _ rest h4 => ?_
  change EStateM.bind b _ rest = EStateM.bind b' _ rest
  unfold EStateM.bind
  rw [h rest (by simp only [List.length_cons]; omega)]

theorem statements_takesFront : TakesFront statements := by
  intro tokens
  induction hn : tokens.length using Nat.strongRecOn generalizing tokens with
  | _ n ih =>
    subst hn
    have hb : TakesFront fun inner =>
        if inner.length < tokens.length then statements inner else .ok [] inner := by
      intro inner
      dsimp only
      split
      · rename_i hlt
        exact ih _ hlt inner rfl
      · exact List.suffix_refl _
    have hs := statementWith_takesFront hb tokens
    rw [statements]
    split <;> rename_i h <;> rw [h] at hs
    · exact hs
    · exact hs
    · rename_i rest
      split
      · rename_i hlt
        have := ih _ hlt rest rfl
        split <;> rename_i hr <;> rw [hr] at this <;> exact this.trans hs
      · exact hs

/-- **Statements one after the other**: read one, then the others. -/
theorem statements_eq (tokens : List Token) :
    statements tokens =
      match statement tokens with
      | .error wanted rest => .error wanted rest
      | .ok none rest => .ok [] rest
      | .ok (some s) rest =>
        match statements rest with
        | .ok more rest => .ok (s :: more) rest
        | .error wanted rest => .error wanted rest := by
  have hc : statementWith (fun inner =>
      if inner.length < tokens.length then statements inner else .ok [] inner) tokens =
      statement tokens := statementWith_congr fun rest h => by simp [h]
  rw [statements, hc]
  cases hs : statement tokens with
  | error wanted rest => rfl
  | ok s? rest =>
    cases s? with
    | none => rfl
    | some s =>
      have hlt := length_lt_of_statementWith statements_takesFront hs
      cases hr : statements rest <;> simp [hlt, hr]

end Laoke.Reader
