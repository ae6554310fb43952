import Laoke.Proofs.Spelling

/-!
# Which tokens are a program

A list of tokens is read as a program if it spells one, and only then.  Where it
does not, reading stops, and it stops for good: tokens that follow make no
difference any more, except at the places where reading stopped for want of
them.

* `Reader.Open`: those places, which are the end of the tokens and a single
  identifier where a statement may start.
* `Reader.expression_eq_error_iff`: an expression breaks off inside a string only.
* `Reader.FirmAt`: a reader that did not stop at an open place does the same when
  more tokens follow.
* `Reader.Opens`, `Reader.opens_or_none`: how statements start, each in its way.
* `Reader.statements_firmAt`: statements are firm.
-/

namespace Laoke

/-! ### Programs that are spelled -/

theorem Spells.plain {tokens : List Token} {p : List Statement} (h : Spells tokens p) :
    Program.Each Expression.Plain p := by
  have hone : Expression.Plain .one := Expression.writable_one.plain
  induction h with
  | nil => trivial
  | say he _ ih | assign he _ ih | increase he _ ih | decrease he _ ih => exact ⟨he, ih⟩
  | declare _ ih => exact ⟨trivial, ih⟩
  | increment _ ih | decrement _ ih => exact ⟨hone, ih⟩
  | loop ha hb _ _ ihbody ih => exact ⟨⟨ha, hb, ihbody⟩, ih⟩

theorem Program.ofTokens_of_spells {tokens : List Token} {p : Program} (h : Spells tokens p) :
    Program.ofTokens tokens = .ok p := by
  have hnil : Reader.statements [] = .ok [] [] := by
    rw [Reader.statements_eq]
    rfl
  have hread := Reader.statements_append h []
  rw [List.append_nil, hnil, Reader.prepend, List.append_nil] at hread
  unfold Program.ofTokens
  rw [hread]

/-- **The grammar of programs.**  A list of tokens is read as a program exactly if the program has
only integers, identifiers, strings and operators in its expressions and the tokens spell it. -/
theorem ofTokens_eq_ok_iff_spells {tokens : List Token} {p : Program} :
    Program.ofTokens tokens = .ok p ↔ Program.Each Expression.Plain p ∧ Spells tokens p := by
  constructor
  · intro h
    have hs := Program.spells_of_ofTokens h
    exact ⟨hs.plain, hs⟩
  · rintro ⟨-, hs⟩
    exact Program.ofTokens_of_spells hs

/-! ### Places where a statement may start -/

/-- Whether a statement could have stood where something else was wanted. -/
def Expectation.MayStart (wanted : Expectation) : Prop :=
  wanted = .statement ∨ wanted = .keyword .endLoop

theorem not_mayStart_keyword {k : Keyword} (hk : k ≠ .endLoop) :
    ¬ (Expectation.keyword k).MayStart := by
  rintro (h | h)
  · cases h
  · exact hk (Expectation.keyword.inj h)

namespace Reader

/-- Whether more tokens can make a difference where reading stopped: no token is left there, or only
an identifier, where a statement may start. -/
def Open (wanted : Expectation) (rest : List Token) : Prop :=
  rest = [] ∨ wanted.MayStart ∧ ∃ x, rest = [.identifier x]

theorem open_nil (wanted : Expectation) : Open wanted [] := .inl rfl

theorem ne_nil_of_not_open {wanted : Expectation} {rest : List Token} (h : ¬ Open wanted rest) :
    rest ≠ [] := fun hnil => h (.inl hnil)

/-! ### Strings that are not finished -/

/-- The beginning of a string that does not go on as it should: what stands there, what is wanted
next, and the tokens left. -/
inductive Breaks : List Token → Expectation → List Token → Prop
  | text {rest : List Token} (h : ∀ s, rest.head? ≠ some (.string s)) :
      Breaks [.keyword .openQuote] (.kind .string) rest
  | close (s : String) {rest : List Token} (h : rest.head? ≠ some (.keyword .closeQuote)) :
      Breaks [.keyword .openQuote, .string s] (.keyword .closeQuote) rest

theorem Breaks.append {front rest : List Token} {wanted : Expectation} (h : Breaks front wanted rest)
    (hne : rest ≠ []) (more : List Token) : Breaks front wanted (rest ++ more) := by
  have hhead : (rest ++ more).head? = rest.head? := List.head?_append_of_ne_nil rest hne
  cases h with
  | text h => exact .text (by rwa [hhead])
  | close s h => exact .close s (by rwa [hhead])

theorem Breaks.expression_eq {front rest : List Token} {wanted : Expectation}
    (h : Breaks front wanted rest) : expression (front ++ rest) = .error wanted rest := by
  cases h with
  | text h =>
    have htext : ∀ s tail, rest ≠ .string s :: tail := by
      rintro s tail rfl
      exact h s rfl
    rw [List.cons_append, List.nil_append, expression]
    · exact fun s tail => htext s _
    · exact htext
  | close s h =>
    have hclose : ∀ tail, rest ≠ .keyword .closeQuote :: tail := by
      rintro tail rfl
      exact h rfl
    rw [List.cons_append, List.cons_append, List.nil_append, expression]
    exact hclose

theorem consExpression_eq_error {t : Token} {wanted : Expectation} {rest : List Token}
    {r : EStateM.Result Expectation (List Token) Expression} :
    consExpression t r = .error wanted rest ↔ r = .error wanted rest := by
  cases r <;> simp [consExpression]

/-- **An expression breaks off inside a string, and nowhere else.** -/
theorem expression_eq_error_iff {tokens rest : List Token} {wanted : Expectation} :
    expression tokens = .error wanted rest ↔
      ∃ e front, Expression.Plain e ∧ Breaks front wanted rest ∧
        tokens = Expression.spelling e ++ (front ++ rest) := by
  constructor
  · -- One more token in front, whatever its spelling.
    have step (t : Token) {tokens : List Token} (ht : t.isPlain = true)
        (ih : expression tokens = .error wanted rest → ∃ e front, Expression.Plain e ∧
          Breaks front wanted rest ∧ tokens = Expression.spelling e ++ (front ++ rest))
        (h : consExpression t (expression tokens) = .error wanted rest) :
        ∃ e front, Expression.Plain e ∧ Breaks front wanted rest ∧
          t.spelling ++ tokens = Expression.spelling e ++ (front ++ rest) := by
      obtain ⟨e, front, he, hb, htokens⟩ := ih (consExpression_eq_error.1 h)
      refine ⟨t :: e, front, Expression.plain_cons.2 ⟨ht, he⟩, hb, ?_⟩
      rw [htokens, Expression.spelling_cons, List.append_assoc]
    intro h
    fun_induction expression tokens with
    | case1 => cases h
    | case2 n tail ih => exact step (.integer n) rfl ih h
    | case3 x tail ih => exact step (.identifier x) rfl ih h
    | case4 s tail ih => exact step (.string s) rfl ih h
    | case5 s tail hclose =>
      cases h
      refine ⟨[], _, Expression.plain_nil, .close s ?_, rfl⟩
      intro hhead
      obtain ⟨more, rfl⟩ := List.head?_eq_some_iff.1 hhead
      exact hclose more rfl
    | case6 tail hclose htext =>
      cases h
      refine ⟨[], _, Expression.plain_nil, .text fun s hhead => ?_, rfl⟩
      obtain ⟨more, rfl⟩ := List.head?_eq_some_iff.1 hhead
      exact htext s more rfl
    | case7 k tail _ _ _ hk ih => exact step (.keyword k) hk ih h
    | case8 => cases h
    | case9 => cases h
  · rintro ⟨e, front, he, hb, rfl⟩
    induction e with
    | nil => exact hb.expression_eq
    | cons t e ih =>
      obtain ⟨ht, he⟩ := Expression.plain_cons.1 he
      rw [Expression.spelling_cons, List.append_assoc, expression_spelling_cons ht]
      exact consExpression_eq_error.2 (ih he)

/-! ### Readers that are not changed by what follows -/

/-- What a reader does with some tokens stands when more tokens follow, unless it stopped at an open
place, or succeeded with a result that is not settled. -/
structure FirmAt {α : Type} (settled : α → List Token → Prop) (reader : Reader α)
    (tokens : List Token) : Prop where
  ok : ∀ {a rest}, reader tokens = .ok a rest → settled a rest →
    ∀ more, reader (tokens ++ more) = .ok a (rest ++ more)
  error : ∀ {wanted rest}, reader tokens = .error wanted rest → ¬ Open wanted rest →
    ∀ more, reader (tokens ++ more) = .error wanted (rest ++ more)

/-- A result that is settled in any case. -/
def Always {α : Type} (_ : α) (_ : List Token) : Prop := True

variable {α β : Type} {tokens : List Token}

theorem TakesFront.length_le {r : Reader α} (h : TakesFront r) {a : α} {rest : List Token}
    (hr : r tokens = .ok a rest) : rest.length ≤ tokens.length := by
  have hsuffix := h tokens
  rw [hr] at hsuffix
  exact hsuffix.length_le

theorem FirmAt.pure (a : α) : FirmAt Always (Pure.pure a : Reader α) tokens where
  ok h _ more := by
    obtain ⟨rfl, rfl⟩ := pure_eq_ok.1 h
    rfl
  error h := nomatch h

/-- A sequence is firm, if its second part stops at an open place wherever the first one was not
settled. -/
theorem FirmAt.bind {r : Reader α} {f : α → Reader β} {settled : α → List Token → Prop}
    {settled' : β → List Token → Prop} (hr : FirmAt settled r tokens) (ht : TakesFront r)
    (hf : ∀ a rest, rest.length ≤ tokens.length → FirmAt settled' (f a) rest)
    (hopen : ∀ a rest, ¬ settled a rest → ∃ wanted, f a rest = .error wanted rest ∧
      Open wanted rest) : FirmAt settled' (r >>= f) tokens where
  ok {b rest} h hb more := by
    obtain ⟨a, mid, ha, hmid⟩ := bind_eq_ok.1 h
    by_cases hs : settled a mid
    · rw [bind_of_ok (hr.ok ha hs more)]
      exact (hf a mid (ht.length_le ha)).ok hmid hb more
    · obtain ⟨wanted, hw, -⟩ := hopen a mid hs
      rw [hw] at hmid
      cases hmid
  error {wanted rest} h hnot more := by
    rcases bind_eq_error.1 h with h | ⟨a, mid, ha, hmid⟩
    · exact bind_of_error (hr.error h hnot more)
    · by_cases hs : settled a mid
      · rw [bind_of_ok (hr.ok ha hs more)]
        exact (hf a mid (ht.length_le ha)).error hmid hnot more
      · obtain ⟨wanted', hw, hwopen⟩ := hopen a mid hs
        rw [hw] at hmid
        cases hmid
        exact absurd hwopen hnot

theorem expect_eq_error {k : Keyword} {rest : List Token} {wanted : Expectation} :
    expect k tokens = .error wanted rest ↔
      rest = tokens ∧ wanted = .keyword k ∧ tokens.head? ≠ some (.keyword k) := by
  unfold expect
  split
  · rename_i word tail
    by_cases hw : word = k
    · simp [hw]
    · simp [hw, eq_comm (b := rest), eq_comm (b := wanted), and_comm]
  · rename_i h
    have hhead : tokens.head? ≠ some (.keyword k) := by
      intro hhead
      obtain ⟨tail, rfl⟩ := List.head?_eq_some_iff.1 hhead
      exact h k tail rfl
    simp [hhead, eq_comm (b := rest), eq_comm (b := wanted), and_comm]

theorem expect_firmAt (k : Keyword) : FirmAt Always (expect k) tokens where
  ok h _ more := by
    obtain rfl := expect_eq_ok.1 h
    exact expect_eq_ok.2 rfl
  error h hnot more := by
    obtain ⟨rfl, rfl, hhead⟩ := expect_eq_error.1 h
    refine expect_eq_error.2 ⟨rfl, rfl, ?_⟩
    rwa [List.head?_append_of_ne_nil _ (ne_nil_of_not_open hnot)]

/-- A keyword that is wanted where the first token, if any, is another one. -/
theorem expect_bind_error {k : Keyword} {f : Unit → Reader β}
    (h : tokens.head? ≠ some (.keyword k)) :
    (expect k >>= f) tokens = .error (.keyword k) tokens :=
  bind_of_error (expect_eq_error.2 ⟨rfl, rfl, h⟩)

theorem Stops.append {rest : List Token} (h : Stops rest) (hne : rest ≠ []) (more : List Token) :
    Stops (rest ++ more) := by
  match rest, h with
  | .keyword _ :: _, h => exact h
  | .string _ :: _, _ => trivial

theorem expression_firmAt : FirmAt (fun _ rest => rest ≠ []) expression tokens where
  ok h hne more := by
    obtain ⟨rfl, he, hs⟩ := spelling_of_expression h
    rw [List.append_assoc]
    exact expression_append he (hs.append hne more)
  error h hnot more := by
    obtain ⟨e, front, he, hb, rfl⟩ := expression_eq_error_iff.1 h
    have hb' := hb.append (ne_nil_of_not_open hnot) more
    exact expression_eq_error_iff.2 ⟨e, front, he, hb', by simp⟩

/-- After an expression a keyword is wanted, so the end of the tokens is an open place. -/
theorem FirmAt.expressionThen {k : Keyword} {f : Expression → Unit → Reader β}
    {settled : β → List Token → Prop}
    (hf : ∀ e rest, rest.length ≤ tokens.length → FirmAt settled (f e ()) rest) :
    FirmAt settled (expression >>= fun e => expect k >>= f e) tokens := by
  refine expression_firmAt.bind expression_takesFront (fun e rest hle => ?_) fun e rest hs => ?_
  · refine (expect_firmAt k).bind (expect_takesFront k) (fun _ rest' hle' => ?_)
      fun _ _ hs => absurd trivial hs
    exact hf e rest' (hle'.trans hle)
  · obtain rfl := not_not.1 hs
    exact ⟨_, expect_bind_error (by simp), open_nil _⟩

theorem FirmAt.closing (k : Keyword) (s : Option Statement) :
    FirmAt Always (do expect k; return s : Reader _) tokens :=
  (expect_firmAt k).bind (expect_takesFront k) (fun _ _ _ => .pure s) fun _ _ hs => absurd trivial hs

/-- Whether a list of statements has come to its end before some tokens. -/
def Ended (rest : List Token) : Prop := ¬ Open .statement rest

/-- A loop, given that its body is firm. -/
theorem FirmAt.loop (x : String)
    (ih : ∀ inner, inner.length ≤ tokens.length →
      FirmAt (fun _ rest => Ended rest) statements inner) :
    FirmAt Always (do
      let first ← expression
      expect .upTo
      let last ← expression
      expect .loop
      let body ← statements
      expect .endLoop
      return some (.loop x first last body) : Reader (Option Statement)) tokens := by
  refine .expressionThen fun first rest hle => ?_
  refine .expressionThen fun last inner hle' => ?_
  refine (ih inner (hle'.trans hle)).bind statements_takesFront (fun body _ _ => .closing _ _) ?_
  intro body rest hs
  have hopen : Open .statement rest := not_not.1 hs
  refine ⟨.keyword .endLoop, expect_bind_error ?_, ?_⟩
  · rcases hopen with rfl | ⟨-, x, rfl⟩ <;> simp
  · exact hopen.imp_right fun h => ⟨.inr rfl, h.2⟩

/-! ### How statements start -/

/-- The first tokens of a statement, and how it goes on after them. -/
inductive Opens (body : Reader (List Statement)) : List Token → Reader (Option Statement) → Prop
  | say : Opens body [.keyword .say] (do
      expect .colon
      let value ← expression
      expect .period
      return some (.say value))
  | declare (x : String) : Opens body [.identifier x, .keyword .isVariable] (do
      expect .period
      return some (.declare x))
  | assign (x : String) : Opens body [.identifier x, .keyword .become] (do
      let value ← expression
      expect .period
      return some (.assign x value))
  | increment (x : String) : Opens body [.identifier x, .keyword .increment] (do
      expect .period
      return some (.increase x .one))
  | increase (x : String) : Opens body [.identifier x, .keyword .incrementBy] (do
      let amount ← expression
      expect .step
      expect .period
      return some (.increase x amount))
  | decrement (x : String) : Opens body [.identifier x, .keyword .decrement] (do
      expect .period
      return some (.decrease x .one))
  | decrease (x : String) : Opens body [.identifier x, .keyword .decrementBy] (do
      let amount ← expression
      expect .step
      expect .period
      return some (.decrease x amount))
  | loop (x : String) : Opens body [.identifier x, .keyword .startingAt] (do
      let first ← expression
      expect .upTo
      let last ← expression
      expect .loop
      let inner ← body
      expect .endLoop
      return some (.loop x first last inner))

variable {body : Reader (List Statement)}

theorem Opens.statementWith {opener : List Token} {reader : Reader (Option Statement)}
    (h : Opens body opener reader) (tail : List Token) :
    statementWith body (opener ++ tail) = reader tail := by
  cases h <;> rfl

theorem Opens.length_pos {opener : List Token} {reader : Reader (Option Statement)}
    (h : Opens body opener reader) : 0 < opener.length := by
  cases h <;> simp

/-- **A statement starts, or none does**, and then none does either when more tokens follow, except
behind an open end. -/
theorem opens_or_none (body : Reader (List Statement)) (tokens : List Token) :
    (∃ opener reader tail, Opens body opener reader ∧ tokens = opener ++ tail) ∨
      statementWith body tokens = .ok none tokens ∧
        (Ended tokens → ∀ more, statementWith body (tokens ++ more) = .ok none (tokens ++ more)) := by
  match tokens with
  | [] => exact .inr ⟨rfl, fun hend => absurd (open_nil _) hend⟩
  | [.identifier x] => exact .inr ⟨rfl, fun hend => absurd (.inr ⟨.inl rfl, x, rfl⟩) hend⟩
  | .integer n :: tail => exact .inr ⟨rfl, fun _ _ => rfl⟩
  | .string s :: tail => exact .inr ⟨rfl, fun _ _ => rfl⟩
  | .keyword k :: tail =>
    by_cases hk : k = .say
    · subst hk
      exact .inl ⟨_, _, tail, .say, rfl⟩
    · have hnone (tail : List Token) :
          statementWith body (.keyword k :: tail) = .ok none (.keyword k :: tail) := by
        unfold statementWith
        split <;> simp_all
      exact .inr ⟨hnone tail, fun _ more => hnone (tail ++ more)⟩
  | .identifier x :: .integer n :: tail => exact .inr ⟨rfl, fun _ _ => rfl⟩
  | .identifier x :: .string s :: tail => exact .inr ⟨rfl, fun _ _ => rfl⟩
  | .identifier x :: .identifier y :: tail => exact .inr ⟨rfl, fun _ _ => rfl⟩
  | .identifier x :: .keyword k :: tail =>
    cases k with
    | isVariable => exact .inl ⟨_, _, tail, .declare x, rfl⟩
    | become => exact .inl ⟨_, _, tail, .assign x, rfl⟩
    | increment => exact .inl ⟨_, _, tail, .increment x, rfl⟩
    | incrementBy => exact .inl ⟨_, _, tail, .increase x, rfl⟩
    | decrement => exact .inl ⟨_, _, tail, .decrement x, rfl⟩
    | decrementBy => exact .inl ⟨_, _, tail, .decrease x, rfl⟩
    | startingAt => exact .inl ⟨_, _, tail, .loop x, rfl⟩
    | _ => exact .inr ⟨rfl, fun _ _ => rfl⟩

theorem Opens.firmAt {opener tail : List Token} {reader : Reader (Option Statement)}
    (h : Opens statements opener reader)
    (ih : ∀ inner, inner.length ≤ tail.length →
      FirmAt (fun _ rest => Ended rest) statements inner) : FirmAt Always reader tail := by
  cases h with
  | say =>
    refine (expect_firmAt .colon).bind (expect_takesFront _) (fun _ _ _ => ?_)
      fun _ _ hs => absurd trivial hs
    exact .expressionThen fun _ _ _ => .pure _
  | declare x | increment x | decrement x => exact .closing _ _
  | assign x => exact .expressionThen fun _ _ _ => .pure _
  | increase x | decrease x => exact .expressionThen fun _ _ _ => .closing _ _
  | loop x => exact .loop x ih

theorem prepend_eq_ok {p q : List Statement} {rest : List Token}
    {r : EStateM.Result Expectation (List Token) (List Statement)} :
    prepend p r = .ok q rest ↔ ∃ more, r = .ok more rest ∧ q = p ++ more := by
  cases r <;> simp [prepend, eq_comm, and_comm]

theorem prepend_eq_error {p : List Statement} {wanted : Expectation} {rest : List Token}
    {r : EStateM.Result Expectation (List Token) (List Statement)} :
    prepend p r = .error wanted rest ↔ r = .error wanted rest := by
  cases r <;> simp [prepend]

theorem statements_of_some {s : Statement} {rest : List Token}
    (h : statement tokens = .ok (some s) rest) :
    statements tokens = prepend [s] (statements rest) :=
  statements_of_statement h (prepend_nil _).symm

theorem statements_of_none {rest : List Token} (h : statement tokens = .ok none rest) :
    statements tokens = .ok [] rest := by
  rw [statements_eq, h]

theorem statements_of_error {wanted : Expectation} {rest : List Token}
    (h : statement tokens = .error wanted rest) : statements tokens = .error wanted rest := by
  rw [statements_eq, h]

/-- A statement is firm, and one that is there is settled. -/
theorem statement_firmAt (tokens : List Token)
    (ih : ∀ inner, inner.length < tokens.length →
      FirmAt (fun _ rest => Ended rest) statements inner) :
    FirmAt (fun s? rest => s? = none → Ended rest) statement tokens := by
  rcases opens_or_none statements tokens with ⟨opener, reader, tail, ho, rfl⟩ | ⟨hnone, hstill⟩
  · have hpos := ho.length_pos
    have hfirm : FirmAt Always reader tail :=
      ho.firmAt fun inner hle => ih inner (by simp; omega)
    have hread (tail : List Token) : statement (opener ++ tail) = reader tail := ho.statementWith tail
    constructor
    · intro s? rest h _ more
      rw [hread] at h
      rw [List.append_assoc, hread]
      exact hfirm.ok h trivial more
    · intro wanted rest h hnot more
      rw [hread] at h
      rw [List.append_assoc, hread]
      exact hfirm.error h hnot more
  · have hs : statement tokens = .ok none tokens := hnone
    constructor
    · intro s? rest h hend more
      rw [hs] at h
      cases h
      exact hstill (hend rfl) more
    · intro wanted rest h
      rw [hs] at h
      cases h

/-- **More tokens do not change the statements read so far**, unless they ended at an open place. -/
theorem statements_firmAt (tokens : List Token) :
    FirmAt (fun _ rest => Ended rest) statements tokens := by
  induction hn : tokens.length using Nat.strongRecOn generalizing tokens with
  | _ n ih =>
    subst hn
    have hfirm := statement_firmAt tokens fun inner hlt => ih _ hlt inner rfl
    cases hs : statement tokens with
    | error wanted left =>
      constructor
      · intro p rest h
        rw [statements_of_error hs] at h
        cases h
      · intro wanted' rest h hnot more
        rw [statements_of_error hs] at h
        cases h
        exact statements_of_error (hfirm.error hs hnot more)
    | ok s? left =>
      cases s? with
      | none =>
        constructor
        · intro p rest h hend more
          rw [statements_of_none hs] at h
          cases h
          exact statements_of_none (hfirm.ok hs (fun _ => hend) more)
        · intro wanted rest h
          rw [statements_of_none hs] at h
          cases h
      | some s =>
        have hlt := length_lt_of_statementWith statements_takesFront hs
        have hrest := ih _ hlt left rfl
        have hmore (more : List Token) :
            statements (tokens ++ more) = prepend [s] (statements (left ++ more)) :=
          statements_of_some (hfirm.ok hs (fun h => nomatch h) more)
        constructor
        · intro p rest h hend more
          rw [statements_of_some hs] at h
          obtain ⟨q, hq, rfl⟩ := prepend_eq_ok.1 h
          rw [hmore, hrest.ok hq hend more]
          rfl
        · intro wanted rest h hnot more
          rw [statements_of_some hs] at h
          rw [hmore, hrest.error (prepend_eq_error.1 h) hnot more]
          rfl

end Reader

end Laoke
