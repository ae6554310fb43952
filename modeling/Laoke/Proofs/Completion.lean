import Laoke.Proofs.Recognition

/-!
# Where reading stops

Reading stops at the first token that cannot stand there, and what was read up to
that token is the beginning of some program.  So tokens that are no program are
either beyond help, or they ended too early.

* `Completable`: tokens that begin a program and, where a statement may start, go
  on with any statements.
* `Reader.completable_of_statements`: what was read before a failure is of this
  kind.
* `Program.stopped_of_ofTokens`: every parse error is at such a place.
* `Stopped.completable_iff`: all tokens together begin a program exactly if
  reading stopped at an open place.
-/

namespace Laoke

/-! ### Tokens that begin a program -/

/-- Tokens that can be completed to a program.  Where a statement may start, they also go on with
any statements. -/
structure Completable (wanted : Expectation) (front : List Token) : Prop where
  finish : ∃ more p, Spells (front ++ more) p
  resume : wanted.MayStart → ∀ {tokens : List Token} {q : List Statement}, Spells tokens q →
    ∃ more p, Spells (front ++ (tokens ++ more)) p

theorem Completable.of_initial {wanted : Expectation} (hw : ¬ wanted.MayStart)
    {front tokens : List Token} {p : List Statement} (hp : Spells tokens p)
    (hf : front <+: tokens) : Completable wanted front := by
  obtain ⟨more, rfl⟩ := hf
  exact ⟨⟨more, p, hp⟩, fun h => absurd h hw⟩

/-- What stands between two ends that make statements of any statements between them. -/
theorem Completable.wrap {wanted : Expectation} {front first : List Token} (last : List Token)
    (h : Completable wanted front)
    (hwrap : ∀ {tokens : List Token} {p : List Statement}, Spells tokens p →
      ∃ q, Spells (first ++ (tokens ++ last)) q) : Completable wanted (first ++ front) := by
  constructor
  · obtain ⟨more, p, hp⟩ := h.finish
    obtain ⟨q, hq⟩ := hwrap hp
    exact ⟨more ++ last, q, by simpa using hq⟩
  · intro hw tokens q hq
    obtain ⟨more, p, hp⟩ := h.resume hw hq
    obtain ⟨r, hr⟩ := hwrap hp
    exact ⟨more ++ last, r, by simpa using hr⟩

theorem Spells.completable {front : List Token} {p : List Statement} (h : Spells front p)
    (wanted : Expectation) : Completable wanted front where
  finish := ⟨[], p, by simpa using h⟩
  resume _ _ _ hq := ⟨[], _, by simpa using h.append hq⟩

namespace Reader

variable {β : Type} {tail rest : List Token} {wanted : Expectation}

theorem Breaks.exists_spelling {front : List Token} (h : Breaks front wanted rest) :
    ¬ wanted.MayStart ∧ ∃ s, front <+: Token.spelling (.string s) := by
  cases h with
  | text _ => exact ⟨by simp [Expectation.MayStart], "", [_, _], rfl⟩
  | close s _ => exact ⟨not_mayStart_keyword (by decide), s, [_], rfl⟩

/-- **An expression and a keyword after it fail** inside the expression, before the keyword, or
after it. -/
theorem expressionThen_eq_error {k : Keyword} (hk : k ≠ .endLoop)
    {f : Expression → Unit → Reader β}
    (h : (expression >>= fun e => expect k >>= f e) tail = .error wanted rest) :
    (¬ wanted.MayStart ∧ ∃ front e, tail = front ++ rest ∧ Expression.Plain e ∧
        front <+: Expression.spelling e) ∨
      ∃ e mid, tail = Expression.spelling e ++ .keyword k :: mid ∧ Expression.Plain e ∧
        f e () mid = .error wanted rest := by
  rcases bind_eq_error.1 h with hbroken | ⟨e, mid, hread, hafter⟩
  · obtain ⟨e, front, he, hb, rfl⟩ := expression_eq_error_iff.1 hbroken
    obtain ⟨hw, s, hs⟩ := hb.exists_spelling
    refine .inl ⟨hw, Expression.spelling e ++ front, e ++ [.string s], by simp, ?_, ?_⟩
    · intro t ht
      rcases List.mem_append.1 ht with ht | ht
      · exact he t ht
      · obtain rfl := List.mem_singleton.1 ht
        rfl
    · have hspelling : Expression.spelling (e ++ [.string s]) =
          Expression.spelling e ++ Token.spelling (.string s) := by
        simp [Expression.spelling]
      rw [hspelling]
      exact (List.prefix_append_right_inj _).2 hs
  · obtain ⟨rfl, he, -⟩ := spelling_of_expression hread
    rcases bind_eq_error.1 hafter with hmissing | ⟨_, mid', hmid, hlate⟩
    · obtain ⟨rfl, rfl, -⟩ := expect_eq_error.1 hmissing
      exact .inl ⟨not_mayStart_keyword hk, _, e, rfl, he, List.prefix_refl _⟩
    · obtain rfl := expect_eq_ok.1 hmid
      exact .inr ⟨e, mid', rfl, he, hlate⟩

theorem closing_eq_error {k : Keyword} {s : Option Statement}
    (h : (do expect k; return s : Reader _) tail = .error wanted rest) :
    rest = tail ∧ wanted = .keyword k := by
  rcases bind_eq_error.1 h with h | ⟨_, _, _, h⟩
  · obtain ⟨rfl, rfl, -⟩ := expect_eq_error.1 h
    exact ⟨rfl, rfl⟩
  · cases h

/-- A statement that lacks only its period. -/
theorem closing_completable (opener : List Token) {s : Statement}
    (hs : Spells (opener ++ [.keyword .period]) [s])
    (h : (do expect .period; return some s : Reader _) tail = .error wanted rest) :
    ∃ front, tail = front ++ rest ∧ Completable wanted (opener ++ front) := by
  obtain ⟨rfl, rfl⟩ := closing_eq_error h
  refine ⟨[], rfl, .of_initial (not_mayStart_keyword (by decide)) hs ?_⟩
  rw [List.append_nil]
  exact List.prefix_append _ _

theorem valued_completable (opener : List Token) {f : Expression → Statement}
    (hs : ∀ e, Expression.Plain e →
      Spells (opener ++ (Expression.spelling e ++ [.keyword .period])) [f e])
    (h : (do let e ← expression; expect .period; return some (f e) : Reader _) tail =
      .error wanted rest) :
    ∃ front, tail = front ++ rest ∧ Completable wanted (opener ++ front) := by
  rcases expressionThen_eq_error (by decide) h with ⟨hw, front, e, rfl, he, hf⟩ | ⟨e, mid, _, _, h⟩
  · refine ⟨front, rfl, .of_initial hw (hs e he) ?_⟩
    exact (List.prefix_append_right_inj _).2 (hf.trans (List.prefix_append _ _))
  · cases h

theorem stepped_completable (opener : List Token) {f : Expression → Statement}
    (hs : ∀ e, Expression.Plain e →
      Spells (opener ++ (Expression.spelling e ++ [.keyword .step, .keyword .period])) [f e])
    (h : (do let e ← expression; expect .step; expect .period; return some (f e) : Reader _) tail =
      .error wanted rest) :
    ∃ front, tail = front ++ rest ∧ Completable wanted (opener ++ front) := by
  rcases expressionThen_eq_error (by decide) h with ⟨hw, front, e, rfl, he, hf⟩ | ⟨e, mid, rfl, he, h⟩
  · refine ⟨front, rfl, .of_initial hw (hs e he) ?_⟩
    exact (List.prefix_append_right_inj _).2 (hf.trans (List.prefix_append _ _))
  · obtain ⟨front, rfl, hc⟩ := closing_completable
      (opener ++ (Expression.spelling e ++ [.keyword .step])) (by simpa using hs e he) h
    exact ⟨Expression.spelling e ++ .keyword .step :: front, by simp, by simpa using hc⟩

/-- The tokens of a loop up to its body. -/
def loopOpening (x : String) (a b : Expression) : List Token :=
  .identifier x :: .keyword .startingAt ::
    (Expression.spelling a ++ .keyword .upTo :: (Expression.spelling b ++ [.keyword .loop]))

theorem spells_loopOpening {x : String} {a b : Expression} (ha : a.Plain) (hb : b.Plain)
    {tokens : List Token} {p : List Statement} (h : Spells tokens p) :
    Spells (loopOpening x a b ++ (tokens ++ [.keyword .endLoop])) [.loop x a b p] := by
  simpa [loopOpening] using Spells.loop ha hb h .nil

/-- A loop, given that what its body takes can be completed. -/
theorem loop_completable {x : String}
    (ih : ∀ inner, inner.length ≤ tail.length → statements inner = .error wanted rest →
      ∃ front, inner = front ++ rest ∧ Completable wanted front)
    (h : (do
      let first ← expression
      expect .upTo
      let last ← expression
      expect .loop
      let inner ← statements
      expect .endLoop
      return some (.loop x first last inner) : Reader (Option Statement)) tail =
        .error wanted rest) :
    ∃ front, tail = front ++ rest ∧
      Completable wanted ([.identifier x, .keyword .startingAt] ++ front) := by
  rcases expressionThen_eq_error (by decide) h with ⟨hw, front, a, rfl, ha, hf⟩ | ⟨a, mid, rfl, ha, h⟩
  · -- In the first bound: the rest of a loop with an empty body follows.
    have hloop := spells_loopOpening (x := x) ha Expression.plain_nil .nil
    refine ⟨front, rfl, .of_initial hw hloop ?_⟩
    have hall : [.identifier x, .keyword .startingAt] ++ Expression.spelling a <+:
        loopOpening x a [] := ⟨[.keyword .upTo, .keyword .loop], by simp [loopOpening]; rfl⟩
    exact ((List.prefix_append_right_inj _).2 hf).trans (hall.trans (List.prefix_append _ _))
  rcases expressionThen_eq_error (by decide) h with ⟨hw, front, b, rfl, hb, hf⟩ | ⟨b, inner, rfl, hb, h⟩
  · -- In the last bound.
    have hloop := spells_loopOpening (x := x) ha hb .nil
    refine ⟨Expression.spelling a ++ .keyword .upTo :: front, by simp, .of_initial hw hloop ?_⟩
    have hall : [.identifier x, .keyword .startingAt] ++ (Expression.spelling a ++
        .keyword .upTo :: Expression.spelling b) <+: loopOpening x a b :=
      ⟨[.keyword .loop], by simp [loopOpening]⟩
    refine List.IsPrefix.trans ?_ (hall.trans (List.prefix_append _ _))
    rw [List.prefix_append_right_inj, List.prefix_append_right_inj, List.cons_prefix_cons]
    exact ⟨rfl, hf⟩
  · -- In the body or behind it.
    obtain ⟨front, rfl, hc⟩ : ∃ front, inner = front ++ rest ∧ Completable wanted front := by
      rcases bind_eq_error.1 h with hbody | ⟨p, last, hbody, hlast⟩
      · exact ih inner (by simp; omega) hbody
      · obtain ⟨rfl, rfl⟩ := closing_eq_error hlast
        obtain ⟨front, rfl, hp⟩ := spells_of_statements hbody
        exact ⟨front, rfl, hp.completable _⟩
    have hwrap := hc.wrap _ fun hp => ⟨_, spells_loopOpening (x := x) ha hb hp⟩
    exact ⟨Expression.spelling a ++ .keyword .upTo :: (Expression.spelling b ++ .keyword .loop :: front),
      by simp, by simpa [loopOpening] using hwrap⟩

theorem Opens.completable {opener : List Token} {reader : Reader (Option Statement)}
    (h : Opens statements opener reader)
    (ih : ∀ inner, inner.length ≤ tail.length → statements inner = .error wanted rest →
      ∃ front, inner = front ++ rest ∧ Completable wanted front)
    (herror : reader tail = .error wanted rest) :
    ∃ front, tail = front ++ rest ∧ Completable wanted (opener ++ front) := by
  cases h with
  | say =>
    rcases bind_eq_error.1 herror with hcolon | ⟨_, mid, hcolon, hvalue⟩
    · obtain ⟨rfl, rfl, -⟩ := expect_eq_error.1 hcolon
      refine ⟨[], rfl, .of_initial (not_mayStart_keyword (by decide))
        (.say Expression.plain_nil .nil) ⟨_, rfl⟩⟩
    · obtain rfl := expect_eq_ok.1 hcolon
      obtain ⟨front, rfl, hc⟩ := valued_completable [.keyword .say, .keyword .colon]
        (fun e he => .say he .nil) hvalue
      exact ⟨.keyword .colon :: front, rfl, hc⟩
  | declare x => exact closing_completable _ (.declare .nil) herror
  | assign x => exact valued_completable _ (fun e he => .assign he .nil) herror
  | increment x => exact closing_completable _ (.increment .nil) herror
  | increase x => exact stepped_completable _ (fun e he => .increase he .nil) herror
  | decrement x => exact closing_completable _ (.decrement .nil) herror
  | decrease x => exact stepped_completable _ (fun e he => .decrease he .nil) herror
  | loop x => exact loop_completable ih herror

/-- **What was read before a failure begins a program.** -/
theorem completable_of_statements {tokens rest : List Token} {wanted : Expectation}
    (h : statements tokens = .error wanted rest) :
    ∃ front, tokens = front ++ rest ∧ Completable wanted front := by
  induction hn : tokens.length using Nat.strongRecOn generalizing tokens with
  | _ n ih =>
    subst hn
    cases hs : statement tokens with
    | error wanted' left =>
      rw [statements_of_error hs] at h
      cases h
      rcases opens_or_none statements tokens with ⟨opener, reader, tail, ho, rfl⟩ | ⟨hnone, -⟩
      · have hpos := ho.length_pos
        have herror : reader tail = .error wanted rest := (ho.statementWith tail).symm.trans hs
        obtain ⟨front, rfl, hc⟩ := ho.completable
          (fun inner hle h => ih _ (by simp; omega) h rfl) herror
        exact ⟨opener ++ front, by simp, hc⟩
      · have hs' : statement tokens = .ok none tokens := hnone
        rw [hs] at hs'
        cases hs'
    | ok s? left =>
      cases s? with
      | none =>
        rw [statements_of_none hs] at h
        cases h
      | some s =>
        -- A statement that was read goes in front of whatever can be completed.
        rw [statements_of_some hs] at h
        have hlt := length_lt_of_statementWith statements_takesFront hs
        obtain ⟨front, rfl, hc⟩ := ih _ hlt (prepend_eq_error.1 h) rfl
        have hcases := none_or_spells_of_statement
          (fun inner _ _ _ hread => spells_of_statements hread) hs
        rcases hcases with ⟨hnone, -⟩ | ⟨s', first, -, rfl, hfirst⟩
        · cases hnone
        · refine ⟨first ++ front, by simp, hc.wrap [] fun hp => ?_⟩
          exact ⟨_, by simpa using hfirst.append hp⟩

end Reader

/-! ### Parse errors -/

/-- A place where the reading of some tokens stopped: what was read begins a program, and no other
tokens can follow, except at an open place. -/
structure Stopped (tokens : List Token) (wanted : Expectation) (front rest : List Token) : Prop where
  split : tokens = front ++ rest
  completable : Completable wanted front
  final : ¬ Reader.Open wanted rest → ∀ more p, Program.ofTokens (tokens ++ more) ≠ .ok p

/-- **Every parse error is where reading stopped.** -/
theorem Program.stopped_of_ofTokens {tokens : List Token} {e : ParseError}
    (h : Program.ofTokens tokens = .error e) :
    ∃ wanted front rest, Stopped tokens wanted front rest ∧ e = .at tokens.length wanted rest := by
  have hfirm := Reader.statements_firmAt tokens
  unfold Program.ofTokens at h
  split at h
  · rename_i wanted rest hs
    cases h
    obtain ⟨front, hsplit, hc⟩ := Reader.completable_of_statements hs
    refine ⟨wanted, front, rest, ⟨hsplit, hc, fun hnot more p hp => ?_⟩, rfl⟩
    unfold Program.ofTokens at hp
    rw [hfirm.error hs hnot more] at hp
    cases hp
  · cases h
  · rename_i program rest hne hs
    cases h
    obtain ⟨front, hsplit, hf⟩ := Reader.spells_of_statements hs
    refine ⟨.statement, front, rest, ⟨hsplit, hf.completable _, fun hnot more p hp => ?_⟩, rfl⟩
    unfold Program.ofTokens at hp
    rw [hfirm.ok hs hnot more] at hp
    obtain ⟨t, tail, rfl⟩ := List.exists_cons_of_ne_nil (Reader.ne_nil_of_not_open hnot)
    cases hp

/-- **More tokens help exactly at an open place.** -/
theorem Stopped.completable_iff {tokens front rest : List Token} {wanted : Expectation}
    (h : Stopped tokens wanted front rest) :
    (∃ more p, Program.ofTokens (tokens ++ more) = .ok p) ↔ Reader.Open wanted rest := by
  constructor
  · rintro ⟨more, p, hp⟩
    by_contra hnot
    exact h.final hnot more p hp
  · obtain rfl := h.split
    rintro (rfl | ⟨hw, x, rfl⟩)
    · obtain ⟨more, p, hp⟩ := h.completable.finish
      exact ⟨more, p, Program.ofTokens_of_spells (by simpa using hp)⟩
    · -- A declaration of the identifier goes on from here.
      obtain ⟨more, p, hp⟩ := h.completable.resume hw (Spells.declare (x := x) .nil)
      exact ⟨.keyword .isVariable :: .keyword .period :: more, p,
        Program.ofTokens_of_spells (by simpa using hp)⟩

theorem ParseError.at_append_cons (wanted : Expectation) (front : List Token) (t : Token)
    (tail : List Token) :
    ParseError.at (front ++ t :: tail).length wanted (t :: tail) =
      .unexpectedToken wanted t front.length := by
  simp [ParseError.at]

/-- An open place, as the error that is reported there. -/
theorem Reader.open_iff_at {wanted : Expectation} (front rest : List Token) :
    Reader.Open wanted rest ↔
      (∃ wanted', ParseError.at (front ++ rest).length wanted rest = .unexpectedEnd wanted') ∨
        ∃ wanted' x, wanted'.MayStart ∧ ParseError.at (front ++ rest).length wanted rest =
          .unexpectedToken wanted' (.identifier x) ((front ++ rest).length - 1) := by
  cases rest with
  | nil =>
    constructor
    · intro _
      exact .inl ⟨wanted, rfl⟩
    · intro _
      exact Reader.open_nil wanted
  | cons t tail =>
    rw [ParseError.at_append_cons]
    constructor
    · rintro (hnil | ⟨hw, x, hx⟩)
      · cases hnil
      · cases hx
        exact .inr ⟨wanted, x, hw, by simp⟩
    · rintro (⟨wanted', heq⟩ | ⟨wanted', x, hw, heq⟩)
      · cases heq
      · -- The last position is that of the token only if nothing follows it.
        obtain ⟨rfl, rfl, hlength⟩ := ParseError.unexpectedToken.inj heq
        rw [List.length_append, List.length_cons] at hlength
        obtain rfl : tail = [] := List.eq_nil_of_length_eq_zero (by omega)
        exact .inr ⟨hw, x, rfl⟩

/-- **A parse error is at the first bad token.**  A token that was not expected is the one at its
position, and the tokens before it can be completed to a program.  All tokens together can be
completed exactly if they ended too early, or if the last of them is an identifier where a statement
may start. -/
theorem parseError_at_first_bad_token {tokens : List Token} {e : ParseError}
    (h : Program.ofTokens tokens = .error e) :
    (∀ wanted found position, e = .unexpectedToken wanted found position →
      position < tokens.length ∧ tokens[position]? = some found ∧
        ∃ more p, Program.ofTokens (tokens.take position ++ more) = .ok p) ∧
      ((∃ more p, Program.ofTokens (tokens ++ more) = .ok p) ↔
        (∃ wanted, e = .unexpectedEnd wanted) ∨
          ∃ wanted x, (wanted = .statement ∨ wanted = .keyword .endLoop) ∧
            e = .unexpectedToken wanted (.identifier x) (tokens.length - 1)) := by
  obtain ⟨wanted, front, rest, hstop, rfl⟩ := Program.stopped_of_ofTokens h
  have hiff := hstop.completable_iff
  obtain rfl := hstop.split
  refine ⟨?_, hiff.trans (Reader.open_iff_at front rest)⟩
  intro wanted' found position heq
  cases rest with
  | nil => cases heq
  | cons t tail =>
    rw [ParseError.at_append_cons] at heq
    cases heq
    obtain ⟨more, p, hp⟩ := hstop.completable.finish
    refine ⟨by simp, by simp, more, p, ?_⟩
    rw [List.take_left]
    exact Program.ofTokens_of_spells hp

/-- A loop whose body breaks off after an identifier. -/
theorem parseError_at_first_bad_token_in_loop :
    Program.ofTokens [.identifier "甲", .keyword .startingAt, .integer 1, .keyword .upTo, .integer 2,
        .keyword .loop, .identifier "乙"] =
      .error (.unexpectedToken (.keyword .endLoop) (.identifier "乙") 6) ∧
    (∃ more p, Program.ofTokens ([.identifier "甲", .keyword .startingAt, .integer 1, .keyword .upTo,
      .integer 2, .keyword .loop] ++ more) = .ok p) ∧
    ∃ more p, Program.ofTokens ([.identifier "甲", .keyword .startingAt, .integer 1, .keyword .upTo,
      .integer 2, .keyword .loop, .identifier "乙"] ++ more) = .ok p := by
  have herror : Program.ofTokens [.identifier "甲", .keyword .startingAt, .integer 1, .keyword .upTo,
      .integer 2, .keyword .loop, .identifier "乙"] =
        .error (.unexpectedToken (.keyword .endLoop) (.identifier "乙") 6) := by cbv
  obtain ⟨hat, hall⟩ := parseError_at_first_bad_token herror
  exact ⟨herror, (hat _ _ _ rfl).2.2, hall.2 (.inr ⟨_, _, .inr rfl, rfl⟩)⟩

end Laoke
