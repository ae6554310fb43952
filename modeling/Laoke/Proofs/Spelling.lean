import Laoke.Program.Progress
import Laoke.Proofs.Lexing
import Laoke.Proofs.Steps

/-!
# How programs are spelled

`Spells ts p` says that the tokens `ts` spell the statements `p`.  A program
text is read by spelling it backwards, and nothing else:

* `spells_of_statements`: whatever `Reader.statements` takes off the front
  spells the statements it returns.
* `statements_append`: statements that are spelled out are read first, whatever
  stands behind them.
* `Spells.writable`: an expression inherits from the tokens of its text that no
  two neighbours run together.
-/

namespace Laoke

/-! ### Expressions -/

theorem Keyword.isOperator_iff {k : Keyword} :
    k.isOperator = true ↔ k = .plus ∨ k = .minus ∨ k = .times ∨ k = .divideBy := by
  cases k <;> decide

/-- A token of an expression in a program text, where strings stand between quotes. -/
def Token.spelling : Token → List Token
  | .string s => [.keyword .openQuote, .string s, .keyword .closeQuote]
  | t => [t]

/-- Whether a token can stand in an expression. -/
def Token.isPlain : Token → Bool
  | .keyword k => k.isOperator
  | _ => true

namespace Expression

/-- The tokens of an expression in a program text. -/
def spelling (e : Expression) : List Token :=
  e.flatMap Token.spelling

/-- An expression of integers, identifiers, strings and operators. -/
def Plain (e : Expression) : Prop :=
  ∀ t ∈ e, t.isPlain = true

@[simp] theorem spelling_cons (t : Token) (e : Expression) :
    spelling (t :: e) = t.spelling ++ spelling e := rfl

theorem plain_nil : Plain [] := fun _ h => absurd h (by simp)

theorem plain_cons {t : Token} {e : Expression} : Plain (t :: e) ↔ t.isPlain = true ∧ Plain e := by
  simp [Plain]

end Expression

namespace Reader

/-- Whether an expression cannot go on with the tokens that follow. -/
def Stops : List Token → Prop
  | [] => True
  | .keyword k :: _ => k.isOperator = false ∧ k ≠ .openQuote
  | .string _ :: _ => True
  | _ => False

/-- **An expression takes what spells it**, and stops where it cannot go on. -/
theorem spelling_of_expression {tokens rest : List Token} {e : Expression}
    (h : expression tokens = .ok e rest) :
    tokens = Expression.spelling e ++ rest ∧ Expression.Plain e ∧ Stops rest := by
  -- One more token in front, whatever its spelling.
  have step (t : Token) {tokens : List Token} (ht : t.isPlain = true)
      (ih : ∀ {e rest}, expression tokens = .ok e rest →
        tokens = Expression.spelling e ++ rest ∧ Expression.Plain e ∧ Stops rest)
      {e : Expression} {rest : List Token}
      (h : consExpression t (expression tokens) = .ok e rest) :
      t.spelling ++ tokens = Expression.spelling e ++ rest ∧ Expression.Plain e ∧ Stops rest := by
    cases hx : expression tokens with
    | error wanted left => simp [hx, consExpression] at h
    | ok e' left =>
      simp only [hx, consExpression, EStateM.Result.ok.injEq] at h
      obtain ⟨rfl, rfl⟩ := h
      obtain ⟨hs, hp, hr⟩ := ih hx
      refine ⟨?_, Expression.plain_cons.2 ⟨ht, hp⟩, hr⟩
      rw [hs, Expression.spelling_cons, List.append_assoc]
  fun_induction expression tokens generalizing e rest with
  | case1 =>
    cases h
    exact ⟨rfl, Expression.plain_nil, trivial⟩
  | case2 n tail ih => exact step (.integer n) rfl ih h
  | case3 x tail ih => exact step (.identifier x) rfl ih h
  | case4 s tail ih => exact step (.string s) rfl ih h
  | case5 => simp at h
  | case6 => simp at h
  | case7 k tail _ _ _ hk ih => exact step (.keyword k) hk ih h
  | case8 k tail h1 h2 h3 hk =>
    cases h
    refine ⟨rfl, Expression.plain_nil, by simpa using hk, ?_⟩
    rintro rfl
    exact h3 rfl
  | case9 s tail =>
    cases h
    exact ⟨rfl, Expression.plain_nil, trivial⟩

theorem expression_of_stops {rest : List Token} (h : Stops rest) :
    expression rest = .ok [] rest := by
  match rest, h with
  | [], _ => rfl
  | .string _ :: _, _ => rfl
  | .keyword k :: _, ⟨ho, hq⟩ =>
    rw [expression.eq_def]
    split <;> simp_all

theorem expression_spelling_cons {t : Token} (ht : t.isPlain = true) (tokens : List Token) :
    expression (t.spelling ++ tokens) = consExpression t (expression tokens) := by
  cases t with
  | integer n => rfl
  | identifier x => rfl
  | string s => rfl
  | keyword k => rcases Keyword.isOperator_iff.1 ht with rfl | rfl | rfl | rfl <;> rfl

theorem expression_append {e : Expression} (he : Expression.Plain e) {rest : List Token}
    (h : Stops rest) : expression (Expression.spelling e ++ rest) = .ok e rest := by
  induction e with
  | nil => exact expression_of_stops h
  | cons t e ih =>
    obtain ⟨ht, he⟩ := Expression.plain_cons.1 he
    rw [Expression.spelling_cons, List.append_assoc, expression_spelling_cons ht, ih he]
    rfl

/-! ### Steps of a reader -/

theorem expect_eq_ok {k : Keyword} {tokens rest : List Token} {u : Unit} :
    expect k tokens = .ok u rest ↔ tokens = .keyword k :: rest := by
  unfold expect
  split
  · rename_i word tail
    by_cases hw : word = k
    · simp [hw]
    · simp [hw]
  · rename_i h
    refine ⟨fun h' => by simp at h', ?_⟩
    rintro rfl
    exact absurd rfl (h k rest)

theorem expect_bind {α : Type} (k : Keyword) (f : Unit → Reader α) (rest : List Token) :
    (expect k >>= f) (.keyword k :: rest) = f () rest :=
  bind_of_ok (expect_eq_ok.2 rfl)

theorem expression_bind {α : Type} {e : Expression} (he : Expression.Plain e)
    (f : Expression → Reader α) {rest : List Token} (h : Stops rest) :
    (expression >>= f) (Expression.spelling e ++ rest) = f e rest :=
  bind_of_ok (expression_append he h)

end Reader

/-! ### Statements -/

/-- The tokens that spell some statements, in the order of the text.  Increasing or decreasing by
`1` has a short form. -/
inductive Spells : List Token → List Statement → Prop
  | nil : Spells [] []
  | say {e : Expression} {rest : List Token} {p : List Statement} (he : e.Plain)
      (hp : Spells rest p) :
      Spells (.keyword .say :: .keyword .colon :: (Expression.spelling e ++ .keyword .period :: rest))
        (.say e :: p)
  | declare {x : String} {rest : List Token} {p : List Statement} (hp : Spells rest p) :
      Spells (.identifier x :: .keyword .isVariable :: .keyword .period :: rest) (.declare x :: p)
  | assign {x : String} {e : Expression} {rest : List Token} {p : List Statement} (he : e.Plain)
      (hp : Spells rest p) :
      Spells (.identifier x :: .keyword .become :: (Expression.spelling e ++ .keyword .period :: rest))
        (.assign x e :: p)
  | increment {x : String} {rest : List Token} {p : List Statement} (hp : Spells rest p) :
      Spells (.identifier x :: .keyword .increment :: .keyword .period :: rest)
        (.increase x .one :: p)
  | increase {x : String} {e : Expression} {rest : List Token} {p : List Statement} (he : e.Plain)
      (hp : Spells rest p) :
      Spells (.identifier x :: .keyword .incrementBy ::
        (Expression.spelling e ++ .keyword .step :: .keyword .period :: rest)) (.increase x e :: p)
  | decrement {x : String} {rest : List Token} {p : List Statement} (hp : Spells rest p) :
      Spells (.identifier x :: .keyword .decrement :: .keyword .period :: rest)
        (.decrease x .one :: p)
  | decrease {x : String} {e : Expression} {rest : List Token} {p : List Statement} (he : e.Plain)
      (hp : Spells rest p) :
      Spells (.identifier x :: .keyword .decrementBy ::
        (Expression.spelling e ++ .keyword .step :: .keyword .period :: rest)) (.decrease x e :: p)
  | loop {x : String} {a b : Expression} {inner rest : List Token} {body p : List Statement}
      (ha : a.Plain) (hb : b.Plain) (hbody : Spells inner body) (hp : Spells rest p) :
      Spells (.identifier x :: .keyword .startingAt :: (Expression.spelling a ++ .keyword .upTo ::
        (Expression.spelling b ++ .keyword .loop :: (inner ++ .keyword .endLoop :: rest))))
        (.loop x a b body :: p)

theorem Spells.append {ts us : List Token} {p q : List Statement} (hp : Spells ts p)
    (hq : Spells us q) : Spells (ts ++ us) (p ++ q) := by
  induction hp with
  | nil => exact hq
  | say he _ ih => simpa using Spells.say he ih
  | declare _ ih => exact .declare ih
  | assign he _ ih => simpa using Spells.assign he ih
  | increment _ ih => exact .increment ih
  | increase he _ ih => simpa using Spells.increase he ih
  | decrement _ ih => exact .decrement ih
  | decrease he _ ih => simpa using Spells.decrease he ih
  | loop ha hb hbody _ _ ih => simpa using Spells.loop ha hb hbody ih

namespace Reader

/-! ### What is read is what is spelled -/

theorem closing_eq_ok {k : Keyword} {s r : Option Statement} {tokens rest : List Token}
    (h : (do expect k; return s : Reader _) tokens = .ok r rest) :
    r = s ∧ tokens = .keyword k :: rest := by
  obtain ⟨_, _, hk, h⟩ := bind_eq_ok.1 h
  obtain ⟨rfl, rfl⟩ := pure_eq_ok.1 h
  exact ⟨rfl, expect_eq_ok.1 hk⟩

theorem valued_eq_ok {f : Expression → Statement} {r : Option Statement} {tokens rest : List Token}
    (h : (do let e ← expression; expect .period; return some (f e) : Reader _) tokens =
      .ok r rest) :
    ∃ e, r = some (f e) ∧ Expression.Plain e ∧
      tokens = Expression.spelling e ++ .keyword .period :: rest := by
  obtain ⟨e, _, he, h⟩ := bind_eq_ok.1 h
  obtain ⟨rfl, rfl⟩ := closing_eq_ok h
  obtain ⟨rfl, hp, -⟩ := spelling_of_expression he
  exact ⟨e, rfl, hp, rfl⟩

theorem stepped_eq_ok {f : Expression → Statement} {r : Option Statement}
    {tokens rest : List Token}
    (h : (do let e ← expression; expect .step; expect .period; return some (f e) : Reader _) tokens =
      .ok r rest) :
    ∃ e, r = some (f e) ∧ Expression.Plain e ∧
      tokens = Expression.spelling e ++ .keyword .step :: .keyword .period :: rest := by
  obtain ⟨e, _, he, h⟩ := bind_eq_ok.1 h
  obtain ⟨_, _, hs, h⟩ := bind_eq_ok.1 h
  obtain ⟨rfl, rfl⟩ := closing_eq_ok h
  cases expect_eq_ok.1 hs
  obtain ⟨rfl, hp, -⟩ := spelling_of_expression he
  exact ⟨e, rfl, hp, rfl⟩

/-- One statement, given that the bodies of loops are spelled by what they take. -/
theorem none_or_spells_of_statement {tokens rest : List Token} {r : Option Statement}
    (ih : ∀ (inner : List Token) {p : List Statement} {rest : List Token},
      inner.length < tokens.length → statements inner = .ok p rest →
        ∃ front, inner = front ++ rest ∧ Spells front p)
    (h : statement tokens = .ok r rest) :
    (r = none ∧ rest = tokens) ∨
      ∃ s front, r = some s ∧ tokens = front ++ rest ∧ Spells front [s] := by
  unfold statement statementWith at h
  split at h
  · obtain ⟨_, _, hc, h⟩ := bind_eq_ok.1 h
    obtain ⟨e, rfl, he, rfl⟩ := valued_eq_ok h
    cases expect_eq_ok.1 hc
    exact .inr ⟨_, _, rfl, by simp, .say he .nil⟩
  · obtain ⟨rfl, rfl⟩ := closing_eq_ok h
    exact .inr ⟨_, _, rfl, by simp, .declare .nil⟩
  · obtain ⟨e, rfl, he, rfl⟩ := valued_eq_ok h
    exact .inr ⟨_, _, rfl, by simp, .assign he .nil⟩
  · obtain ⟨rfl, rfl⟩ := closing_eq_ok h
    exact .inr ⟨_, _, rfl, by simp, .increment .nil⟩
  · obtain ⟨e, rfl, he, rfl⟩ := stepped_eq_ok h
    exact .inr ⟨_, _, rfl, by simp, .increase he .nil⟩
  · obtain ⟨rfl, rfl⟩ := closing_eq_ok h
    exact .inr ⟨_, _, rfl, by simp, .decrement .nil⟩
  · obtain ⟨e, rfl, he, rfl⟩ := stepped_eq_ok h
    exact .inr ⟨_, _, rfl, by simp, .decrease he .nil⟩
  · obtain ⟨a, _, ha, h⟩ := bind_eq_ok.1 h
    obtain ⟨_, _, hc, h⟩ := bind_eq_ok.1 h
    obtain ⟨b, _, hb, h⟩ := bind_eq_ok.1 h
    obtain ⟨_, _, hd, h⟩ := bind_eq_ok.1 h
    obtain ⟨body, _, hbody, h⟩ := bind_eq_ok.1 h
    obtain ⟨rfl, rfl⟩ := closing_eq_ok h
    cases expect_eq_ok.1 hc
    cases expect_eq_ok.1 hd
    obtain ⟨rfl, hpa, -⟩ := spelling_of_expression ha
    obtain ⟨rfl, hpb, -⟩ := spelling_of_expression hb
    obtain ⟨inner, rfl, hi⟩ := ih _ (by simp; omega) hbody
    exact .inr ⟨_, _, rfl, by simp, .loop hpa hpb hi .nil⟩
  · cases h
    exact .inl ⟨rfl, rfl⟩

/-- **What is read is what is spelled**: the tokens taken spell the statements returned. -/
theorem spells_of_statements {tokens rest : List Token} {p : List Statement}
    (h : statements tokens = .ok p rest) : ∃ front, tokens = front ++ rest ∧ Spells front p := by
  induction hn : tokens.length using Nat.strongRecOn generalizing tokens rest p with
  | _ n ih =>
    subst hn
    rw [statements_eq] at h
    cases hs : statement tokens with
    | error wanted left => simp [hs] at h
    | ok r left =>
      have hcases := none_or_spells_of_statement (fun inner _ _ hlt h => ih _ hlt h rfl) hs
      rcases hcases with ⟨rfl, rfl⟩ | ⟨s, front, rfl, rfl, hf⟩
      · simp only [hs, EStateM.Result.ok.injEq] at h
        obtain ⟨rfl, rfl⟩ := h
        exact ⟨[], rfl, .nil⟩
      · have hlt := length_lt_of_statementWith statements_takesFront hs
        cases hm : statements left with
        | error wanted last => simp [hs, hm] at h
        | ok more last =>
          simp only [hs, hm, EStateM.Result.ok.injEq] at h
          obtain ⟨rfl, rfl⟩ := h
          obtain ⟨back, rfl, hb⟩ := ih _ hlt hm rfl
          exact ⟨front ++ back, by simp, hf.append hb⟩

/-! ### What is spelled is read -/

/-- The result of reading with statements read before it. -/
def prepend (p : List Statement) :
    EStateM.Result Expectation (List Token) (List Statement) →
      EStateM.Result Expectation (List Token) (List Statement)
  | .ok q rest => .ok (p ++ q) rest
  | .error wanted rest => .error wanted rest

theorem prepend_nil (r : EStateM.Result Expectation (List Token) (List Statement)) :
    prepend [] r = r := by
  cases r <;> rfl

theorem statements_of_statement {tokens tail : List Token} {s : Statement} {p : List Statement}
    {r : EStateM.Result Expectation (List Token) (List Statement)}
    (h : statement tokens = .ok (some s) tail) (ht : statements tail = prepend p r) :
    statements tokens = prepend (s :: p) r := by
  rw [statements_eq, h]
  dsimp only
  rw [ht]
  cases r <;> rfl

theorem statements_endLoop (rest : List Token) :
    statements (.keyword .endLoop :: rest) = .ok [] (.keyword .endLoop :: rest) := by
  rw [statements_eq]
  rfl

theorem stops_keyword {k : Keyword} (h : k.isOperator = false ∧ k ≠ .openQuote)
    (rest : List Token) : Stops (.keyword k :: rest) := h

theorem closing_ok (k : Keyword) (s : Statement) (rest : List Token) :
    (do expect k; return some s : Reader _) (.keyword k :: rest) = .ok (some s) rest :=
  expect_bind k _ rest

theorem valued_ok {e : Expression} (he : e.Plain) (f : Expression → Statement)
    (rest : List Token) :
    (do let e ← expression; expect .period; return some (f e) : Reader _)
      (Expression.spelling e ++ .keyword .period :: rest) = .ok (some (f e)) rest := by
  rw [expression_bind he _ (stops_keyword (by decide) _)]
  exact closing_ok _ _ _

theorem stepped_ok {e : Expression} (he : e.Plain) (f : Expression → Statement)
    (rest : List Token) :
    (do let e ← expression; expect .step; expect .period; return some (f e) : Reader _)
      (Expression.spelling e ++ .keyword .step :: .keyword .period :: rest) =
        .ok (some (f e)) rest := by
  rw [expression_bind he _ (stops_keyword (by decide) _), expect_bind]
  exact closing_ok _ _ _

theorem loop_ok {a b : Expression} (ha : a.Plain) (hb : b.Plain) {inner rest : List Token}
    {body : List Statement} (x : String)
    (h : statements (inner ++ .keyword .endLoop :: rest) = .ok body (.keyword .endLoop :: rest)) :
    statement (.identifier x :: .keyword .startingAt :: (Expression.spelling a ++ .keyword .upTo ::
      (Expression.spelling b ++ .keyword .loop :: (inner ++ .keyword .endLoop :: rest)))) =
        .ok (some (.loop x a b body)) rest := by
  change (do
    let first ← expression
    expect .upTo
    let last ← expression
    expect .loop
    let body ← statements
    expect .endLoop
    return some (.loop x first last body) : Reader (Option Statement)) _ = _
  rw [expression_bind ha _ (stops_keyword (by decide) _), expect_bind,
    expression_bind hb _ (stops_keyword (by decide) _), expect_bind, bind_of_ok h]
  exact closing_ok _ _ _

/-- **Statements that are spelled out are read first**, whatever stands behind them. -/
theorem statements_append {front : List Token} {p : List Statement} (h : Spells front p)
    (rest : List Token) : statements (front ++ rest) = prepend p (statements rest) := by
  induction h generalizing rest with
  | nil => rw [List.nil_append, prepend_nil]
  | say he _ ih =>
    refine statements_of_statement ?_ (ih rest)
    simp only [List.cons_append, List.append_assoc]
    exact (expect_bind _ _ _).trans (valued_ok he _ _)
  | declare _ ih => exact statements_of_statement (closing_ok _ _ _) (ih rest)
  | assign he _ ih =>
    refine statements_of_statement ?_ (ih rest)
    simp only [List.cons_append, List.append_assoc]
    exact valued_ok he _ _
  | increment _ ih => exact statements_of_statement (closing_ok _ _ _) (ih rest)
  | increase he _ ih =>
    refine statements_of_statement ?_ (ih rest)
    simp only [List.cons_append, List.append_assoc]
    exact stepped_ok he _ _
  | decrement _ ih => exact statements_of_statement (closing_ok _ _ _) (ih rest)
  | decrease he _ ih =>
    refine statements_of_statement ?_ (ih rest)
    simp only [List.cons_append, List.append_assoc]
    exact stepped_ok he _ _
  | loop ha hb _ _ ihbody ih =>
    refine statements_of_statement ?_ (ih rest)
    simp only [List.cons_append, List.append_assoc]
    refine loop_ok ha hb _ ?_
    rw [ihbody, statements_endLoop, prepend, List.append_nil]

end Reader

theorem Program.spells_of_ofTokens {tokens : List Token} {p : Program}
    (h : Program.ofTokens tokens = .ok p) : Spells tokens p := by
  unfold Program.ofTokens at h
  split at h
  · simp at h
  · rename_i hs
    cases h
    obtain ⟨front, rfl, hf⟩ := Reader.spells_of_statements hs
    simpa using hf
  · simp at h

/-! ### What an expression inherits from its text -/

/-- An expression whose tokens can be written one after the other and read back. -/
structure Expression.Writable (e : Expression) : Prop where
  plain : e.Plain
  apart : Apart e
  naturals : Naturals e

mutual

/-- Every expression of a statement has a property, also those inside a loop. -/
def Statement.Each (q : Expression → Prop) : Statement → Prop
  | .say e => q e
  | .declare _ => True
  | .assign _ e => q e
  | .increase _ e => q e
  | .decrease _ e => q e
  | .loop _ a b body => q a ∧ q b ∧ Program.Each q body

/-- Every expression of some statements has a property. -/
def Program.Each (q : Expression → Prop) : List Statement → Prop
  | [] => True
  | s :: p => s.Each q ∧ Program.Each q p

end

theorem mem_spelling {e : Expression} {t : Token} (h : t ∈ e) : t ∈ e.spelling := by
  refine List.mem_flatMap.2 ⟨t, h, ?_⟩
  cases t <;> simp [Token.spelling]

/-- Quotes only move tokens further apart. -/
theorem apart_of_spelling {e : Expression} (h : Apart e.spelling) : Apart e := by
  induction e with
  | nil => exact .nil
  | cons t e ih =>
    rw [Expression.spelling_cons] at h
    refine List.isChain_cons.2 ⟨fun u hu => ?_, ih h.right_of_append⟩
    obtain ⟨tail, rfl⟩ := List.head?_eq_some_iff.1 hu
    cases t with
    | keyword _ => rfl
    | string _ => rfl
    | identifier _ | integer _ =>
      cases u with
      | keyword k => rfl
      | string s => rfl
      | identifier _ | integer _ => exact (List.isChain_cons_cons.1 h).1

/-- Tokens of a text, or a piece of them: what no expression in them has to worry about. -/
structure Sound (tokens : List Token) : Prop where
  apart : Apart tokens
  naturals : Naturals tokens

theorem Sound.of_part {tokens part : List Token} (h : Sound tokens) (hi : part <:+: tokens) :
    Sound part where
  apart := List.IsChain.infix h.apart hi
  naturals n hn := h.naturals n (hi.subset hn)

theorem Sound.tail {t : Token} {tokens : List Token} (h : Sound (t :: tokens)) : Sound tokens :=
  h.of_part (List.suffix_cons _ _).isInfix

theorem Sound.left {front back : List Token} (h : Sound (front ++ back)) : Sound front :=
  h.of_part (List.prefix_append _ _).isInfix

theorem Sound.right {front back : List Token} (h : Sound (front ++ back)) : Sound back :=
  h.of_part (List.suffix_append _ _).isInfix

theorem Sound.writable {e : Expression} (h : Sound e.spelling) (he : e.Plain) : e.Writable :=
  ⟨he, apart_of_spelling h.apart, fun n hn => h.naturals n (mem_spelling hn)⟩

theorem Expression.writable_one : Expression.Writable .one :=
  ⟨by simp [Plain, one, Token.isPlain], .singleton _, by simp [Naturals, Natural, one, greatestInteger]⟩

/-- **Every expression of a text can be written without blanks.** -/
theorem Spells.writable {tokens : List Token} {p : List Statement} (h : Spells tokens p)
    (hs : Sound tokens) : Program.Each Expression.Writable p := by
  induction h with
  | nil => trivial
  | say he _ ih => exact ⟨hs.tail.tail.left.writable he, ih hs.tail.tail.right.tail⟩
  | declare _ ih => exact ⟨trivial, ih hs.tail.tail.tail⟩
  | assign he _ ih => exact ⟨hs.tail.tail.left.writable he, ih hs.tail.tail.right.tail⟩
  | increment _ ih => exact ⟨Expression.writable_one, ih hs.tail.tail.tail⟩
  | increase he _ ih => exact ⟨hs.tail.tail.left.writable he, ih hs.tail.tail.right.tail.tail⟩
  | decrement _ ih => exact ⟨Expression.writable_one, ih hs.tail.tail.tail⟩
  | decrease he _ ih => exact ⟨hs.tail.tail.left.writable he, ih hs.tail.tail.right.tail.tail⟩
  | loop ha hb _ _ ihbody ih =>
    have hlast := hs.tail.tail.right.tail
    have hbody := hlast.right.tail
    exact ⟨⟨hs.tail.tail.left.writable ha, hlast.left.writable hb, ihbody hbody.left⟩,
      ih hbody.right.tail⟩

theorem sound_of_tokenize {source : String} {tokens : List Token}
    (h : tokenize source = .ok tokens) : Sound tokens :=
  ⟨apart_of_tokenize h, naturals_of_tokenize h⟩

end Laoke
