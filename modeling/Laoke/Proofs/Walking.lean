import Laoke.Cursor.Reader
import Laoke.Proofs.Recognition
import Mathlib.Data.List.Forall2

/-!
# A cursor follows the tokens that remain

Readers come in two forms: those that take tokens off the front of a list, and
those that move a cursor over a list that stays.  A cursor stands for the tokens
that remain behind it, and every step that it makes is the step of a list.

* `Cursor.remaining_advance`: a cursor stands where reading stopped.
* `CursorReader.Follows`: a reader that moves a cursor ends like a reader of lists, as
  long as it started at the same tokens.
* `Follows.pure`, `Follows.bind`: so do readers one after the other.
* `choose_of_keyword`, `choose_of_other`: the tests for keywords at the start of a
  statement come to a look at one token.
* `expression_follows`, `statementWith_follows`, `statements_follows`: the readers of
  expressions and statements, and the two loops in them.
-/

namespace Laoke

variable {α β : Type}

/-! ### Single steps -/

namespace Cursor

theorem length_remaining (c : Cursor) : c.remaining.length = c.tokens.length - c.position :=
  List.length_drop

theorem current?_eq (c : Cursor) : c.current? = c.tokens[c.position]? :=
  List.head?_drop

theorem advance_remaining (c : Cursor) : c.advance c.remaining = c := by
  simp [advance]

/-- **A cursor stands where reading stopped.** -/
theorem remaining_advance {c : Cursor} {rest : List Token} (h : rest <:+ c.remaining) :
    (c.advance rest).remaining = rest := by
  show c.tokens.drop (c.position + (c.remaining.length - rest.length)) = rest
  rw [← List.drop_drop]
  exact (List.suffix_iff_eq_drop.1 h).symm

theorem advance_advance {c : Cursor} {rest rest' : List Token} (h : rest <:+ c.remaining)
    (h' : rest' <:+ rest) : (c.advance rest).advance rest' = c.advance rest' := by
  have hle := h.length_le
  have hle' := h'.length_le
  have hposition : c.position + (c.remaining.length - rest.length) +
      ((c.advance rest).remaining.length - rest'.length) =
        c.position + (c.remaining.length - rest'.length) := by
    rw [remaining_advance h]
    omega
  exact congrArg (Cursor.mk c.tokens) hposition

theorem current?_of_nil {c : Cursor} (h : c.remaining = []) : c.current? = none := by
  rw [current?, h]
  rfl

section

variable {c : Cursor} {t : Token} {tail : List Token}

theorem current?_of_cons (h : c.remaining = t :: tail) : c.current? = some t := by
  rw [current?, h]
  rfl

theorem bump_of_cons (h : c.remaining = t :: tail) : c.bump.2 = c.advance tail := by
  rw [bump, h]

end

/-- How a reader of lists ends, for a cursor that it started from. -/
def after (c : Cursor) :
    EStateM.Result Expectation (List Token) α → EStateM.Result ParseError Cursor α
  | .ok a rest => .ok a (c.advance rest)
  | .error wanted rest => .error ((c.advance rest).error wanted) (c.advance rest)

theorem after_ok_remaining (c : Cursor) (a : α) : c.after (.ok a c.remaining) = .ok a c := by
  rw [after, advance_remaining]

theorem after_error_remaining (c : Cursor) (wanted : Expectation) :
    c.after (.error wanted c.remaining : EStateM.Result _ _ α) = .error (c.error wanted) c := by
  rw [after, advance_remaining]

/-- It does not matter that a cursor has moved on before. -/
theorem after_advance {c : Cursor} {rest : List Token} (h : rest <:+ c.remaining)
    {result : EStateM.Result Expectation (List Token) α} (hr : Reader.left result <:+ rest) :
    (c.advance rest).after result = c.after result := by
  cases result with
  | ok a last =>
    have hlast : (c.advance rest).advance last = c.advance last := advance_advance h hr
    rw [after, after, hlast]
  | error wanted last =>
    have hlast : (c.advance rest).advance last = c.advance last := advance_advance h hr
    rw [after, after, hlast]

end Cursor

/-! ### Readers one after the other -/

namespace CursorReader

/-- A reader that does with a cursor what another does with the tokens that remain. -/
structure Follows (w : CursorReader α) (r : Reader α) : Prop where
  front : Reader.TakesFront r
  eq_after : ∀ c : Cursor, w c = c.after (r c.remaining)

theorem Follows.run_eq_read {w : CursorReader α} {r : Reader α} (h : Follows w r) (c : Cursor) :
    c.run w = c.read r := by
  rw [Cursor.run, h.eq_after, Cursor.read]
  cases r c.remaining <;> rfl

/-- What is read after some tokens is what follows them, seen from before them. -/
theorem eq_after_of_suffix {w : CursorReader α} {r : Reader α} (hr : Reader.TakesFront r)
    {c : Cursor} {rest : List Token} (hrest : rest <:+ c.remaining)
    (h : w (c.advance rest) = (c.advance rest).after (r (c.advance rest).remaining)) :
    w (c.advance rest) = c.after (r rest) := by
  rw [h, Cursor.remaining_advance hrest, Cursor.after_advance hrest (hr rest)]

theorem Follows.eq_after_advance {w : CursorReader α} {r : Reader α} (h : Follows w r)
    {c : Cursor} {rest : List Token} (hrest : rest <:+ c.remaining) :
    w (c.advance rest) = c.after (r rest) :=
  eq_after_of_suffix h.front hrest (h.eq_after _)

theorem Follows.pure (a : α) : Follows (Pure.pure a : CursorReader α) (Pure.pure a : Reader α) where
  front := .pure a
  eq_after c := (c.after_ok_remaining a).symm

theorem Follows.bind {w : CursorReader α} {r : Reader α} {f : α → CursorReader β}
    {g : α → Reader β} (h : Follows w r) (hf : ∀ a, Follows (f a) (g a)) :
    Follows (w >>= f) (r >>= g) where
  front := h.front.bind fun a => (hf a).front
  eq_after c := by
    have hw := h.eq_after c
    have hfront := h.front c.remaining
    cases hr : r c.remaining with
    | ok a rest =>
      rw [hr] at hw hfront
      rw [bind_of_ok hw, bind_of_ok hr]
      exact (hf a).eq_after_advance hfront
    | error wanted rest =>
      rw [hr] at hw
      rw [bind_of_error hw, bind_of_error hr]
      rfl

section

variable {c : Cursor} {k : Keyword}

theorem skip_of_cons {tail : List Token} (h : c.remaining = .keyword k :: tail) :
    skip k c = .ok true (c.advance tail) := by
  have hat : c.isAt k = true := decide_eq_true (Cursor.current?_of_cons h)
  rw [skip, Cursor.skip, if_pos hat, Cursor.bump_of_cons h]

theorem skip_of_ne (h : c.current? ≠ some (.keyword k)) : skip k c = .ok false c := by
  have hat : c.isAt k = false := decide_eq_false h
  rw [skip, Cursor.skip, hat, if_neg Bool.false_ne_true]

end

theorem expect_follows (k : Keyword) : Follows (expect k) (Reader.expect k) where
  front := Reader.expect_takesFront k
  eq_after c := by
    unfold expect
    by_cases h : c.current? = some (.keyword k)
    · obtain ⟨tail, htail⟩ := List.head?_eq_some_iff.1 h
      rw [bind_of_ok (skip_of_cons htail), Reader.expect_eq_ok.2 htail]
      rfl
    · have hread : Reader.expect k c.remaining = .error (.keyword k) c.remaining :=
        Reader.expect_eq_error.2 ⟨rfl, rfl, h⟩
      rw [bind_of_ok (skip_of_ne h), hread, Cursor.after_error_remaining]
      rfl

/-! ### Expressions -/

end CursorReader

namespace Reader

/-- Reads a token of the given kind. -/
def expectKind (kind : TokenKind) : Reader Token := fun
  | t :: rest => if t.kind = kind then .ok t rest else .error (.kind kind) (t :: rest)
  | [] => .error (.kind kind) []

/-- Reads a token of an expression, if one stands in front.  A string stands in quotes. -/
def expressionToken? : Reader (Option Token)
  | .keyword .openQuote :: rest => (do
    let s ← expectKind .string
    expect .closeQuote
    return some s : Reader _) rest
  | .keyword k :: rest =>
    if k.isOperator then .ok (some (.keyword k)) rest else .ok none (.keyword k :: rest)
  | .integer n :: rest => .ok (some (.integer n)) rest
  | .identifier x :: rest => .ok (some (.identifier x)) rest
  | tokens => .ok none tokens

theorem expectKind_takesFront (kind : TokenKind) : TakesFront (expectKind kind) := by
  intro tokens
  unfold expectKind
  split
  · split
    · exact List.suffix_cons _ _
    · exact List.suffix_refl _
  · exact List.suffix_refl _

theorem expectKind_of_ne {kind : TokenKind} {tokens : List Token}
    (h : ∀ t ∈ tokens.head?, t.kind ≠ kind) :
    expectKind kind tokens = .error (.kind kind) tokens := by
  cases tokens with
  | nil => rfl
  | cons t tail => exact if_neg (h t rfl)

theorem expressionToken?_takesFront : TakesFront expressionToken? := by
  intro tokens
  unfold expressionToken?
  split
  · have hquoted := (expectKind_takesFront .string).bind fun s =>
      (expect_takesFront .closeQuote).bind fun _ => TakesFront.pure (some s)
    exact (hquoted _).trans (List.suffix_cons _ _)
  · split
    · exact List.suffix_cons _ _
    · exact List.suffix_refl _
  · exact List.suffix_cons _ _
  · exact List.suffix_cons _ _
  · exact List.suffix_refl _

theorem expressionToken?_keyword {k : Keyword} (hquote : k ≠ .openQuote) (rest : List Token) :
    expressionToken? (.keyword k :: rest) =
      if k.isOperator then .ok (some (.keyword k)) rest else .ok none (.keyword k :: rest) := by
  unfold expressionToken?
  split <;> simp_all

/-- An expression is read token by token. -/
theorem expression_eq (tokens : List Token) :
    expression tokens =
      match expressionToken? tokens with
      | .error wanted rest => .error wanted rest
      | .ok none rest => .ok [] rest
      | .ok (some t) rest => consExpression t (expression rest) := by
  fun_cases expression tokens with
  | case1 => rfl
  | case2 n rest => rfl
  | case3 x rest => rfl
  | case4 s rest => rfl
  | case5 s rest hclose =>
    have hmissing : expect .closeQuote rest = .error (.keyword .closeQuote) rest := by
      refine expect_eq_error.2 ⟨rfl, rfl, fun h => ?_⟩
      obtain ⟨tail, htail⟩ := List.head?_eq_some_iff.1 h
      exact hclose tail htail
    have htoken : expressionToken? (.keyword .openQuote :: .string s :: rest) =
        .error (.keyword .closeQuote) rest :=
      (bind_of_ok (m := expectKind .string) rfl).trans (bind_of_error hmissing)
    rw [htoken]
  | case6 rest _ hstring =>
    have hmissing : expectKind .string rest = .error (.kind .string) rest := by
      refine expectKind_of_ne fun t ht hkind => ?_
      obtain ⟨tail, htail⟩ := List.head?_eq_some_iff.1 ht
      cases t with
      | string s => exact hstring s tail htail
      | keyword _ | identifier _ | integer _ => cases hkind
    have htoken : expressionToken? (.keyword .openQuote :: rest) = .error (.kind .string) rest :=
      bind_of_error hmissing
    rw [htoken]
  | case7 k rest _ _ hquote hk => rw [expressionToken?_keyword hquote, if_pos hk]
  | case8 k rest _ _ hquote hk => rw [expressionToken?_keyword hquote, if_neg hk]
  | case9 => rfl

theorem length_lt_of_expressionToken? {tokens rest : List Token} {t : Token}
    (h : expressionToken? tokens = .ok (some t) rest) : rest.length < tokens.length := by
  unfold expressionToken? at h
  split at h
  · rename_i tail
    obtain ⟨s, mid, hs, h⟩ := bind_eq_ok.1 h
    obtain ⟨u, last, hclose, h⟩ := bind_eq_ok.1 h
    obtain ⟨-, rfl⟩ := pure_eq_ok.1 h
    have hmid := (expectKind_takesFront .string tail).length_le
    rw [hs, expect_eq_ok.1 hclose] at hmid
    exact Nat.lt_succ_of_lt hmid
  · split at h
    · cases h
      exact Nat.lt_succ_self _
    · cases h
  · cases h
    exact Nat.lt_succ_self _
  · cases h
    exact Nat.lt_succ_self _
  · cases h

end Reader

namespace CursorReader

theorem expectKind_follows (kind : TokenKind) :
    Follows (expectKind kind) (Reader.expectKind kind) where
  front := Reader.expectKind_takesFront kind
  eq_after c := by
    unfold expectKind
    cases h : c.remaining with
    | nil =>
      rw [Cursor.current?_of_nil h]
      exact (h ▸ c.after_error_remaining (.kind kind)).symm
    | cons t tail =>
      rw [Cursor.current?_of_cons h]
      by_cases ht : t.kind = kind
      · have hread : Reader.expectKind kind (t :: tail) = .ok t tail := if_pos ht
        dsimp only
        rw [hread, if_pos ht, Cursor.bump_of_cons h]
        rfl
      · have hread : Reader.expectKind kind (t :: tail) = .error (.kind kind) (t :: tail) :=
          if_neg ht
        dsimp only
        rw [hread, if_neg ht]
        exact (h ▸ c.after_error_remaining (.kind kind)).symm

theorem expressionToken?_follows : Follows expressionToken? Reader.expressionToken? where
  front := Reader.expressionToken?_takesFront
  eq_after c := by
    have hstay : c.after (.ok none c.remaining) = .ok (none : Option Token) c :=
      c.after_ok_remaining none
    unfold expressionToken?
    cases h : c.remaining with
    | nil =>
      rw [Cursor.current?_of_nil h]
      exact (h ▸ hstay).symm
    | cons t tail =>
      rw [Cursor.current?_of_cons h, Cursor.bump_of_cons h]
      have htail : tail <:+ c.remaining := h ▸ List.suffix_cons t tail
      cases t with
      | keyword k =>
        by_cases hquote : k = .openQuote
        · subst hquote
          have hquoted := (expectKind_follows .string).bind fun s =>
            (expect_follows .closeQuote).bind fun _ => Follows.pure (some s)
          exact hquoted.eq_after_advance htail
        · rw [Reader.expressionToken?_keyword hquote]
          dsimp only
          rw [if_neg hquote]
          split
          · rfl
          · exact (h ▸ hstay).symm
      | integer n => rfl
      | identifier x => rfl
      | string s => exact (h ▸ hstay).symm

/-- **The loop over the tokens of an expression.** -/
theorem expression_follows : Follows expression Reader.expression where
  front := Reader.expression_takesFront
  eq_after c := by
    induction hn : c.remaining.length using Nat.strongRecOn generalizing c with
    | _ n ih =>
      subst hn
      rw [expression, expressionToken?_follows.eq_after, Reader.expression_eq]
      cases htoken : Reader.expressionToken? c.remaining with
      | error wanted rest => rfl
      | ok t? rest =>
        cases t? with
        | none => rfl
        | some t =>
          have hfront : rest <:+ c.remaining := by
            have hleft := Reader.expressionToken?_takesFront c.remaining
            rwa [htoken] at hleft
          have hlt := Reader.length_lt_of_expressionToken? htoken
          have hrest : (c.advance rest).remaining = rest := Cursor.remaining_advance hfront
          have hmore := eq_after_of_suffix Reader.expression_takesFront hfront
            (ih rest.length hlt (c.advance rest) (by rw [hrest]))
          dsimp only [Cursor.after]
          rw [hrest, if_pos hlt, hmore]
          cases Reader.expression rest <;> rfl

/-! ### Statements -/

end CursorReader

/-- What follows a variable is looked up by the keyword behind it. -/
theorem Reader.statementWith_identifier (body : Reader (List Statement)) (x : String) (k : Keyword)
    (tail : List Token) :
    statementWith body (.identifier x :: .keyword k :: tail) =
      match (statementForms expect expression body x).lookup k with
      | some reader => reader tail
      | none => .ok none (.identifier x :: .keyword k :: tail) := by
  cases k <;> rfl

theorem Reader.statementWith_identifier_alone (body : Reader (List Statement)) (x : String)
    {tail : List Token} (h : ∀ k, tail.head? ≠ some (.keyword k)) :
    statementWith body (.identifier x :: tail) = .ok none (.identifier x :: tail) := by
  cases tail with
  | nil => rfl
  | cons t rest =>
    cases t with
    | keyword k => exact absurd rfl (h k)
    | integer _ | identifier _ | string _ => rfl

theorem Reader.statementWith_of_other (body : Reader (List Statement)) {tokens : List Token}
    (hsay : tokens.head? ≠ some (.keyword .say)) (h : ∀ x, tokens.head? ≠ some (.identifier x)) :
    statementWith body tokens = .ok none tokens := by
  unfold statementWith
  split <;> simp_all

namespace CursorReader

section

variable {c : Cursor} {options : List (Keyword × CursorReader α)} {otherwise : CursorReader α}

/-- **Tests one after the other come to a look at the keyword at the cursor.** -/
theorem choose_of_keyword {k : Keyword} {tail : List Token} (h : c.remaining = .keyword k :: tail) :
    choose options otherwise c =
      match options.lookup k with
      | some reader => reader (c.advance tail)
      | none => otherwise c := by
  induction options with
  | nil => rfl
  | cons option more ih =>
    obtain ⟨k', reader⟩ := option
    by_cases hk : k = k'
    · subst hk
      rw [choose, bind_of_ok (skip_of_cons h), List.lookup_cons_self]
      rfl
    · have hne : c.current? ≠ some (.keyword k') := by simpa [Cursor.current?_of_cons h] using hk
      have hbeq : (k == k') = false := by simpa using hk
      rw [choose, bind_of_ok (skip_of_ne hne), List.lookup_cons, hbeq]
      exact ih

theorem choose_of_other (h : ∀ option ∈ options, c.current? ≠ some (.keyword option.1)) :
    choose options otherwise c = otherwise c := by
  induction options with
  | nil => rfl
  | cons option more ih =>
    obtain ⟨k, reader⟩ := option
    have hne : c.current? ≠ some (.keyword k) := h (k, reader) List.mem_cons_self
    rw [choose, bind_of_ok (skip_of_ne hne)]
    exact ih fun option hoption => h option (List.mem_cons_of_mem _ hoption)

end

/-- Two readers behind the same keyword, one following the other. -/
def Alike (p : Keyword × CursorReader α) (q : Keyword × Reader α) : Prop :=
  p.1 = q.1 ∧ Follows p.2 q.2

theorem lookup_alike {ps : List (Keyword × CursorReader α)} {qs : List (Keyword × Reader α)}
    (h : List.Forall₂ Alike ps qs) (k : Keyword) :
    (ps.lookup k = none ∧ qs.lookup k = none) ∨
      ∃ w r, ps.lookup k = some w ∧ qs.lookup k = some r ∧ Follows w r := by
  induction h with
  | nil => exact .inl ⟨rfl, rfl⟩
  | @cons p q ps qs hpq _ ih =>
    obtain ⟨k', w⟩ := p
    obtain ⟨k'', r⟩ := q
    obtain ⟨hkeyword, hfollows⟩ := hpq
    cases hkeyword
    by_cases hk : k = k'
    · subst hk
      exact .inr ⟨w, r, by simp, by simp, hfollows⟩
    · have hne : (k == k') = false := by simpa using hk
      rw [List.lookup_cons, List.lookup_cons, hne]
      exact ih

section

variable {w : CursorReader (List Statement)} {r : Reader (List Statement)}

theorem Follows.closing (k : Keyword) (s : Option Statement) :
    Follows (do expect k; return s) (do Reader.expect k; return s) :=
  (expect_follows k).bind fun _ => .pure s

theorem forms_alike (hb : Follows w r) (x : String) :
    List.Forall₂ Alike (statementForms expect expression w x)
      (statementForms Reader.expect Reader.expression r x) := by
  have hvalued := expression_follows.bind fun value =>
    Follows.closing .period (some (.assign x value))
  have hstepped (s : Expression → Statement) := expression_follows.bind fun amount =>
    (expect_follows .step).bind fun _ => Follows.closing .period (some (s amount))
  have hloop := expression_follows.bind fun first => (expect_follows .upTo).bind fun _ =>
    expression_follows.bind fun last => (expect_follows .loop).bind fun _ =>
      hb.bind fun body => Follows.closing .endLoop (some (.loop x first last body))
  exact .cons ⟨rfl, .closing _ _⟩ (.cons ⟨rfl, hvalued⟩ (.cons ⟨rfl, .closing _ _⟩
    (.cons ⟨rfl, hstepped _⟩ (.cons ⟨rfl, .closing _ _⟩ (.cons ⟨rfl, hstepped _⟩
      (.cons ⟨rfl, hloop⟩ .nil))))))

/-- Where no statement starts with a keyword, one may start with an identifier. -/
theorem statementWith_of_identifier {c : Cursor} {x : String} {tail : List Token}
    (h : c.remaining = .identifier x :: tail) :
    statementWith w c =
      choose (statementForms expect expression w x) (do moveTo c.position; return none)
        (c.advance tail) := by
  have hcurrent : c.current? = some (.identifier x) := Cursor.current?_of_cons h
  have hidentifier : identifier? c = .ok (some x) (c.advance tail) := by
    show EStateM.Result.ok c.identifier?.1 c.identifier?.2 = _
    rw [Cursor.identifier?, hcurrent, Cursor.bump_of_cons h]
  rw [statementWith, choose_of_other (by simp [hcurrent]), bind_of_ok (rfl : position c = _),
    bind_of_ok hidentifier]

theorem statementWith_of_other {c : Cursor} (hsay : c.current? ≠ some (.keyword .say))
    (h : ∀ x, c.current? ≠ some (.identifier x)) : statementWith w c = .ok none c := by
  have hidentifier : identifier? c = .ok none c := by
    show EStateM.Result.ok c.identifier?.1 c.identifier?.2 = _
    unfold Cursor.identifier?
    split
    · rename_i x hx
      exact absurd hx (h x)
    · rfl
  rw [statementWith, choose_of_other (by simpa using hsay), bind_of_ok (rfl : position c = _),
    bind_of_ok hidentifier]
  rfl

/-- A statement about a variable: the keyword behind the variable decides, and where it decides
nothing the cursor moves back. -/
theorem statementWith_eq_after_of_identifier (hb : Follows w r) {c : Cursor} {x : String}
    {tail : List Token} (h : c.remaining = .identifier x :: tail) :
    statementWith w c = c.after (Reader.statementWith r c.remaining) := by
  have htail : tail <:+ c.remaining := h ▸ List.suffix_cons _ tail
  have hremaining : (c.advance tail).remaining = tail := Cursor.remaining_advance htail
  have hback : (do moveTo c.position; return none : CursorReader (Option Statement))
      (c.advance tail) = c.after (.ok none c.remaining) := (c.after_ok_remaining none).symm
  rw [statementWith_of_identifier h]
  by_cases hkeyword : ∃ k, tail.head? = some (.keyword k)
  · obtain ⟨k, hk⟩ := hkeyword
    obtain ⟨rest, rfl⟩ := List.head?_eq_some_iff.1 hk
    rw [choose_of_keyword hremaining, h, Reader.statementWith_identifier, ← h]
    rcases lookup_alike (forms_alike hb x) k with ⟨hw, hr⟩ | ⟨w', r', hw, hr, hfollows⟩
    · rw [hw, hr]
      exact hback
    · rw [hw, hr]
      dsimp only
      rw [Cursor.advance_advance htail (List.suffix_cons _ rest)]
      exact hfollows.eq_after_advance ((List.suffix_cons _ rest).trans htail)
  · have hother := not_exists.1 hkeyword
    have hcurrent : ∀ option ∈ statementForms expect expression w x,
        (c.advance tail).current? ≠ some (.keyword option.1) := by
      intro option _
      rw [Cursor.current?, hremaining]
      exact hother option.1
    rw [choose_of_other hcurrent, h, Reader.statementWith_identifier_alone r x hother, ← h]
    exact hback

theorem statementWith_follows (hb : Follows w r) :
    Follows (statementWith w) (Reader.statementWith r) where
  front := Reader.statementWith_takesFront hb.front
  eq_after c := by
    by_cases hsay : c.current? = some (.keyword .say)
    · obtain ⟨tail, h⟩ := List.head?_eq_some_iff.1 hsay
      have htail : tail <:+ c.remaining := h ▸ List.suffix_cons _ tail
      have hsaid := (expect_follows .colon).bind fun _ => expression_follows.bind fun value =>
        Follows.closing .period (some (.say value))
      rw [statementWith, choose_of_keyword h, h]
      exact hsaid.eq_after_advance htail
    · by_cases hidentifier : ∃ x, c.current? = some (.identifier x)
      · obtain ⟨x, hx⟩ := hidentifier
        obtain ⟨tail, h⟩ := List.head?_eq_some_iff.1 hx
        exact statementWith_eq_after_of_identifier hb h
      · have hother := not_exists.1 hidentifier
        rw [statementWith_of_other hsay hother, Reader.statementWith_of_other r hsay hother]
        exact (c.after_ok_remaining none).symm

end

/-- **The loop over statements, and over those in the body of a loop.** -/
theorem statements_follows : Follows statements Reader.statements where
  front := Reader.statements_takesFront
  eq_after c := by
    induction hn : c.remaining.length using Nat.strongRecOn generalizing c with
    | _ n ih =>
      subst hn
      -- both readers of a body stop where nothing was read before it, and follow one another
      have hbody : Follows
          (fun inner =>
            if inner.remaining.length < c.remaining.length then statements inner else .ok [] inner)
          (fun inner =>
            if inner.length < c.remaining.length then Reader.statements inner
            else .ok [] inner) := by
        refine ⟨fun inner => ?_, fun inner => ?_⟩
        · split
          · exact Reader.statements_takesFront inner
          · exact List.suffix_refl inner
        · split
          · rename_i hlt
            exact ih inner.remaining.length hlt inner rfl
          · exact (inner.after_ok_remaining []).symm
      rw [statements, (statementWith_follows hbody).eq_after, Reader.statements]
      cases hs : Reader.statementWith (fun inner =>
          if inner.length < c.remaining.length then Reader.statements inner
          else .ok [] inner) c.remaining with
      | error wanted rest => rfl
      | ok s? rest =>
        cases s? with
        | none => rfl
        | some s =>
          have hfront : rest <:+ c.remaining := by
            have hleft := Reader.statementWith_takesFront hbody.front c.remaining
            rwa [hs] at hleft
          have hlt := Reader.length_lt_of_statementWith hbody.front hs
          have hrest : (c.advance rest).remaining = rest := Cursor.remaining_advance hfront
          have hmore := eq_after_of_suffix Reader.statements_takesFront hfront
            (ih rest.length hlt (c.advance rest) (by rw [hrest]))
          dsimp only [Cursor.after]
          rw [hrest, if_pos hlt, if_pos hlt, hmore]
          cases Reader.statements rest <;> rfl

theorem statement_follows : Follows statement Reader.statement :=
  statementWith_follows statements_follows

end CursorReader

end Laoke
