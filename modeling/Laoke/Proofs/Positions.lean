import Laoke.Proofs.Walking

/-!
# Where a cursor stands

A cursor moves by as many tokens as a reader took.  Since readers only take tokens
off the front, also when they fail, the cursor then stands right before what the
reader left, and an error is about the token that stands there, which is not the
one that was wanted.  A cursor behind the last token stays where it is.  All this is
shown of readers of lists, which the readers that move a cursor follow.

* `Reader.unrolled`: the loop over statements with a bound on its calls in place of
  the tokens that are left; `Reader.unrolled_eq` says that the bound is never met.
* `Reader.Justified`: a reader that fails only where what it wants is missing.  What
  every turn of the loop keeps holds of the loop, by `Reader.unrolled_eq`.
* `Cursor.Orderly`: what every read keeps to, however it ends.
* `reads_are_orderly`: what all this comes to for expressions and statements.
-/

namespace Laoke

/-! ### Moving -/

namespace Cursor

variable {α : Type}

/-- A cursor with a token before it stays in the list, and moves if that token is taken. -/
theorem position_advance {c : Cursor} {t : Token} {rest tail : List Token}
    (hc : c.remaining = t :: tail) (h : rest <:+ tail) :
    c.position < (c.advance rest).position ∧ (c.advance rest).position ≤ c.tokens.length := by
  have hlength : tail.length + 1 = c.tokens.length - c.position := by
    rw [← length_remaining, hc, List.length_cons]
  have hle := h.length_le
  show c.position < c.position + (c.remaining.length - rest.length) ∧
    c.position + (c.remaining.length - rest.length) ≤ c.tokens.length
  rw [length_remaining]
  omega

/-! ### Reading -/

theorem read_snd (c : Cursor) (r : Reader α) :
    (c.read r).2 = c.advance (Reader.left (r c.remaining)) := by
  unfold read
  cases r c.remaining <;> rfl

theorem read_of_ok {c : Cursor} {r : Reader α} {a : α} {rest : List Token}
    (h : r c.remaining = .ok a rest) : c.read r = (.ok a, c.advance rest) := by
  rw [read, h]

theorem read_of_error {c : Cursor} {r : Reader α} {wanted : Expectation} {rest : List Token}
    (h : r c.remaining = .error wanted rest) :
    c.read r = (.error ((c.advance rest).error wanted), c.advance rest) := by
  rw [read, h]

theorem exists_of_read_eq_ok {c c' : Cursor} {r : Reader α} {a : α}
    (h : c.read r = (.ok a, c')) : ∃ rest, r c.remaining = .ok a rest ∧ c' = c.advance rest := by
  cases hr : r c.remaining with
  | ok b rest =>
    rw [read_of_ok hr] at h
    cases h
    exact ⟨rest, rfl, rfl⟩
  | error wanted rest =>
    rw [read_of_error hr] at h
    cases h

theorem exists_of_read_eq_error {c c' : Cursor} {r : Reader α} {e : ParseError}
    (h : c.read r = (.error e, c')) : ∃ wanted rest,
      r c.remaining = .error wanted rest ∧ c' = c.advance rest ∧ e = c'.error wanted := by
  cases hr : r c.remaining with
  | ok a rest =>
    rw [read_of_ok hr] at h
    cases h
  | error wanted rest =>
    rw [read_of_error hr] at h
    cases h
    exact ⟨wanted, rest, rfl, rfl, rfl⟩

theorem error_eq_unexpectedToken {c : Cursor} {wanted wanted' : Expectation} {found : Token}
    {position : Nat} (h : c.error wanted = .unexpectedToken wanted' found position) :
    wanted = wanted' ∧ c.position = position ∧ c.tokens[position]? = some found := by
  unfold error at h
  split at h
  · rename_i hc
    cases h
    exact ⟨rfl, rfl, c.current?_eq ▸ hc⟩
  · cases h

theorem error_eq_unexpectedEnd {c : Cursor} {wanted wanted' : Expectation}
    (h : c.error wanted = .unexpectedEnd wanted') : c.tokens.length ≤ c.position := by
  unfold error at h
  split at h
  · cases h
  · rename_i hc
    rw [current?_eq] at hc
    exact List.getElem?_eq_none_iff.1 hc

end Cursor

/-! ### The loop over statements -/

namespace Reader

/-- Reads statements until none starts, in a loop that does not look at how many tokens are left.
Every further turn and every body of a loop statement is a call one deeper, and a call deeper than
`depth` is left to `stuck`. -/
def unrolled (stuck : Reader (List Statement)) : Nat → Reader (List Statement)
  | 0 => stuck
  | depth + 1 => do
    match ← statementWith (unrolled stuck depth) with
    | none => return []
    | some s =>
      let more ← unrolled stuck depth
      return s :: more

/-- **The loop ends**: every call has fewer tokens than the one that made it, so none is deeper than
there are tokens, and it does not matter what such a call would do. -/
theorem unrolled_eq (stuck : Reader (List Statement)) {depth : Nat} {tokens : List Token}
    (h : tokens.length < depth) : unrolled stuck depth tokens = statements tokens := by
  induction depth generalizing tokens with
  | zero => omega
  | succ depth ih =>
    have hbody : statementWith (unrolled stuck depth) tokens = statement tokens :=
      statementWith_congr fun rest hlt => ih (by omega)
    rw [statements_eq, unrolled]
    cases hs : statement tokens with
    | error wanted rest =>
      rw [hs] at hbody
      exact bind_of_error hbody
    | ok s? rest =>
      rw [hs] at hbody
      rw [bind_of_ok hbody]
      cases s? with
      | none => rfl
      | some s =>
        -- The next turn has fewer tokens, since a statement took one at least.
        have hlt := length_lt_of_statementWith statements_takesFront hs
        have hmore := ih (Nat.lt_of_lt_of_le hlt (Nat.le_of_lt_succ h))
        dsimp only
        cases hr : statements rest with
        | ok more last =>
          rw [hr] at hmore
          exact bind_of_ok hmore
        | error wanted last =>
          rw [hr] at hmore
          exact bind_of_error hmore

end Reader

/-! ### Where readers fail -/

/-- What was wanted does not stand in front of some tokens. -/
def Expectation.Missing : Expectation → List Token → Prop
  | .keyword k, rest => rest.head? ≠ some (.keyword k)
  | .kind k, rest => ∀ t ∈ rest.head?, t.kind ≠ k
  | .statement, rest => Reader.statement rest = .ok none rest

namespace Reader

variable {α β : Type}

/-- A reader that fails only where what it wants is missing. -/
def Justified (r : Reader α) : Prop :=
  ∀ ⦃tokens wanted rest⦄, r tokens = .error wanted rest → wanted.Missing rest

theorem Justified.pure (a : α) : Justified (Pure.pure a : Reader α) := by
  intro tokens wanted rest h
  cases h

theorem Justified.bind {r : Reader α} {f : α → Reader β} (hr : Justified r)
    (hf : ∀ a, Justified (f a)) : Justified (r >>= f) := by
  intro tokens wanted rest h
  rcases bind_eq_error.1 h with h | ⟨a, mid, -, h⟩
  · exact hr h
  · exact hf a h

theorem expect_justified (k : Keyword) : Justified (expect k) := by
  intro tokens wanted rest h
  obtain ⟨rfl, rfl, hhead⟩ := expect_eq_error.1 h
  exact hhead

theorem expression_justified : Justified expression := by
  intro tokens wanted rest h
  obtain ⟨e, front, -, hbreaks, -⟩ := expression_eq_error_iff.1 h
  cases hbreaks with
  | text hno =>
    intro t ht hkind
    cases t with
    | string s => exact hno s ht
    | keyword _ | identifier _ | integer _ => cases hkind
  | close s hno => exact hno

theorem Justified.closing (k : Keyword) (s : Option Statement) :
    Justified (do expect k; return s : Reader _) :=
  (expect_justified k).bind fun _ => .pure s

/-- After its first tokens, a statement of any form fails only where a token of it is missing. -/
theorem Opens.justified {body : Reader (List Statement)} (hb : Justified body)
    {opener : List Token} {reader : Reader (Option Statement)} (h : Opens body opener reader) :
    Justified reader := by
  cases h with
  | say =>
    exact (expect_justified _).bind fun _ => expression_justified.bind fun _ => .closing _ _
  | declare x | increment x | decrement x => exact .closing _ _
  | assign x => exact expression_justified.bind fun _ => .closing _ _
  | increase x | decrease x =>
    exact expression_justified.bind fun _ => (expect_justified _).bind fun _ => .closing _ _
  | loop x =>
    exact expression_justified.bind fun _ => (expect_justified _).bind fun _ =>
      expression_justified.bind fun _ => (expect_justified _).bind fun _ =>
        hb.bind fun _ => .closing _ _

theorem statementWith_justified {body : Reader (List Statement)} (hb : Justified body) :
    Justified (statementWith body) := by
  intro tokens wanted rest h
  rcases opens_or_none body tokens with ⟨opener, reader, tail, ho, rfl⟩ | ⟨hnone, -⟩
  · rw [ho.statementWith] at h
    exact ho.justified hb h
  · rw [hnone] at h
    cases h

theorem unrolled_justified {stuck : Reader (List Statement)} (h : Justified stuck) (depth : Nat) :
    Justified (unrolled stuck depth) := by
  induction depth with
  | zero => exact h
  | succ depth ih =>
    refine (statementWith_justified ih).bind fun s? => ?_
    cases s? with
    | none => exact .pure _
    | some s => exact ih.bind fun _ => .pure _

theorem statements_justified : Justified statements := by
  intro tokens wanted rest h
  rw [← unrolled_eq (Pure.pure []) (Nat.lt_succ_self tokens.length)] at h
  exact unrolled_justified (.pure _) _ h

end Reader

/-! ### Reading from a cursor -/

/-- What a read from a cursor keeps to, however it ends. -/
structure Cursor.Orderly {α : Type} (c : Cursor) (r : Reader α) : Prop where
  tokens : (c.read r).2.tokens = c.tokens
  forward : c.position ≤ (c.read r).2.position
  /-- The end is passed by no read. -/
  within : (c.read r).2.position ≤ max c.position c.tokens.length
  /-- The cursor is where the reader stopped. -/
  remaining : (c.read r).2.remaining = Reader.left (r c.remaining)
  /-- An error about a token is about the one at the cursor, which is not what was wanted. -/
  atToken : ∀ {wanted found position c'},
    c.read r = (.error (.unexpectedToken wanted found position), c') →
      c'.position = position ∧ c.tokens[position]? = some found ∧ wanted.Missing c'.remaining
  /-- Tokens that ended too early leave the cursor at the end, or behind it. -/
  atEnd : ∀ {wanted c'}, c.read r = (.error (.unexpectedEnd wanted), c') →
    c.tokens.length ≤ c'.position

/-- **Readers move a cursor forward**, to where they stop, and fail where they have to. -/
theorem Reader.TakesFront.orderly {α : Type} {r : Reader α} (hr : TakesFront r)
    (hj : Justified r) (c : Cursor) : c.Orderly r where
  tokens := by
    rw [c.read_snd]
    rfl
  forward := by
    rw [c.read_snd]
    exact Nat.le_add_right _ _
  within := by
    rw [c.read_snd]
    show c.position + (c.remaining.length - _) ≤ _
    rw [c.length_remaining]
    omega
  remaining := by
    rw [c.read_snd]
    exact Cursor.remaining_advance (hr _)
  atToken := by
    intro wanted found position c' h
    obtain ⟨wanted', rest, hrest, rfl, he⟩ := Cursor.exists_of_read_eq_error h
    obtain ⟨rfl, hposition, hfound⟩ := Cursor.error_eq_unexpectedToken he.symm
    have hleft := hr c.remaining
    rw [hrest] at hleft
    have hstop : (c.advance rest).remaining = rest := Cursor.remaining_advance hleft
    refine ⟨hposition, hfound, ?_⟩
    rw [hstop]
    exact hj hrest
  atEnd := by
    intro wanted c' h
    obtain ⟨wanted', rest, hrest, rfl, he⟩ := Cursor.exists_of_read_eq_error h
    exact Cursor.error_eq_unexpectedEnd he.symm

/-- A cursor stays where it is if no statement starts there. -/
theorem Cursor.eq_of_read_none {c c' : Cursor} (h : c.read Reader.statement = (.ok none, c')) :
    c' = c := by
  obtain ⟨rest, hr, rfl⟩ := exists_of_read_eq_ok h
  rcases Reader.none_or_spells_of_statement
    (fun _ _ _ _ hs => Reader.spells_of_statements hs) hr with ⟨-, rfl⟩ | ⟨s, front, hs, -⟩
  · exact c.advance_remaining
  · cases hs

/-- A statement takes the cursor on, and not past the end. -/
theorem Cursor.position_of_read_some {c c' : Cursor} {s : Statement}
    (h : c.read Reader.statement = (.ok (some s), c')) :
    c.position < c'.position ∧ c'.position ≤ c.tokens.length := by
  obtain ⟨rest, hr, rfl⟩ := exists_of_read_eq_ok h
  rcases Reader.statementWith_eq_none_or Reader.statements_takesFront c.remaining with
    hnone | ⟨t, tail, hc, hleft⟩
  · have := hr.symm.trans hnone
    cases this
  · have hrest : Reader.left (Reader.statement c.remaining) = rest := by rw [hr]; rfl
    exact position_advance hc (hrest ▸ hleft)

/-- **A cursor is moved in good order**, wherever it stands, be it behind the last token.  Where no
statement starts it stays; a statement takes it on, and not past the end; no read takes it back; and
an error is about the token at the cursor, which is not the one that was wanted, or the cursor has
come to the end.  So the loop over statements ends: no call in it is deeper than there are tokens
left.  And this is how the cursor moves if it takes one token after the other, is set back where no
statement starts, and makes its errors where it stands. -/
theorem reads_are_orderly (c : Cursor) :
    (∀ c', c.read Reader.statement = (.ok none, c') → c' = c) ∧
      (∀ s c', c.read Reader.statement = (.ok (some s), c') →
        c.position < c'.position ∧ c'.position ≤ c.tokens.length) ∧
      (c.Orderly Reader.statement ∧ c.Orderly Reader.expression ∧ c.Orderly Reader.statements) ∧
      (∀ stuck depth, c.remaining.length < depth →
        c.read (Reader.unrolled stuck depth) = c.read Reader.statements) ∧
      c.run CursorReader.statement = c.read Reader.statement ∧
      c.run CursorReader.expression = c.read Reader.expression ∧
      c.run CursorReader.statements = c.read Reader.statements := by
  have hstatement : Reader.TakesFront Reader.statement :=
    Reader.statementWith_takesFront Reader.statements_takesFront
  refine ⟨fun _ => Cursor.eq_of_read_none, fun _ _ => Cursor.position_of_read_some,
    ⟨hstatement.orderly (Reader.statementWith_justified Reader.statements_justified) c,
      Reader.expression_takesFront.orderly Reader.expression_justified c,
      Reader.statements_takesFront.orderly Reader.statements_justified c⟩,
    fun stuck depth hdepth => ?_, CursorReader.statement_follows.run_eq_read c,
    CursorReader.expression_follows.run_eq_read c, CursorReader.statements_follows.run_eq_read c⟩
  unfold Cursor.read
  rw [Reader.unrolled_eq stuck hdepth]

/-- Behind the last token, in the middle of the tokens, at a statement that breaks off, at one that
the tokens end in, and at an identifier that no statement starts with. -/
theorem reads_are_orderly_anywhere :
    let c : Cursor := ⟨[.keyword .period, .identifier "甲", .keyword .increment, .keyword .period,
      .identifier "甲", .keyword .become, .keyword .openQuote, .keyword .period, .identifier "乙",
      .keyword .say], 1⟩
    (∃ c', (c.moveTo 11).read Reader.statement = (.ok none, c') ∧ c' = c.moveTo 11) ∧
      (c.read Reader.statement = (.ok (some (.increase "甲" .one)), c.moveTo 4) ∧ 1 < 4 ∧
        4 ≤ 10) ∧
      ((c.moveTo 4).read Reader.statement =
          (.error (.unexpectedToken (.kind .string) (.keyword .period) 7), c.moveTo 7) ∧
        c.tokens[7]? = some (.keyword .period)) ∧
      ((c.moveTo 9).read Reader.statement =
          (.error (.unexpectedEnd (.keyword .colon)), c.moveTo 10) ∧ c.tokens.length ≤ 10) ∧
      c.read (Reader.unrolled (fun _ => .ok [] []) 10) = c.read Reader.statements ∧
      (c.moveTo 4).run CursorReader.statement =
        (.error (.unexpectedToken (.kind .string) (.keyword .period) 7), c.moveTo 7) ∧
      (c.moveTo 8).run CursorReader.statement = (.ok none, c.moveTo 8) := by
  intro c
  have hnone : (c.moveTo 11).read Reader.statement = (.ok none, c.moveTo 11) := rfl
  have hsome : c.read Reader.statement = (.ok (some (.increase "甲" .one)), c.moveTo 4) := rfl
  have htoken : (c.moveTo 4).read Reader.statement =
      (.error (.unexpectedToken (.kind .string) (.keyword .period) 7), c.moveTo 7) := rfl
  have hend : (c.moveTo 9).read Reader.statement =
      (.error (.unexpectedEnd (.keyword .colon)), c.moveTo 10) := rfl
  have hback : (c.moveTo 8).read Reader.statement = (.ok none, c.moveTo 8) := rfl
  have hat := (reads_are_orderly (c.moveTo 4)).2.2.1.1.atToken htoken
  have hlast := (reads_are_orderly (c.moveTo 9)).2.2.1.1.atEnd hend
  exact ⟨⟨_, hnone, (reads_are_orderly (c.moveTo 11)).1 _ hnone⟩,
    ⟨hsome, (reads_are_orderly c).2.1 _ _ hsome⟩, ⟨htoken, hat.2.1⟩, ⟨hend, hlast⟩,
    (reads_are_orderly c).2.2.2.1 _ 10 (by decide),
    (reads_are_orderly (c.moveTo 4)).2.2.2.2.1.trans htoken,
    (reads_are_orderly (c.moveTo 8)).2.2.2.2.1.trans hback⟩

end Laoke
