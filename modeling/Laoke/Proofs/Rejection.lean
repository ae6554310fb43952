import Laoke.Proofs.Blocks

/-!
# Scripts that are turned down

A script is turned down because of an expression that cannot be read, and at no
other place.  The line is that of the first statement with such an expression,
which has nothing to do with the options of the script.

* `Program.byLine`: the statement that each line of a script stands for.
* `Statement.Readable`, `firstUnreadable?`: the first line that cannot be read.
* `expr_failsFor`, `expr_said_eq_error`, `loopHeader_eq_error`: what is wanted
  where an expression breaks off.
* `RejectsAt`, `Program.rejectsAt`: the rows of some statements are turned down at
  their first line that cannot be read, or not at all.
* `rejected_of_parse`: so is a whole script.
-/

namespace Laoke

open Script (AssignOp LineReader Line Wanted block bodyIndent?)
open Script.LineReader (expr sumWith atom signed chain chainFrom arguments argumentsFrom)

/-! ### Statements by line -/

/-- A statement whose own line can be read: its expressions have a meaning, but there may be nothing
to say, and the last number of a loop counts with one added. -/
def Statement.Readable : Statement → Prop
  | .say e => e = [] ∨ e.WellFormed
  | .declare _ => True
  | .assign _ e => e.WellFormed
  | .increase _ e => e.WellFormed
  | .decrease _ e => e.WellFormed
  | .loop _ a b _ => a.WellFormed ∧ b.plusOne.WellFormed

instance : (s : Statement) → Decidable s.Readable
  | .say e => inferInstanceAs (Decidable (e = [] ∨ e.WellFormed))
  | .declare _ => inferInstanceAs (Decidable True)
  | .assign _ e => inferInstanceAs (Decidable e.WellFormed)
  | .increase _ e => inferInstanceAs (Decidable e.WellFormed)
  | .decrease _ e => inferInstanceAs (Decidable e.WellFormed)
  | .loop _ a b _ => inferInstanceAs (Decidable (a.WellFormed ∧ b.plusOne.WellFormed))

mutual

/-- The statements that the lines of a statement stand for, itself first.  The line of an empty body
stands for none. -/
def Statement.byLine : Statement → List (Option Statement)
  | .loop x a b body =>
    some (.loop x a b body) :: (Program.byLine body ++ if body.isEmpty then [none] else [])
  | s => [some s]

/-- The statements that the lines of some statements stand for. -/
def Program.byLine : List Statement → List (Option Statement)
  | [] => []
  | s :: p => s.byLine ++ Program.byLine p

end

/-- The first of some lines whose statement cannot be read. -/
def firstUnreadable? (lines : List (Option Statement)) : Option Nat :=
  lines.findIdx? fun s? => s?.any fun s => !decide s.Readable

theorem firstUnreadable?_append (lines more : List (Option Statement)) :
    firstUnreadable? (lines ++ more) =
      (firstUnreadable? lines).or ((firstUnreadable? more).map (· + lines.length)) :=
  List.findIdx?_append

theorem firstUnreadable?_eq_none {lines : List (Option Statement)} :
    firstUnreadable? lines = none ↔ ∀ s, some s ∈ lines → s.Readable := by
  unfold firstUnreadable?
  rw [List.findIdx?_eq_none_iff]
  constructor
  · intro h s hs
    simpa using h (some s) hs
  · intro h s? hs
    cases s? with
    | none => rfl
    | some s => simpa using h s hs

/-- The statement of the first line that cannot be read. -/
theorem exists_of_firstUnreadable? {lines : List (Option Statement)} {i : Nat}
    (h : firstUnreadable? lines = some i) :
    ∃ s, lines[i]? = some (some s) ∧ ¬ s.Readable := by
  obtain ⟨hlt, hi, -⟩ := List.findIdx?_eq_some_iff_getElem.1 h
  cases hs : lines[i] with
  | none => simp [hs] at hi
  | some s => exact ⟨s, by rw [List.getElem?_eq_getElem hlt, hs], by simpa [hs] using hi⟩

mutual

theorem Statement.length_byLine (o : ScriptOptions) (name : String → String) (depth : Nat) :
    ∀ s : Statement, s.byLine.length = (s.rows o name depth).length
  | .say _ | .declare _ | .assign _ _ | .increase _ _ | .decrease _ _ => rfl
  | .loop x a b body => by
    have hbody := Program.length_byLine o name (depth + 1) body
    simp only [Statement.byLine, Statement.rows, List.length_cons, List.length_append, hbody]
    split <;> rfl

theorem Program.length_byLine (o : ScriptOptions) (name : String → String) (depth : Nat) :
    ∀ p : List Statement, (Program.byLine p).length = (Program.rows o name depth p).length
  | [] => rfl
  | s :: p => by
    rw [Program.byLine, Program.rows, List.length_append, List.length_append,
      Statement.length_byLine o name depth s, Program.length_byLine o name depth p]

end

/-! ### Readable statements and plans -/

theorem Expression.wellFormed_plusOne_iff {b : Expression} :
    b.plusOne.WellFormed ↔ ∃ bound, IsBound b bound := by
  constructor
  · rintro ⟨f, hf⟩
    obtain ⟨bound, hb, -⟩ := isSum_plusOne_iff.1 hf
    exact ⟨bound, hb⟩
  · rintro ⟨bound, hb⟩
    exact ⟨_, isSum_plusOne_iff.2 ⟨bound, hb, rfl⟩⟩

theorem readable_of_reads {s : Statement} {step : Plan} (h : Reads [s] [step]) : s.Readable := by
  cases h with
  | say he _ =>
    cases he with
    | nothing => exact .inl rfl
    | something he => exact .inr ⟨_, he⟩
  | declare _ => trivial
  | assign he _ | increase he _ | decrease he _ => exact ⟨_, he⟩
  | loop ha hb _ _ => exact ⟨⟨_, ha⟩, Expression.wellFormed_plusOne_iff.2 ⟨_, hb⟩⟩

/-- A statement that is one line can be read exactly if it is a step of a plan. -/
theorem readable_iff_exists_reads {s : Statement} (hs : ∀ x a b body, s ≠ .loop x a b body) :
    s.Readable ↔ ∃ step, Reads [s] [step] := by
  refine ⟨fun h => ?_, fun ⟨_, h⟩ => readable_of_reads h⟩
  cases s with
  | say e =>
    rcases h with rfl | ⟨f, hf⟩
    · exact ⟨_, .say .nothing .nil⟩
    · exact ⟨_, .say (.something hf) .nil⟩
  | declare x => exact ⟨_, .declare .nil⟩
  | assign x e => exact h.elim fun _ hf => ⟨_, .assign hf .nil⟩
  | increase x e => exact h.elim fun _ hf => ⟨_, .increase hf .nil⟩
  | decrease x e => exact h.elim fun _ hf => ⟨_, .decrease hf .nil⟩
  | loop x a b body => exact absurd rfl (hs x a b body)

/-- **Every line of a plan can be read.** -/
theorem Reads.readable {p : List Statement} {plan : List Plan} (h : Reads p plan) :
    ∀ s, some s ∈ Program.byLine p → s.Readable := by
  have one {s : Statement} {step : Plan} (h : Reads [s] [step]) {p : List Statement}
      (ih : ∀ t, some t ∈ Program.byLine p → t.Readable) :
      ∀ t, some t ∈ [some s] ++ Program.byLine p → t.Readable := by
    intro t ht
    rcases List.mem_append.1 ht with ht | ht
    · cases List.mem_singleton.1 ht
      exact readable_of_reads h
    · exact ih t ht
  induction h with
  | nil => intro s hs; simp [Program.byLine] at hs
  | say he _ ih => exact one (.say he .nil) ih
  | declare _ ih => exact one (.declare .nil) ih
  | assign he _ ih => exact one (.assign he .nil) ih
  | increase he _ ih => exact one (.increase he .nil) ih
  | decrease he _ ih => exact one (.decrease he .nil) ih
  | @loop x a b first bound body p inner plan ha hb hbody _ ihbody ih =>
    intro t ht
    rw [Program.byLine, Statement.byLine] at ht
    rcases List.mem_append.1 ht with ht | ht
    · rcases List.mem_cons.1 ht with ht | ht
      · cases ht
        exact readable_of_reads (.loop ha hb hbody .nil)
      · refine ihbody t ?_
        split at ht <;> simpa using ht
    · exact ih t ht

/-! ### Where expressions break off -/

namespace Script

/-- What can be wanted where an expression breaks off: an operand, or what follows the expression in
its line. -/
def Wanted.atExpression : List Wanted :=
  [.expression, .commaOrParen, .lineEnd, .mark ",", .mark ")"]

/-- The error of a line that cannot be read because of an expression. -/
def Error.AtExpression (line : Nat) (e : Error) : Prop :=
  ∃ wanted ∈ Wanted.atExpression, ∃ found, e = .ofSyntax line (.unexpectedToken wanted found)

namespace LineReader

/-- From tokens with a property, a reader fails only for want of a given thing. -/
def FailsFor (q : Token → Prop) (reader : LineReader Expr) (w : Wanted) : Prop :=
  ∀ ⦃tokens rest : List Token⦄ ⦃wanted : Wanted⦄, (∀ t ∈ tokens, q t) →
    reader tokens = .error wanted rest → wanted = w

theorem atom_failsFor (expr : LineReader Expr) :
    FailsFor Token.IsFlat (atom expr) .expression := by
  intro tokens rest wanted hq h
  unfold atom at h
  split at h
  · cases h
  · cases h
  · exact absurd rfl (hq _ List.mem_cons_self).1
  · split_ifs at h
    · cases h
      rfl
    · split at h
      · exact absurd rfl (hq .leftParen (by simp)).1
      · cases h
  · cases h
    rfl

variable {q : Token → Prop} {operand : LineReader Expr} {w : Wanted}
  {operator? : Token → Option BinaryOp} {shape : List Token → Expr → Prop}

theorem FailsFor.signed (h : FailsFor q operand w) : FailsFor q (LineReader.signed operand) w := by
  intro tokens
  induction tokens with
  | nil =>
    intro rest wanted hq he
    rw [signed_of_none (by simp)] at he
    exact h hq he
  | cons t tail ih =>
    intro rest wanted hq he
    cases ht : sign? t with
    | none =>
      rw [signed_of_none (by simpa using ht)] at he
      exact h hq he
    | some op =>
      rw [signed_of_some ht] at he
      split at he
      · cases he
      · rename_i htail
        cases he
        exact ih (List.forall_mem_cons.1 hq).2 htail

theorem FailsFor.chainFrom (h : FailsFor q operand w) (ht : Takes q operand shape)
    {tokens rest : List Token} {left : Expr} {wanted : Wanted} (hq : ∀ t ∈ tokens, q t)
    (he : chainFrom operator? operand left tokens = .error wanted rest) : wanted = w := by
  fun_induction LineReader.chainFrom operator? operand left tokens with
  | case1 => cases he
  | case2 => cases he
  | case3 left t tail op hop wanted' after hr =>
    cases he
    exact h (List.forall_mem_cons.1 hq).2 hr
  | case4 left t tail op hop right after hr hle ih =>
    have htail := (List.forall_mem_cons.1 hq).2
    obtain ⟨front, rfl, -⟩ := ht htail hr
    exact ih (List.forall_mem_append.1 htail).2 he
  | case5 => cases he

theorem FailsFor.chain (h : FailsFor q operand w) (ht : Takes q operand shape) :
    FailsFor q (LineReader.chain operator? operand) w := by
  intro tokens rest wanted hq he
  unfold LineReader.chain at he
  split at he
  · rename_i hr
    cases he
    exact h hq hr
  · rename_i left mid hleft
    obtain ⟨front, rfl, -⟩ := ht hq hleft
    exact h.chainFrom ht (List.forall_mem_append.1 hq).2 he

/-- **Without parentheses, an expression breaks off for want of an operand.** -/
theorem expr_failsFor : FailsFor Token.IsFlat expr .expression := by
  intro tokens rest wanted hq he
  rw [expr_eq_sumWith] at he
  have htakes := (atom_takes expr).signed
  exact ((atom_failsFor expr).signed.chain htakes).chain htakes.chain hq he

theorem expectToken_eq_error {t : Token} {text : String} {tokens rest : List Token}
    {wanted : Wanted} (h : expectToken t text tokens = .error wanted rest) : wanted = .mark text := by
  unfold expectToken at h
  split at h
  · split_ifs at h
    cases h
    rfl
  · cases h
    rfl

theorem lineEnd_eq_error {tokens rest : List Token} {wanted : Wanted}
    (h : lineEnd tokens = .error wanted rest) : wanted = .lineEnd := by
  unfold lineEnd at h
  split at h
  · cases h
  · cases h
    rfl

/-- **After its variable, an assignment breaks off where its value does.** -/
theorem simpleStatement_eq_error {x : String} (hx : isReserved x = false) (op : AssignOp)
    {tokens rest : List Token} {wanted : Wanted}
    (hexpr : ∀ {rest wanted}, expr tokens = .error wanted rest → wanted ∈ Wanted.atExpression)
    (h : simpleStatement (.name x :: op.token :: tokens) = .error wanted rest) :
    wanted ∈ Wanted.atExpression := by
  rw [simpleStatement_assign hx] at h
  rcases bind_eq_error.1 h with h | ⟨value, mid, -, h⟩
  · exact hexpr h
  rcases bind_eq_error.1 h with h | ⟨_, last, -, h⟩
  · rw [lineEnd_eq_error h]
    decide
  · cases h

end LineReader

theorem read_eq_error {α : Type} {line : Line} {reader : LineReader α} {e : Error} :
    line.read reader = .error e ↔ ∃ wanted rest, reader line.tokens = .error wanted rest ∧
      e = .ofSyntax line.number (.unexpectedToken wanted rest.head?) := by
  unfold Line.read
  cases h : reader line.tokens with
  | ok value rest => simp
  | error wanted rest => simp [eq_comm]

theorem block_simple_eq_error (line : Line) {rest : List Line} {e : Error}
    (hl : line.isLoop = false) (h : block line.indent (line :: rest) = .error e) :
    line.read LineReader.simpleStatement = .error e ∨
      (∃ s, line.read LineReader.simpleStatement = .ok s) ∧ block line.indent rest = .error e := by
  rw [block, if_neg (Nat.lt_irrefl _), if_neg (Nat.lt_irrefl _), if_neg (by simp [hl])] at h
  cases hs : line.read LineReader.simpleStatement with
  | error e' => simpa [hs] using h
  | ok s =>
    cases hm : block line.indent rest with
    | error e' => simpa [hs, hm] using h
    | ok r => simp [hs, hm] at h

/-- A loop is turned down at its header, in its body or after it. -/
theorem block_loop_eq_error (line : Line) {rest : List Line} {inner : Nat} {e : Error}
    (hl : line.isLoop = true) (hb : bodyIndent? line.indent rest = some inner)
    (h : block line.indent (line :: rest) = .error e) :
    line.read LineReader.loopHeader = .error e ∨
      (∃ r, line.read LineReader.loopHeader = .ok r) ∧ (block inner rest = .error e ∨
        ∃ body after, block inner rest = .ok (body, after) ∧
          (after.length ≤ rest.length → block line.indent after = .error e)) := by
  rw [block, if_neg (Nat.lt_irrefl _), if_neg (Nat.lt_irrefl _), if_pos hl] at h
  cases hs : line.read LineReader.loopHeader with
  | error e' => simpa [hs] using h
  | ok r =>
    simp only [hs, hb] at h
    cases hbody : block inner rest with
    | error e' => exact .inr ⟨⟨r, rfl⟩, .inl (by simpa [hbody] using h)⟩
    | ok s =>
      refine .inr ⟨⟨r, rfl⟩, .inr ⟨s.1, s.2, rfl, fun hle => ?_⟩⟩
      cases hm : block line.indent s.2 with
      | error e' => simpa [hbody, hle, hm] using h
      | ok t => simp [hbody, hle, hm] at h

theorem atExpression_of_read {α : Type} {line : Line} {reader : LineReader α} {e : Error}
    (hr : ∀ {wanted rest}, reader line.tokens = .error wanted rest → wanted ∈ Wanted.atExpression)
    (h : line.read reader = .error e) : e.AtExpression line.number := by
  obtain ⟨wanted, rest, hw, rfl⟩ := read_eq_error.1 h
  exact ⟨wanted, hr hw, _, rfl⟩

end Script

section

variable {o : ScriptOptions} {name : String → String}

theorem expr_inScript_eq_error (hn : Naming o name) {e : Expression}
    {tail rest : List Script.Token} {wanted : Wanted} (htail : ∀ t ∈ tail, t.IsFlat)
    (h : expr (e.inScript name ++ tail) = .error wanted rest) : wanted = .expression :=
  LineReader.expr_failsFor (List.forall_mem_append.2 ⟨hn.isFlat_inScript e, htail⟩) h

theorem expr_last_eq_error (hn : Naming o name) {e : Expression} {rest : List Script.Token}
    {wanted : Wanted} (h : expr (e.inScript name) = .error wanted rest) :
    wanted ∈ Wanted.atExpression := by
  rw [LineReader.expr_failsFor (hn.isFlat_inScript e) h]
  decide

/-- The one argument of what is said breaks off for want of an operand or of its end. -/
theorem arguments_eq_error (hn : Naming o name) {e : Expression} {tail rest : List Script.Token}
    {wanted : Wanted} (htail : ∀ t ∈ tail, t.IsFlat)
    (h : arguments expr (e.inScript name ++ .rightParen :: tail) = .error wanted rest) :
    wanted = .expression ∨ wanted = .commaOrParen := by
  have htail' : ∀ t ∈ Script.Token.rightParen :: tail, t.IsFlat :=
    List.forall_mem_cons.2 ⟨by simp [Script.Token.IsFlat], htail⟩
  unfold arguments at h
  split at h
  · cases h
  rw [argumentsFrom] at h
  split at h
  · rename_i hexpr
    cases h
    exact .inl (expr_inScript_eq_error hn htail' hexpr)
  · cases h
  · -- No expression of a program ends before a comma, as there is none after it.
    rename_i hexpr
    obtain ⟨hrest, -⟩ := isSum_of_expr hn (Script.closed_rightParen _) htail' hexpr
      (Script.closed_comma _)
    simp at hrest
  · cases h
    exact .inr rfl

/-- **What is said breaks off for want of an operand or of its end.** -/
theorem expr_said_eq_error (hn : Naming o name) {e : Expression} {rest : List Script.Token}
    {wanted : Wanted}
    (h : expr (.name "str" :: .leftParen :: (e.inScript name ++ [.rightParen, .plus, .str "\n"])) =
      .error wanted rest) :
    wanted = .expression ∨ wanted = .commaOrParen := by
  rw [expr_said hn e] at h
  split at h
  · cases h
  · rename_i hargs
    cases h
    exact arguments_eq_error hn (by simp [Script.Token.IsFlat]) hargs

/-- **The header of a loop breaks off in one of its bounds, or where that was to end.** -/
theorem loopHeader_eq_error (hn : Naming o name) {x : String} {a b : Expression}
    {rest : List Script.Token} {wanted : Wanted}
    (h : LineReader.loopHeader (headerTokens name x a b) = .error wanted rest) :
    wanted ∈ Wanted.atExpression := by
  have hmid := hn.isFlat_header b.plusOne
  have hend : ∀ t ∈ [Script.Token.rightParen, .colon], t.IsFlat := by simp [Script.Token.IsFlat]
  rw [loopHeader_headerTokens hn] at h
  rcases bind_eq_error.1 h with hbad | ⟨_, _, hfirst, hafter⟩
  · rw [expr_inScript_eq_error hn hmid hbad]
    decide
  rcases bind_eq_error.1 hafter with hbad | ⟨_, _, hcomma, hsecond⟩
  · rw [LineReader.expectToken_eq_error hbad]
    decide
  obtain rfl := LineReader.expectToken_eq_ok.1 hcomma
  obtain ⟨hrest, -⟩ := isSum_of_expr hn (Script.closed_comma _) hmid hfirst (Script.closed_comma _)
  obtain rfl := (List.cons.inj hrest).2
  rcases bind_eq_error.1 hsecond with hbad | ⟨_, _, hstop, hclose⟩
  · rw [expr_inScript_eq_error hn hend hbad]
    decide
  rcases bind_eq_error.1 hclose with hbad | ⟨_, _, hparen, hline⟩
  · rw [LineReader.expectToken_eq_error hbad]
    decide
  -- The colon and the end of the line come right after the parenthesis.
  obtain rfl := LineReader.expectToken_eq_ok.1 hparen
  obtain ⟨hrest, -⟩ := isSum_of_expr hn (Script.closed_rightParen _) hend hstop
    (Script.closed_rightParen _)
  obtain rfl := (List.cons.inj hrest).2
  cases hline

/-! ### The line that is turned down -/

/-- Lines from a given number on that are turned down at the first one that cannot be read. -/
def Rejected (n : Nat) (lines : List (Option Statement)) (e : Script.Error) : Prop :=
  ∃ i, firstUnreadable? lines = some i ∧ e.AtExpression (n + i)

theorem Rejected.append_left {n : Nat} {lines : List (Option Statement)} {e : Script.Error}
    (h : Rejected n lines e) (more : List (Option Statement)) : Rejected n (lines ++ more) e := by
  obtain ⟨i, hi, he⟩ := h
  exact ⟨i, by rw [firstUnreadable?_append, hi, Option.some_or], he⟩

theorem Rejected.append_right {n : Nat} {lines more : List (Option Statement)} {e : Script.Error}
    (hnone : firstUnreadable? lines = none) (h : Rejected (n + lines.length) more e) :
    Rejected n (lines ++ more) e := by
  obtain ⟨i, hi, he⟩ := h
  refine ⟨i + lines.length, by rw [firstUnreadable?_append, hnone, hi]; rfl, ?_⟩
  rwa [show n + (i + lines.length) = n + lines.length + i by omega]

theorem firstUnreadable?_singleton {s : Statement} :
    firstUnreadable? [some s] = if s.Readable then none else some 0 := by
  by_cases hs : s.Readable
  · simp [firstUnreadable?, hs]
  · simp [firstUnreadable?, hs]

/-- A line that is turned down, if it is read exactly when its statement can be. -/
theorem rejected_singleton {α : Type} {s : Statement} {line : Line} {reader : LineReader α}
    (hread : (∃ a, line.read reader = .ok a) ↔ s.Readable) {e : Script.Error}
    (he : line.read reader = .error e) (hat : e.AtExpression line.number) :
    Rejected line.number [some s] e := by
  have hs : ¬ s.Readable := by
    intro hs
    obtain ⟨a, ha⟩ := hread.2 hs
    rw [ha] at he
    cases he
  exact ⟨0, by rw [firstUnreadable?_singleton, if_neg hs], hat⟩

/-- Rows at some depth and the lines of their statements, where turning down the rows means turning
down the lines: the first of them that cannot be read, or the lines that follow. -/
def RejectsAt (k depth n : Nat) (rows : List Script.Row) (lines : List (Option Statement)) : Prop :=
  ∀ ⦃rest : List Line⦄ ⦃e : Script.Error⦄, Script.Shallow (depth * k) rest →
    block (depth * k) (Script.Row.numbered k n rows ++ rest) = .error e →
      Rejected n lines e ∨ firstUnreadable? lines = none ∧ block (depth * k) rest = .error e

variable {k : Nat}

theorem rejectsAt_row {s : Statement} {depth n : Nat} {tokens : List Script.Token}
    (hl : (⟨n, depth * k, tokens⟩ : Line).isLoop = false)
    (hs : ∀ x a b body, s ≠ .loop x a b body)
    (hread : ∀ t, (⟨n, depth * k, tokens⟩ : Line).read LineReader.simpleStatement = .ok t ↔
      ∃ step, Reads [s] [step] ∧ t = step.inScript o name)
    (hat : ∀ {wanted rest}, LineReader.simpleStatement tokens = .error wanted rest →
      wanted ∈ Wanted.atExpression) :
    RejectsAt k depth n [⟨depth, tokens⟩] [some s] := by
  intro rest e _ h
  have hreadable : (∃ t, (⟨n, depth * k, tokens⟩ : Line).read LineReader.simpleStatement = .ok t) ↔
      s.Readable := by
    rw [readable_iff_exists_reads hs]
    constructor
    · rintro ⟨t, ht⟩
      obtain ⟨step, hstep, -⟩ := (hread t).1 ht
      exact ⟨step, hstep⟩
    · rintro ⟨step, hstep⟩
      exact ⟨_, (hread _).2 ⟨step, hstep, rfl⟩⟩
  rcases Script.block_simple_eq_error ⟨n, depth * k, tokens⟩ hl h with herror | ⟨hok, hrest⟩
  · exact .inl (rejected_singleton hreadable herror (Script.atExpression_of_read hat herror))
  · exact .inr ⟨by rw [firstUnreadable?_singleton, if_pos (hreadable.1 hok)], hrest⟩

theorem RejectsAt.append {depth n : Nat} {rows more : List Script.Row}
    {lines others : List (Option Statement)} (h : RejectsAt k depth n rows lines)
    (hlength : lines.length = rows.length)
    (hshallow : ∀ {rest}, Script.Shallow (depth * k) rest →
      Script.Shallow (depth * k) (Script.Row.numbered k (n + rows.length) more ++ rest))
    (hmore : RejectsAt k depth (n + rows.length) more others) :
    RejectsAt k depth n (rows ++ more) (lines ++ others) := by
  intro rest e hrest hblock
  rw [Script.Row.numbered_append, List.append_assoc] at hblock
  rcases h (hshallow hrest) hblock with hrejected | ⟨hnone, hblock⟩
  · exact .inl (hrejected.append_left others)
  rcases hmore hrest hblock with hrejected | ⟨hnone', hblock⟩
  · rw [← hlength] at hrejected
    exact .inl (hrejected.append_right hnone)
  · exact .inr ⟨by rw [firstUnreadable?_append, hnone, hnone']; rfl, hblock⟩

/-- The body of a loop is turned down at its first line that cannot be read. -/
theorem rejected_of_bodyRows (hk : 0 < k) {depth n : Nat} {body : List Statement}
    {rest : List Line} {e : Script.Error} (hrest : Script.Shallow (depth * k) rest)
    (hbody : RejectsAt k (depth + 1) n (Program.rows o name (depth + 1) body) (Program.byLine body))
    (h : block ((depth + 1) * k)
      (Script.Row.numbered k n (bodyRows o name (depth + 1) body) ++ rest) = .error e) :
    Rejected n (Program.byLine body ++ if body.isEmpty then [none] else []) e := by
  have hlt : depth * k < (depth + 1) * k := by
    rw [Nat.succ_mul]
    omega
  have hend : block ((depth + 1) * k) rest = .ok ([], rest) := Script.block_of_shallow hlt hrest
  cases body with
  | nil =>
    have hpass : block ((depth + 1) * k)
        (Script.Row.numbered k n (bodyRows o name (depth + 1) []) ++ rest) = .ok ([.pass], rest) :=
      block_pass n hend
    rw [hpass] at h
    cases h
  | cons s body =>
    have hrows : bodyRows o name (depth + 1) (s :: body) =
        Program.rows o name (depth + 1) (s :: body) := List.append_nil _
    rw [hrows] at h
    rcases hbody (hrest.mono (Nat.le_of_lt hlt)) h with hrejected | ⟨-, hblock⟩
    · exact hrejected.append_left _
    · rw [hend] at hblock
      cases hblock

theorem read_loopHeader_iff (hn : Naming o name) (n indent : Nat) {x : String} {a b : Expression}
    {body : List Statement} :
    (∃ r, (⟨n, indent, headerTokens name x a b⟩ : Line).read LineReader.loopHeader = .ok r) ↔
      (Statement.loop x a b body).Readable := by
  constructor
  · rintro ⟨r, hr⟩
    obtain ⟨_, hr⟩ := Script.read_eq_ok.1 hr
    obtain ⟨-, first, bound, hfirst, hbound, -⟩ := (loopHeader_eq_ok_iff hn).1 hr
    exact ⟨⟨first, hfirst⟩, Expression.wellFormed_plusOne_iff.2 ⟨bound, hbound⟩⟩
  · rintro ⟨⟨first, hfirst⟩, hb⟩
    obtain ⟨bound, hbound⟩ := Expression.wellFormed_plusOne_iff.1 hb
    exact ⟨_, Script.read_eq_ok.2 ⟨[], (loopHeader_eq_ok_iff hn).2
      ⟨rfl, first, bound, hfirst, hbound, rfl⟩⟩⟩

mutual

/-- **The rows of a statement are turned down at its first line that cannot be read.** -/
theorem Statement.rejectsAt (ho : o.Valid) (hn : Naming o name) (hk : 0 < k) :
    ∀ (s : Statement) (depth n : Nat), RejectsAt k depth n (s.rows o name depth) s.byLine
  | .say e, depth, n =>
    rejectsAt_row (Script.isLoop_of_unreserved ho.unreserved _ _ _) (by simp)
      (read_said_iff ho hn n _ e)
      (LineReader.simpleStatement_eq_error ho.unreserved .add fun h => by
        rcases expr_said_eq_error hn h with rfl | rfl <;> decide)
  | .declare x, depth, n =>
    rejectsAt_row (Script.isLoop_of_unreserved (hn.unreserved x) _ _ _) (by simp)
      (read_declared_iff hn n _ x)
      (LineReader.simpleStatement_eq_error (hn.unreserved x) .set fun h => by
        rw [LineReader.expr_none] at h
        cases h)
  | .assign x e, depth, n =>
    rejectsAt_row (Script.isLoop_of_unreserved (hn.unreserved x) _ _ _) (by simp)
      (read_assigned_iff hn n _ x .set e reads_assign_iff)
      (LineReader.simpleStatement_eq_error (hn.unreserved x) .set (expr_last_eq_error hn))
  | .increase x e, depth, n =>
    rejectsAt_row (Script.isLoop_of_unreserved (hn.unreserved x) _ _ _) (by simp)
      (read_assigned_iff hn n _ x .add e reads_increase_iff)
      (LineReader.simpleStatement_eq_error (hn.unreserved x) .add (expr_last_eq_error hn))
  | .decrease x e, depth, n =>
    rejectsAt_row (Script.isLoop_of_unreserved (hn.unreserved x) _ _ _) (by simp)
      (read_assigned_iff hn n _ x .sub e reads_decrease_iff)
      (LineReader.simpleStatement_eq_error (hn.unreserved x) .sub (expr_last_eq_error hn))
  | .loop x a b body, depth, n => by
    intro rest e hrest h
    have hbody := Program.rejectsAt ho hn hk body (depth + 1) (n + 1)
    have hreadable := @read_loopHeader_iff _ _ hn n (depth * k) x a b body
    have hindent := @bodyIndent?_rows o name _ hk depth (n + 1) body rest
    rcases Script.block_loop_eq_error ⟨n, depth * k, headerTokens name x a b⟩ rfl hindent h with
      herror | ⟨hok, herror | ⟨inner, after, hinner, hafter⟩⟩
    · have hat := Script.atExpression_of_read (loopHeader_eq_error hn) herror
      exact .inl ((rejected_singleton hreadable herror hat).append_left _)
    · have hnone : firstUnreadable? [some (Statement.loop x a b body)] = none := by
        rw [firstUnreadable?_singleton, if_pos (hreadable.1 hok)]
      exact .inl ((rejected_of_bodyRows hk hrest hbody herror).append_right hnone)
    · -- A loop that is read is a step of a plan, and all of its lines can be read.
      obtain ⟨rfl, plan, hplan, -⟩ := (block_bodyRows_iff hk hrest
        (Program.block_rows_iff ho hn hk body (depth + 1) (n + 1)
          (hrest.mono (Nat.mul_le_mul_right k (Nat.le_succ depth))))).1 hinner
      obtain ⟨⟨first, hfirst⟩, hb⟩ := hreadable.1 hok
      obtain ⟨bound, hbound⟩ := Expression.wellFormed_plusOne_iff.1 hb
      have hreads : Reads [.loop x a b body] [.loop x first bound plan] :=
        .loop hfirst hbound hplan .nil
      refine .inr ⟨firstUnreadable?_eq_none.2 fun s hs => hreads.readable s ?_, hafter (by simp)⟩
      simpa [Program.byLine] using hs

/-- **The rows of some statements are turned down at their first line that cannot be read.** -/
theorem Program.rejectsAt (ho : o.Valid) (hn : Naming o name) (hk : 0 < k) :
    ∀ (p : List Statement) (depth n : Nat),
      RejectsAt k depth n (Program.rows o name depth p) (Program.byLine p)
  | [], _, _ => fun _ _ _ h => .inr ⟨rfl, h⟩
  | s :: p, depth, n =>
    (Statement.rejectsAt ho hn hk s depth n).append (s.length_byLine o name depth)
      (fun hrest => shallow_rows depth _ p hrest) (Program.rejectsAt ho hn hk p depth _)

end

end

/-- **A script that is turned down is turned down at its first line that cannot be read.** -/
theorem rejected_of_parse {o : ScriptOptions} (ho : o.Valid) {c : Compiled} (hc : c.Wellmade o)
    {e : Script.Error} (h : Script.parse c.code = .error e) :
    Rejected 2 (Program.byLine c.program) e := by
  have hopening := Script.isLoop_of_unreserved ho.unreserved 1 0 [.equal, .str ""]
  have hnil : block 0 [] = .ok ([], []) := by rw [block]
  have hrows := Program.rejectsAt ho (hc.naming ho) ho.indent_pos c.program 0 2
  rw [hc.parse_code ho] at h
  cases hblock : block 0 (⟨1, 0, [.name o.accumulator, .equal, .str ""]⟩ :: Script.Row.numbered
      o.indent.length 2 (Program.rows o c.table.nameOf 0 c.program)) with
  | ok r => simp [hblock, Except.map] at h
  | error e' =>
    rw [hblock] at h
    cases h
    rcases Script.block_simple_eq_error ⟨1, 0, _⟩ hopening hblock with herror | ⟨-, hrest⟩
    · rw [(read_opening_iff ho 1 0 _).2 rfl] at herror
      cases herror
    · have hrows := @hrows [] e (by simp [Script.Shallow])
      rw [Nat.zero_mul, List.append_nil, hnil] at hrows
      exact (hrows hrest).resolve_right fun h => by cases h.2

end Laoke
