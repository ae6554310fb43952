import Laoke.Proofs.Reading

/-!
# Blocks read back from a script

The rows of a program are read back as the plan that the program is, and they
are read at all only if it is one.

* `loopHeader_eq_ok_iff`, `expr_said_eq_ok_iff`: one line at a time.
* `Program.block_rows_iff`: the rows of some statements, whatever lines follow
  that are not deeper.
* `parse_code_iff`: a whole script.
-/

namespace Laoke

open Script (AssignOp LineReader Line Closed block bodyIndent?)
open Script.LineReader (expr sumWith atom signed chain chainFrom arguments argumentsFrom)

/-! ### Plans in a script -/

mutual

/-- The statement of a script that a step of a plan is. -/
def Plan.inScript (o : ScriptOptions) (name : String → String) : Plan → Script.Statement
  | .say value =>
    .assign o.accumulator .add
      (.binary .add (.call "str" (value.map (Formula.inScript name)).toList) (.str "\n"))
  | .declare x => .assign (name x) .set .none
  | .assign x op f => .assign (name x) op (f.inScript name)
  | .loop x first bound body =>
    .forRange (name x) (first.inScript name) (bound.formula.inScript name)
      (Plan.allInScript o name body ++ if body.isEmpty then [.pass] else [])

/-- The statements of a script that a plan is. -/
def Plan.allInScript (o : ScriptOptions) (name : String → String) :
    List Plan → List Script.Statement
  | [] => []
  | step :: plan => step.inScript o name :: Plan.allInScript o name plan

end

namespace Script.LineReader

/-! ### Single tokens -/

theorem expectWord_eq_ok {word : String} {tokens rest : List Token} :
    expectWord word tokens = .ok () rest ↔ tokens = .name word :: rest := by
  cases tokens with
  | nil => simp [expectWord]
  | cons v tail =>
    by_cases hv : v = .name word
    · simp [expectWord, hv]
    · simp [expectWord, hv]

theorem lineEnd_eq_ok {tokens rest : List Token} :
    lineEnd tokens = .ok () rest ↔ tokens = [] ∧ rest = [] := by
  cases tokens with
  | nil => simp [lineEnd, eq_comm]
  | cons t tail => simp [lineEnd]

theorem identifier_of_unreserved {x : String} (hx : isReserved x = false) (rest : List Token) :
    identifier (.name x :: rest) = .ok x rest := by
  simp [identifier, hx]

/-! ### Operands at the front of a sum -/

theorem sumWith_of_atom {inner : LineReader Expr} {tokens rest : List Token} {e : Expr}
    (hsign : ∀ t ∈ tokens.head?, sign? t = none) (h : atom inner tokens = .ok e rest)
    (hrest : ∀ t ∈ rest.head?, factorOperator? t = none) :
    sumWith inner tokens =
      chainFrom termOperator? (chain factorOperator? (signed (atom inner))) e rest := by
  have hproduct : chain factorOperator? (signed (atom inner)) tokens = .ok e rest := by
    unfold chain
    rw [signed_of_none hsign, h]
    exact chainFrom_of_none hrest
  unfold sumWith
  rw [chain, hproduct]

theorem sumWith_of_atom_error {inner : LineReader Expr} {tokens rest : List Token} {w : Wanted}
    (hsign : ∀ t ∈ tokens.head?, sign? t = none) (h : atom inner tokens = .error w rest) :
    sumWith inner tokens = .error w rest := by
  have hproduct : chain factorOperator? (signed (atom inner)) tokens = .error w rest := by
    unfold chain
    rw [signed_of_none hsign, h]
  unfold sumWith
  rw [chain, hproduct]

/-- The word for nothing is an expression. -/
theorem expr_none : expr [.name "None"] = .ok .none [] := by
  rw [expr_eq_sumWith]
  exact (sumWith_of_atom (by simp [sign?]) rfl (by simp)).trans (chainFrom_of_none (by simp))

theorem product_text (inner : LineReader Expr) (s : String) :
    chain factorOperator? (signed (atom inner)) [.str s] = .ok (.str s) [] := by
  have hatom : atom inner [.str s] = .ok (.str s) [] := by simp [atom, joinedStrings]
  unfold chain
  rw [signed_of_none (by simp [sign?]), hatom]
  exact chainFrom_of_none (by simp)

/-! ### Calls -/

theorem atom_call (inner : LineReader Expr) (tokens : List Token) :
    atom inner (.name "str" :: .leftParen :: tokens) =
      match arguments inner tokens with
      | .ok args rest => .ok (.call "str" args) rest
      | .error w rest => .error w rest := by
  have hcall : atom inner (.name "str" :: .leftParen :: tokens) =
      (do return .call "str" (← arguments inner) : LineReader Expr) tokens := rfl
  rw [hcall]
  cases h : arguments inner tokens with
  | ok args rest => exact bind_of_ok h
  | error w rest => exact bind_of_error h

end Script.LineReader

/-! ### One line -/

section

variable {o : ScriptOptions} {name : String → String}

theorem IsSum.ne_nil {e : Expression} {f : Formula} (h : IsSum e f) : e ≠ [] := by
  have hfactor : ∀ {e f}, IsFactor e f → e ≠ [] := by
    intro e f h
    cases h with
    | bare h => cases h <;> simp
    | sign _ _ => simp
  have hterm : ∀ {e f}, IsTerm e f → e ≠ [] := by
    intro e f h
    cases h with
    | one h => exact hfactor h
    | more _ _ _ => simp
  cases h with
  | one h => exact hterm h
  | more _ _ _ => simp

/-- The arguments between the parentheses of what is said. -/
theorem arguments_eq_ok_iff (hn : Naming o name) (e : Expression) (tail : List Script.Token)
    (hflat : ∀ t ∈ tail, t.IsFlat) {args : List Script.Expr} {rest : List Script.Token} :
    arguments expr (e.inScript name ++ .rightParen :: tail) = .ok args rest ↔
      rest = tail ∧ ∃ value, IsSaid e value ∧ args = (value.map (Formula.inScript name)).toList := by
  have hclosed : Closed (.rightParen :: tail) := Script.closed_rightParen tail
  have hflat' : ∀ t ∈ Script.Token.rightParen :: tail, t.IsFlat :=
    List.forall_mem_cons.2 ⟨by simp [Script.Token.IsFlat], hflat⟩
  cases e with
  | nil =>
    constructor
    · intro h
      cases h
      exact ⟨rfl, none, .nothing, rfl⟩
    · rintro ⟨rfl, value, hv, rfl⟩
      cases hv with
      | nothing => rfl
      | something h => exact absurd rfl h.ne_nil
  | cons t e =>
    have hfrom : arguments expr (Expression.inScript name (t :: e) ++ .rightParen :: tail) =
        argumentsFrom expr (Expression.inScript name (t :: e) ++ .rightParen :: tail) := by
      have hhead : ¬ (t.inScript name).IsCloser :=
        not_isCloser_inScript (t :: e) _ List.mem_cons_self
      change arguments expr (t.inScript name :: _) = argumentsFrom expr (t.inScript name :: _)
      unfold arguments
      split
      · rename_i h
        exact absurd (.inl (List.cons.inj h).1) hhead
      · rfl
    rw [hfrom, argumentsFrom]
    constructor
    · intro h
      split at h
      · simp at h
      · rename_i a after hexpr
        obtain ⟨hafter, f, hf, rfl⟩ := isSum_of_expr hn hclosed hflat' hexpr
          (Script.closed_rightParen _)
        cases h
        exact ⟨(List.cons.inj hafter).2, some f, .something hf, rfl⟩
      · rename_i a after hexpr
        obtain ⟨hafter, -⟩ := isSum_of_expr hn hclosed hflat' hexpr (Script.closed_comma _)
        simp at hafter
      · simp at h
    · rintro ⟨rfl, value, hv, rfl⟩
      cases hv with
      | something hf => rw [expr_of_isSum hn hf hclosed]; rfl

/-- What is said is read as a call, then as its end of line. -/
theorem expr_said (hn : Naming o name) (e : Expression) :
    expr (.name "str" :: .leftParen :: (e.inScript name ++ [.rightParen, .plus, .str "\n"])) =
      match arguments expr (e.inScript name ++ [.rightParen, .plus, .str "\n"]) with
      | .ok args _ => .ok (.binary .add (.call "str" args) (.str "\n")) []
      | .error w after => .error w after := by
  have hatom := Script.LineReader.atom_call expr
    (e.inScript name ++ [.rightParen, .plus, .str "\n"])
  rw [Script.LineReader.expr_eq_sumWith]
  cases ha : arguments expr (e.inScript name ++ [.rightParen, .plus, .str "\n"]) with
  | error w after =>
    rw [ha] at hatom
    exact Script.LineReader.sumWith_of_atom_error (by simp [Script.LineReader.sign?]) hatom
  | ok args after =>
    obtain ⟨rfl, -⟩ := (arguments_eq_ok_iff hn e _ (by simp [Script.Token.IsFlat])).1 ha
    rw [ha] at hatom
    rw [Script.LineReader.sumWith_of_atom (by simp [Script.LineReader.sign?]) hatom
        (by simp [Script.LineReader.factorOperator?]),
      Script.LineReader.chainFrom_of_some rfl (Script.LineReader.product_text expr "\n") (by simp),
      Script.LineReader.chainFrom_of_none (by simp)]

/-- What is read between the accumulator and the end of its line. -/
theorem expr_said_eq_ok_iff (hn : Naming o name) {e : Expression} {t : Script.Expr}
    {rest : List Script.Token} :
    expr (.name "str" :: .leftParen :: (e.inScript name ++ [.rightParen, .plus, .str "\n"])) =
        .ok t rest ↔
      rest = [] ∧ ∃ value, IsSaid e value ∧
        t = .binary .add (.call "str" (value.map (Formula.inScript name)).toList) (.str "\n") := by
  have hargs := @arguments_eq_ok_iff _ _ hn e [.plus, .str "\n"] (by simp [Script.Token.IsFlat])
  rw [expr_said hn e]
  constructor
  · intro h
    split at h
    · rename_i args after ha
      obtain ⟨-, value, hv, rfl⟩ := hargs.1 ha
      cases h
      exact ⟨rfl, value, hv, rfl⟩
    · cases h
  · rintro ⟨rfl, value, hv, rfl⟩
    rw [hargs.2 ⟨rfl, value, hv, rfl⟩]

/-- The mark of an assignment. -/
def Script.AssignOp.token : AssignOp → Script.Token
  | .set => .equal
  | .add => .plusEqual
  | .sub => .minusEqual

/-- After its variable and its mark, an assignment is its value. -/
theorem simpleStatement_assign {x : String} (hx : Script.isReserved x = false) (op : AssignOp)
    (tokens : List Script.Token) :
    LineReader.simpleStatement (.name x :: op.token :: tokens) =
      (do
        let value ← expr
        LineReader.lineEnd
        return .assign x op value : LineReader Script.Statement) tokens := by
  have hpass : x ≠ "pass" := by
    rintro rfl
    exact absurd hx (by decide)
  have hread : LineReader.simpleStatement (.name x :: op.token :: tokens) =
      (do
        let name ← LineReader.identifier
        let op ← LineReader.assignOperator
        let value ← expr
        LineReader.lineEnd
        return .assign name op value : LineReader Script.Statement)
        (.name x :: op.token :: tokens) := by
    unfold LineReader.simpleStatement
    split
    · rename_i h
      exact absurd (Script.Token.name.inj (List.cons.inj h).1) hpass
    · rfl
  have hop : LineReader.assignOperator (op.token :: tokens) = .ok op tokens := by
    cases op <;> rfl
  rw [hread, bind_of_ok (LineReader.identifier_of_unreserved hx _), bind_of_ok hop]

/-- An assignment is read when its value is, up to the end of the line. -/
theorem simpleStatement_eq_ok_iff {x : String} (hx : Script.isReserved x = false) (op : AssignOp)
    {tokens rest : List Script.Token} {s : Script.Statement} :
    LineReader.simpleStatement (.name x :: op.token :: tokens) = .ok s rest ↔
      rest = [] ∧ ∃ e, expr tokens = .ok e [] ∧ s = .assign x op e := by
  rw [simpleStatement_assign hx]
  constructor
  · intro h
    obtain ⟨e, mid, he, h⟩ := bind_eq_ok.1 h
    obtain ⟨_, last, hl, h⟩ := bind_eq_ok.1 h
    obtain ⟨rfl, rfl⟩ := LineReader.lineEnd_eq_ok.1 hl
    obtain ⟨rfl, rfl⟩ := pure_eq_ok.1 h
    exact ⟨rfl, e, he, rfl⟩
  · rintro ⟨rfl, e, he, rfl⟩
    rw [bind_of_ok he]
    rfl

/-- The tokens of the header of a loop. -/
def headerTokens (name : String → String) (x : String) (a b : Expression) : List Script.Token :=
  .name "for" :: .name (name x) :: .name "in" :: .name "range" :: .leftParen ::
    (a.inScript name ++ .comma :: (b.inScript name ++ [.plus, .int 1, .rightParen, .colon]))

theorem inScript_plusOne (name : String → String) (b : Expression) (rest : List Script.Token) :
    b.inScript name ++ .plus :: .int 1 :: rest = b.plusOne.inScript name ++ rest := by
  simp [Expression.plusOne, Expression.inScript, Token.inScript, Keyword.inScript]

/-- The tokens after the first bound of a loop open no parenthesis. -/
theorem Naming.isFlat_header (hn : Naming o name) (b : Expression) :
    ∀ t ∈ Script.Token.comma :: (b.inScript name ++ [.rightParen, .colon]), t.IsFlat := by
  have hend : ∀ t ∈ [Script.Token.rightParen, .colon], t.IsFlat := by simp [Script.Token.IsFlat]
  exact List.forall_mem_cons.2 ⟨by simp [Script.Token.IsFlat],
    List.forall_mem_append.2 ⟨hn.isFlat_inScript _, hend⟩⟩

/-- After its counter, the header of a loop is its bounds. -/
theorem loopHeader_headerTokens (hn : Naming o name) (x : String) (a b : Expression) :
    LineReader.loopHeader (headerTokens name x a b) =
      (do
        let start ← expr
        LineReader.expectToken .comma ","
        let stop ← expr
        LineReader.expectToken .rightParen ")"
        LineReader.expectToken .colon ":"
        LineReader.lineEnd
        return (name x, start, stop) : LineReader (String × Script.Expr × Script.Expr))
        (a.inScript name ++ .comma :: (b.plusOne.inScript name ++ [.rightParen, .colon])) := by
  rw [headerTokens, inScript_plusOne]
  unfold LineReader.loopHeader
  rw [bind_of_ok (LineReader.expectWord_eq_ok.2 rfl),
    bind_of_ok (LineReader.identifier_of_unreserved (hn.unreserved x) _),
    bind_of_ok (LineReader.expectWord_eq_ok.2 rfl), bind_of_ok (LineReader.expectWord_eq_ok.2 rfl),
    bind_of_ok (LineReader.expectToken_eq_ok.2 rfl)]

/-- **The header of a loop is read exactly if its bounds have a meaning.** -/
theorem loopHeader_eq_ok_iff (hn : Naming o name) {x : String} {a b : Expression}
    {r : String × Script.Expr × Script.Expr} {rest : List Script.Token} :
    LineReader.loopHeader (headerTokens name x a b) = .ok r rest ↔
      rest = [] ∧ ∃ first bound, IsSum a first ∧ IsBound b bound ∧
        r = (name x, first.inScript name, bound.formula.inScript name) := by
  have hmid := hn.isFlat_header b.plusOne
  have hend : ∀ t ∈ [Script.Token.rightParen, .colon], t.IsFlat := by simp [Script.Token.IsFlat]
  rw [loopHeader_headerTokens hn]
  constructor
  · intro h
    obtain ⟨first, _, hfirst, h⟩ := bind_eq_ok.1 h
    obtain ⟨_, _, hcomma, h⟩ := bind_eq_ok.1 h
    obtain ⟨stop, _, hstop, h⟩ := bind_eq_ok.1 h
    obtain ⟨_, _, hparen, h⟩ := bind_eq_ok.1 h
    obtain ⟨_, _, hcolon, h⟩ := bind_eq_ok.1 h
    obtain ⟨_, _, hline, h⟩ := bind_eq_ok.1 h
    obtain ⟨rfl, rfl⟩ := pure_eq_ok.1 h
    obtain ⟨rfl, rfl⟩ := LineReader.lineEnd_eq_ok.1 hline
    obtain rfl := LineReader.expectToken_eq_ok.1 hcomma
    obtain rfl := LineReader.expectToken_eq_ok.1 hparen
    obtain ⟨hrest, f, hf, rfl⟩ := isSum_of_expr hn (Script.closed_comma _) hmid hfirst
      (Script.closed_comma _)
    obtain rfl := (List.cons.inj hrest).2
    obtain ⟨-, g, hg, rfl⟩ := isSum_of_expr hn (Script.closed_rightParen _) hend hstop
      (Script.closed_rightParen _)
    obtain ⟨bound, hb, rfl⟩ := isSum_plusOne_iff.1 hg
    exact ⟨rfl, f, bound, hf, hb, rfl⟩
  · rintro ⟨rfl, first, bound, hfirst, hbound, rfl⟩
    have hstop := isSum_plusOne_iff.2 ⟨bound, hbound, rfl⟩
    rw [bind_of_ok (expr_of_isSum hn hfirst (Script.closed_comma _)),
      bind_of_ok (LineReader.expectToken_eq_ok.2 rfl),
      bind_of_ok (expr_of_isSum hn hstop (Script.closed_rightParen _))]
    rfl

end

/-! ### Blocks -/

namespace Script

/-- Rows as the lines of a script, from a given number on, with `k` blanks for each depth. -/
def Row.numbered (k : Nat) : Nat → List Row → List Line
  | _, [] => []
  | n, row :: rows => ⟨n, row.depth * k, row.tokens⟩ :: Row.numbered k (n + 1) rows

theorem Row.numbered_append (k n : Nat) (rows more : List Row) :
    Row.numbered k n (rows ++ more) =
      Row.numbered k n rows ++ Row.numbered k (n + rows.length) more := by
  induction rows generalizing n with
  | nil => simp [Row.numbered]
  | cons row rows ih =>
    rw [List.cons_append, Row.numbered, Row.numbered, ih, List.cons_append, List.length_cons,
      show n + (rows.length + 1) = n + 1 + rows.length by omega]

/-- Lines that do not start deeper than `indent`. -/
def Shallow (indent : Nat) (lines : List Line) : Prop :=
  ∀ line ∈ lines.head?, line.indent ≤ indent

theorem read_eq_ok {α : Type} {line : Line} {reader : LineReader α} {a : α} :
    line.read reader = .ok a ↔ ∃ rest, reader line.tokens = .ok a rest := by
  unfold Line.read
  cases h : reader line.tokens with
  | ok b rest => simp
  | error w rest => simp

/-- A block ends before a line that is not as deep. -/
theorem block_of_shallow {indent inner : Nat} (h : indent < inner) {lines : List Line}
    (hl : Shallow indent lines) : block inner lines = .ok ([], lines) := by
  cases lines with
  | nil => rw [block]
  | cons line lines => rw [block, if_pos (Nat.lt_of_le_of_lt (hl line rfl) h)]

theorem block_simple (line : Line) {rest last : List Line} {ss : List Statement}
    (hl : line.isLoop = false) :
    block line.indent (line :: rest) = .ok (ss, last) ↔
      ∃ s more, line.read LineReader.simpleStatement = .ok s ∧
        block line.indent rest = .ok (more, last) ∧ ss = s :: more := by
  rw [block, if_neg (Nat.lt_irrefl _), if_neg (Nat.lt_irrefl _), if_neg (by simp [hl])]
  cases hs : line.read LineReader.simpleStatement with
  | error e => simp
  | ok s =>
    cases hm : block line.indent rest with
    | error e => simp
    | ok r => simp [eq_comm, and_comm, Prod.ext_iff]

/-- A loop takes the deeper lines after it, if its body ends where they do. -/
theorem block_loop (line : Line) {rest after : List Line} {inner : Nat} {body : List Statement}
    (hl : line.isLoop = true) (hb : bodyIndent? line.indent rest = some inner)
    (hbody : block inner rest = .ok (body, after)) (hle : after.length ≤ rest.length)
    {last : List Line} {ss : List Statement} :
    block line.indent (line :: rest) = .ok (ss, last) ↔
      ∃ x a b more, line.read LineReader.loopHeader = .ok (x, a, b) ∧
        block line.indent after = .ok (more, last) ∧ ss = .forRange x a b body :: more := by
  rw [block, if_neg (Nat.lt_irrefl _), if_neg (Nat.lt_irrefl _), if_pos hl]
  cases hs : line.read LineReader.loopHeader with
  | error e => simp
  | ok r =>
    simp only [hb, hbody, hle, ↓reduceIte]
    cases hm : block line.indent after with
    | error e => simp
    | ok r => simp [eq_comm, and_comm, Prod.ext_iff]

theorem block_loop_body (line : Line) {rest last : List Line} {inner : Nat} {ss : List Statement}
    (hl : line.isLoop = true) (hb : bodyIndent? line.indent rest = some inner)
    (h : block line.indent (line :: rest) = .ok (ss, last)) :
    ∃ body after, block inner rest = .ok (body, after) := by
  rw [block, if_neg (Nat.lt_irrefl _), if_neg (Nat.lt_irrefl _), if_pos hl] at h
  cases hs : line.read LineReader.loopHeader with
  | error e => simp [hs] at h
  | ok r =>
    simp only [hs, hb] at h
    cases hbody : block inner rest with
    | error e => simp [hbody] at h
    | ok r => exact ⟨r.1, r.2, rfl⟩

theorem isLoop_of_unreserved {x : String} (hx : isReserved x = false) (n indent : Nat)
    (tokens : List Token) : (⟨n, indent, .name x :: tokens⟩ : Line).isLoop = false := by
  have hfor : x ≠ "for" := by
    rintro rfl
    exact absurd hx (by decide)
  simp [Line.isLoop, hfor]

theorem read_assign_iff {x : String} (hx : isReserved x = false) (op : AssignOp) (n indent : Nat)
    {tokens : List Token} {s : Statement} :
    (⟨n, indent, .name x :: op.token :: tokens⟩ : Line).read LineReader.simpleStatement = .ok s ↔
      ∃ e, expr tokens = .ok e [] ∧ s = .assign x op e := by
  rw [read_eq_ok]
  constructor
  · rintro ⟨rest, h⟩
    exact ((simpleStatement_eq_ok_iff hx op).1 h).2
  · intro h
    exact ⟨[], (simpleStatement_eq_ok_iff hx op).2 ⟨rfl, h⟩⟩

end Script

theorem reads_cons_iff {s : Statement} {p : List Statement} {plan : List Plan} :
    Reads (s :: p) plan ↔
      ∃ step more, Reads [s] [step] ∧ Reads p more ∧ plan = step :: more := by
  constructor
  · intro h
    cases h with
    | say he hp => exact ⟨_, _, .say he .nil, hp, rfl⟩
    | declare hp => exact ⟨_, _, .declare .nil, hp, rfl⟩
    | assign he hp => exact ⟨_, _, .assign he .nil, hp, rfl⟩
    | increase he hp => exact ⟨_, _, .increase he .nil, hp, rfl⟩
    | decrease he hp => exact ⟨_, _, .decrease he .nil, hp, rfl⟩
    | loop ha hb hbody hp => exact ⟨_, _, .loop ha hb hbody .nil, hp, rfl⟩
  · rintro ⟨step, more, hs, hp, rfl⟩
    cases hs with
    | say he _ => exact .say he hp
    | declare _ => exact .declare hp
    | assign he _ => exact .assign he hp
    | increase he _ => exact .increase he hp
    | decrease he _ => exact .decrease he hp
    | loop ha hb hbody _ => exact .loop ha hb hbody hp

section

variable {o : ScriptOptions} {name : String → String} {k : Nat}

/-- A row that is one line is read as its statement. -/
theorem block_row_iff {s : Statement} (line : Line) {rest last : List Line}
    {ss : List Script.Statement} (hl : line.isLoop = false)
    (h : ∀ t, line.read LineReader.simpleStatement = .ok t ↔
      ∃ step, Reads [s] [step] ∧ t = step.inScript o name) :
    block line.indent (line :: rest) = .ok (ss, last) ↔
      ∃ step more, Reads [s] [step] ∧ block line.indent rest = .ok (more, last) ∧
        ss = step.inScript o name :: more := by
  rw [Script.block_simple line hl]
  constructor
  · rintro ⟨t, more, ht, hm, rfl⟩
    obtain ⟨step, hs, rfl⟩ := (h t).1 ht
    exact ⟨step, more, hs, hm, rfl⟩
  · rintro ⟨step, more, hs, hm, rfl⟩
    exact ⟨_, more, (h _).2 ⟨step, hs, rfl⟩, hm, rfl⟩

theorem read_said_iff (ho : o.Valid) (hn : Naming o name) (n indent : Nat) (e : Expression)
    (t : Script.Statement) :
    (⟨n, indent, .name o.accumulator :: .plusEqual :: .name "str" :: .leftParen ::
        (e.inScript name ++ [.rightParen, .plus, .str "\n"])⟩ : Line).read
          LineReader.simpleStatement = .ok t ↔
      ∃ step, Reads [.say e] [step] ∧ t = step.inScript o name := by
  refine (Script.read_assign_iff ho.unreserved .add n indent).trans ?_
  constructor
  · rintro ⟨v, hv, rfl⟩
    obtain ⟨-, value, hvalue, rfl⟩ := (expr_said_eq_ok_iff hn).1 hv
    exact ⟨_, .say hvalue .nil, rfl⟩
  · rintro ⟨step, hs, rfl⟩
    cases hs with
    | say hvalue _ => exact ⟨_, (expr_said_eq_ok_iff hn).2 ⟨rfl, _, hvalue, rfl⟩, rfl⟩

theorem read_declared_iff (hn : Naming o name) (n indent : Nat) (x : String)
    (t : Script.Statement) :
    (⟨n, indent, [.name (name x), .equal, .name "None"]⟩ : Line).read
        LineReader.simpleStatement = .ok t ↔
      ∃ step, Reads [.declare x] [step] ∧ t = step.inScript o name := by
  refine (Script.read_assign_iff (hn.unreserved x) .set n indent).trans ?_
  rw [LineReader.expr_none]
  constructor
  · rintro ⟨v, hv, rfl⟩
    cases hv
    exact ⟨_, .declare .nil, rfl⟩
  · rintro ⟨step, hs, rfl⟩
    cases hs with
    | declare _ => exact ⟨_, rfl, rfl⟩

theorem read_assigned_iff (hn : Naming o name) (n indent : Nat) (x : String) (op : AssignOp)
    (e : Expression) {s : Statement}
    (hs : ∀ step, Reads [s] [step] ↔ ∃ f, IsSum e f ∧ step = .assign x op f)
    (t : Script.Statement) :
    (⟨n, indent, .name (name x) :: op.token :: e.inScript name⟩ : Line).read
        LineReader.simpleStatement = .ok t ↔
      ∃ step, Reads [s] [step] ∧ t = step.inScript o name := by
  refine (Script.read_assign_iff (hn.unreserved x) op n indent).trans ?_
  constructor
  · rintro ⟨v, hv, rfl⟩
    obtain ⟨f, hf, rfl⟩ := (expr_last_eq_ok_iff hn).1 hv
    exact ⟨_, (hs _).2 ⟨f, hf, rfl⟩, rfl⟩
  · rintro ⟨step, hstep, rfl⟩
    obtain ⟨f, hf, rfl⟩ := (hs step).1 hstep
    exact ⟨_, (expr_last_eq_ok_iff hn).2 ⟨f, hf, rfl⟩, rfl⟩

theorem reads_assign_iff {x : String} {e : Expression} (step : Plan) :
    Reads [.assign x e] [step] ↔ ∃ f, IsSum e f ∧ step = .assign x .set f := by
  constructor
  · intro h
    cases h with
    | assign he _ => exact ⟨_, he, rfl⟩
  · rintro ⟨f, hf, rfl⟩
    exact .assign hf .nil

theorem reads_increase_iff {x : String} {e : Expression} (step : Plan) :
    Reads [.increase x e] [step] ↔ ∃ f, IsSum e f ∧ step = .assign x .add f := by
  constructor
  · intro h
    cases h with
    | increase he _ => exact ⟨_, he, rfl⟩
  · rintro ⟨f, hf, rfl⟩
    exact .increase hf .nil

theorem reads_decrease_iff {x : String} {e : Expression} (step : Plan) :
    Reads [.decrease x e] [step] ↔ ∃ f, IsSum e f ∧ step = .assign x .sub f := by
  constructor
  · intro h
    cases h with
    | decrease he _ => exact ⟨_, he, rfl⟩
  · rintro ⟨f, hf, rfl⟩
    exact .decrease hf .nil

theorem head_depth_rows (o : ScriptOptions) (name : String → String) (depth : Nat) (s : Statement) :
    ∃ row rows, s.rows o name depth = row :: rows ∧ row.depth = depth := by
  cases s <;> exact ⟨_, _, rfl, rfl⟩

/-- The rows of statements at some depth are not deeper than that. -/
theorem shallow_rows (depth n : Nat) (p : List Statement) {rest : List Line}
    (h : Script.Shallow (depth * k) rest) :
    Script.Shallow (depth * k) (Script.Row.numbered k n (Program.rows o name depth p) ++ rest) := by
  cases p with
  | nil => exact h
  | cons s p =>
    obtain ⟨row, rows, hrows, hdepth⟩ := head_depth_rows o name depth s
    intro line hline
    rw [Program.rows, hrows] at hline
    cases hline
    exact Nat.le_of_eq (by rw [hdepth])

theorem Script.Shallow.mono {indent inner : Nat} {lines : List Line}
    (h : Script.Shallow indent lines) (hle : indent ≤ inner) : Script.Shallow inner lines :=
  fun line hline => Nat.le_trans (h line hline) hle

/-- The body of a loop in a script, with the line that stands for an empty one. -/
def bodyRows (o : ScriptOptions) (name : String → String) (depth : Nat) (body : List Statement) :
    List Script.Row :=
  Program.rows o name depth body ++ if body.isEmpty then [⟨depth, [.name "pass"]⟩] else []

theorem bodyIndent?_rows (hk : 0 < k) (depth n : Nat) (body : List Statement) (rest : List Line) :
    bodyIndent? (depth * k) (Script.Row.numbered k n (bodyRows o name (depth + 1) body) ++ rest) =
      some ((depth + 1) * k) := by
  have hlt : depth * k < (depth + 1) * k := by
    rw [Nat.succ_mul]
    omega
  cases body with
  | nil => exact if_pos hlt
  | cons s body =>
    obtain ⟨row, rows, hrows, hdepth⟩ := head_depth_rows o name (depth + 1) s
    rw [bodyRows, Program.rows, hrows, ← hdepth]
    exact if_pos (by rw [hdepth]; exact hlt)

theorem block_pass (n : Nat) {indent : Nat} {rest : List Line}
    (h : block indent rest = .ok ([], rest)) :
    block indent (⟨n, indent, [.name "pass"]⟩ :: rest) = .ok ([.pass], rest) :=
  (Script.block_simple ⟨n, indent, [.name "pass"]⟩ rfl).2 ⟨.pass, [], rfl, h, rfl⟩

theorem isEmpty_of_reads {p : List Statement} {plan : List Plan} (h : Reads p plan) :
    plan.isEmpty = p.isEmpty := by
  cases h <;> rfl

/-- The body of a loop, given how its statements are read. -/
theorem block_bodyRows_iff (hk : 0 < k) {depth n : Nat} {body : List Statement} {rest : List Line}
    (hrest : Script.Shallow (depth * k) rest)
    (hbody : ∀ {ss last}, block ((depth + 1) * k)
        (Script.Row.numbered k n (Program.rows o name (depth + 1) body) ++ rest) = .ok (ss, last) ↔
      ∃ plan more, Reads body plan ∧ block ((depth + 1) * k) rest = .ok (more, last) ∧
        ss = Plan.allInScript o name plan ++ more)
    {ss : List Script.Statement} {last : List Line} :
    block ((depth + 1) * k)
        (Script.Row.numbered k n (bodyRows o name (depth + 1) body) ++ rest) = .ok (ss, last) ↔
      last = rest ∧ ∃ plan, Reads body plan ∧
        ss = Plan.allInScript o name plan ++ if plan.isEmpty then [.pass] else [] := by
  have hend : block ((depth + 1) * k) rest = .ok ([], rest) :=
    Script.block_of_shallow (by rw [Nat.succ_mul]; omega) hrest
  cases body with
  | nil =>
    have hpass : block ((depth + 1) * k)
        (Script.Row.numbered k n (bodyRows o name (depth + 1) []) ++ rest) = .ok ([.pass], rest) :=
      block_pass n hend
    rw [hpass]
    constructor
    · intro h
      cases h
      exact ⟨rfl, [], .nil, rfl⟩
    · rintro ⟨rfl, plan, hp, rfl⟩
      cases hp
      rfl
  | cons s body =>
    have hrows : bodyRows o name (depth + 1) (s :: body) =
        Program.rows o name (depth + 1) (s :: body) := List.append_nil _
    rw [hrows, hbody, hend]
    constructor
    · rintro ⟨plan, more, hp, hm, rfl⟩
      cases hm
      exact ⟨rfl, plan, hp, by rw [isEmpty_of_reads hp]; rfl⟩
    · rintro ⟨rfl, plan, hp, rfl⟩
      exact ⟨plan, [], hp, rfl, by rw [isEmpty_of_reads hp]; rfl⟩

mutual

theorem Statement.block_rows_iff (ho : o.Valid) (hn : Naming o name) (hk : 0 < k) :
    ∀ (s : Statement) (depth n : Nat) {rest last : List Line} {ss : List Script.Statement},
      Script.Shallow (depth * k) rest →
      (block (depth * k) (Script.Row.numbered k n (s.rows o name depth) ++ rest) = .ok (ss, last) ↔
        ∃ step more, Reads [s] [step] ∧ block (depth * k) rest = .ok (more, last) ∧
          ss = step.inScript o name :: more)
  | .say e, depth, n, _, _, _, _ =>
    block_row_iff ⟨n, depth * k, _⟩ (Script.isLoop_of_unreserved ho.unreserved _ _ _)
      (read_said_iff ho hn n _ e)
  | .declare x, depth, n, _, _, _, _ =>
    block_row_iff ⟨n, depth * k, _⟩ (Script.isLoop_of_unreserved (hn.unreserved x) _ _ _)
      (read_declared_iff hn n _ x)
  | .assign x e, depth, n, _, _, _, _ =>
    block_row_iff ⟨n, depth * k, _⟩ (Script.isLoop_of_unreserved (hn.unreserved x) _ _ _)
      (read_assigned_iff hn n _ x .set e reads_assign_iff)
  | .increase x e, depth, n, _, _, _, _ =>
    block_row_iff ⟨n, depth * k, _⟩ (Script.isLoop_of_unreserved (hn.unreserved x) _ _ _)
      (read_assigned_iff hn n _ x .add e reads_increase_iff)
  | .decrease x e, depth, n, _, _, _, _ =>
    block_row_iff ⟨n, depth * k, _⟩ (Script.isLoop_of_unreserved (hn.unreserved x) _ _ _)
      (read_assigned_iff hn n _ x .sub e reads_decrease_iff)
  | .loop x a b body, depth, n, rest, last, ss, hrest => by
    have hbody := @block_bodyRows_iff o name k hk depth (n + 1) body rest hrest
      (Program.block_rows_iff ho hn hk body (depth + 1) (n + 1)
        (hrest.mono (Nat.mul_le_mul_right k (Nat.le_succ depth))))
    -- The header, then its body, then the rest at the depth of the header.
    generalize hlines :
      Script.Row.numbered k (n + 1) (bodyRows o name (depth + 1) body) ++ rest = lines at hbody
    have hindent : bodyIndent? (depth * k) lines = some ((depth + 1) * k) := by
      rw [← hlines]
      exact bodyIndent?_rows hk depth (n + 1) body rest
    have hle : rest.length ≤ lines.length := by simp [← hlines]
    have hsplit : Script.Row.numbered k n ((Statement.loop x a b body).rows o name depth) ++ rest =
        ⟨n, depth * k, headerTokens name x a b⟩ :: lines := by
      rw [← hlines]
      rfl
    rw [hsplit]
    constructor
    · intro h
      obtain ⟨inner, after, hinner⟩ := Script.block_loop_body ⟨n, _, _⟩ rfl hindent h
      obtain ⟨rfl, plan, hplan, rfl⟩ := hbody.1 hinner
      obtain ⟨y, s, t, more, hread, hm, rfl⟩ := (Script.block_loop ⟨n, _, _⟩ rfl hindent hinner hle).1 h
      obtain ⟨_, hread⟩ := Script.read_eq_ok.1 hread
      obtain ⟨-, first, bound, hfirst, hbound, hr⟩ := (loopHeader_eq_ok_iff hn).1 hread
      cases hr
      exact ⟨_, more, .loop hfirst hbound hplan .nil, hm, rfl⟩
    · rintro ⟨step, more, hs, hm, rfl⟩
      cases hs with
      | loop hfirst hbound hplan _ =>
        refine (Script.block_loop ⟨n, _, _⟩ rfl hindent (hbody.2 ⟨rfl, _, hplan, rfl⟩) hle).2
          ⟨_, _, _, more, ?_, hm, rfl⟩
        exact Script.read_eq_ok.2 ⟨[], (loopHeader_eq_ok_iff hn).2
          ⟨rfl, _, _, hfirst, hbound, rfl⟩⟩

theorem Program.block_rows_iff (ho : o.Valid) (hn : Naming o name) (hk : 0 < k) :
    ∀ (p : List Statement) (depth n : Nat) {rest last : List Line} {ss : List Script.Statement},
      Script.Shallow (depth * k) rest →
      (block (depth * k) (Script.Row.numbered k n (Program.rows o name depth p) ++ rest) =
          .ok (ss, last) ↔
        ∃ plan more, Reads p plan ∧ block (depth * k) rest = .ok (more, last) ∧
          ss = Plan.allInScript o name plan ++ more)
  | [], depth, n, rest, last, ss, hrest => by
    constructor
    · intro h
      exact ⟨[], ss, .nil, h, rfl⟩
    · rintro ⟨plan, more, hp, hm, rfl⟩
      cases hp
      exact hm
  | s :: p, depth, n, rest, last, ss, hrest => by
    rw [Program.rows, Script.Row.numbered_append, List.append_assoc,
      Statement.block_rows_iff ho hn hk s depth n (shallow_rows depth _ p hrest)]
    constructor
    · rintro ⟨step, more, hs, hm, rfl⟩
      obtain ⟨plan, last, hp, hl, rfl⟩ := (Program.block_rows_iff ho hn hk p depth _ hrest).1 hm
      exact ⟨step :: plan, last, reads_cons_iff.2 ⟨_, _, hs, hp, rfl⟩, hl, rfl⟩
    · rintro ⟨plan, more, h, hm, rfl⟩
      obtain ⟨step, plan, hs, hp, rfl⟩ := reads_cons_iff.1 h
      exact ⟨step, _, hs, (Program.block_rows_iff ho hn hk p depth _ hrest).2
        ⟨plan, more, hp, hm, rfl⟩, rfl⟩

end

end

/-! ### Whole scripts -/

theorem readLinesFrom_of_shows {o : ScriptOptions} {texts : List (List Char)}
    {rows : List Script.Row} (h : List.Forall₂ (Script.Shows o) texts rows) (n : Nat) :
    Script.readLinesFrom n texts = .ok (Script.Row.numbered o.indent.length n rows) := by
  induction h generalizing n with
  | nil => rfl
  | cons hrow _ ih =>
    have hne := List.isEmpty_eq_false_iff.2 hrow.tokens_ne_nil
    simp only [Script.readLinesFrom, hrow.written.tokenizeLine, ih, hne, hrow.indent,
      Bool.false_eq_true, ↓reduceIte]
    rfl

/-- The first line of every script. -/
def ScriptOptions.opening (o : ScriptOptions) : Script.Statement :=
  .assign o.accumulator .set (.str "")

theorem read_opening_iff {o : ScriptOptions} (ho : o.Valid) (n indent : Nat)
    (s : Script.Statement) :
    (⟨n, indent, [.name o.accumulator, .equal, .str ""]⟩ : Line).read
        LineReader.simpleStatement = .ok s ↔ s = o.opening := by
  have hempty : expr [.str ""] = .ok (.str "") [] := by
    have hsum : Script.IsSum [.str ""] (.str "") :=
      .one (.one (.bare (.text "" [])))
    rw [LineReader.expr_eq_sumWith]
    exact LineReader.sumWith_finds _ hsum (LineReader.afterSum_of_closed Script.closed_nil)
  refine (Script.read_assign_iff ho.unreserved .set n indent).trans ?_
  simp [hempty, ScriptOptions.opening]

/-- **The lines of a script are read, all of them.** -/
theorem Compiled.Wellmade.readLines_code {o : ScriptOptions} (ho : o.Valid) {c : Compiled}
    (hc : c.Wellmade o) :
    Script.readLines c.code = .ok (Script.Row.numbered o.indent.length 1
      (Program.script o c.table.nameOf c.program)) :=
  readLinesFrom_of_shows (hc.shows_splitLines ho) 1

theorem Compiled.Wellmade.parse_code {o : ScriptOptions} (ho : o.Valid) {c : Compiled}
    (hc : c.Wellmade o) :
    Script.parse c.code =
      (block 0 (⟨1, 0, [.name o.accumulator, .equal, .str ""]⟩ :: Script.Row.numbered
        o.indent.length 2 (Program.rows o c.table.nameOf 0 c.program))).map Prod.fst := by
  unfold Script.parse
  rw [hc.readLines_code ho, Program.script, Script.Row.numbered, Nat.zero_mul]

theorem ScriptOptions.Valid.indent_pos {o : ScriptOptions} (ho : o.Valid) : 0 < o.indent.length := by
  rw [← String.length_toList]
  exact List.length_pos_of_ne_nil ho.indent_ne_nil

/-- **A script is read exactly if its program is a plan**, and then as that plan. -/
theorem parse_code_iff {o : ScriptOptions} (ho : o.Valid) {c : Compiled} (hc : c.Wellmade o)
    {script : List Script.Statement} :
    Script.parse c.code = .ok script ↔
      ∃ plan, Reads c.program plan ∧
        script = o.opening :: Plan.allInScript o c.table.nameOf plan := by
  have hrows := @Program.block_rows_iff o c.table.nameOf _ ho (hc.naming ho) ho.indent_pos
    c.program 0 2 []
  simp only [Nat.zero_mul, List.append_nil] at hrows
  have hopening := Script.isLoop_of_unreserved ho.unreserved 1 0 [.equal, .str ""]
  have hnil : block 0 [] = .ok ([], []) := by rw [block]
  rw [hc.parse_code ho]
  constructor
  · intro h
    cases hb : block 0 (⟨1, 0, [.name o.accumulator, .equal, .str ""]⟩ :: Script.Row.numbered
        o.indent.length 2 (Program.rows o c.table.nameOf 0 c.program)) with
    | error e => simp [hb, Except.map] at h
    | ok r =>
      obtain ⟨ss, last⟩ := r
      rw [hb] at h
      cases h
      obtain ⟨s, more, hs, hm, rfl⟩ := (Script.block_simple ⟨1, 0, _⟩ hopening).1 hb
      obtain ⟨plan, rest, hplan, hrest, rfl⟩ := (hrows (by simp [Script.Shallow])).1 hm
      rw [hnil] at hrest
      cases hrest
      obtain rfl := (read_opening_iff ho 1 0 s).1 hs
      exact ⟨plan, hplan, by rw [List.append_nil]⟩
  · rintro ⟨plan, hplan, rfl⟩
    have hm := (hrows (by simp [Script.Shallow])).2 ⟨plan, [], hplan, hnil, rfl⟩
    rw [(Script.block_simple ⟨1, 0, _⟩ hopening).2
      ⟨_, _, (read_opening_iff ho 1 0 _).2 rfl, hm, rfl⟩, List.append_nil]
    rfl

end Laoke
