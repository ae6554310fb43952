import Laoke.Proofs.Meaning
import Laoke.Proofs.Precedence
import Laoke.Proofs.Rows

/-!
# Expressions read back from a script

The reader of scripts knows calls and parentheses, of which the expressions of a
program have none.  What is left is the grammar of programs, over the tokens of
a script:

* `atom_takes`, `atom_finds`: operands are read as operands.
* `expr_of_isSum`: an expression with a meaning is read, up to a closing
  parenthesis, a comma or the end of the line.
* `isSum_of_expr`: whatever is read up to there has a meaning.
-/

namespace Laoke

open Script (BinaryOp UnaryOp)
open Script.LineReader (sign? Takes Finds)

/-- An expression as a script has it. -/
def Formula.inScript (name : String → String) : Formula → Script.Expr
  | .integer n => .int n
  | .text s => .str s
  | .name x => .name (name x)
  | .signed op f => .unary op (f.inScript name)
  | .joined op f g => .binary op (f.inScript name) (g.inScript name)

namespace Script

/-- An integer, a variable, or one or more strings in a row. -/
inductive IsOperand : List Token → Expr → Prop
  | int (n : Int) : IsOperand [.int n] (.int n)
  | name {x : String} (hx : isReserved x = false) : IsOperand [.name x] (.name x)
  | text (s : String) (more : List String) :
      IsOperand ((s :: more).map .str) (.str ((s :: more).foldr (· ++ ·) ""))

/-- A sum of products of signed operands, with no parentheses and no calls. -/
def IsSum : List Token → Expr → Prop :=
  Chained LineReader.termOperator? .binary
    (Chained LineReader.factorOperator? .binary (Signed sign? .unary IsOperand))

/-- A token that opens no parenthesis and is not the word for nothing. -/
def Token.IsFlat (t : Token) : Prop :=
  t ≠ .leftParen ∧ t ≠ .name "None"

/-- A token that ends an expression. -/
def Token.IsCloser (t : Token) : Prop :=
  t = .rightParen ∨ t = .comma

/-- Tokens that no expression goes on with: none, or an end first. -/
def Closed (rest : List Token) : Prop :=
  ∀ t ∈ rest.head?, t.IsCloser

theorem closed_nil : Closed [] := by simp [Closed]

theorem closed_rightParen (rest : List Token) : Closed (.rightParen :: rest) := by
  simp [Closed, Token.IsCloser]

theorem closed_comma (rest : List Token) : Closed (.comma :: rest) := by
  simp [Closed, Token.IsCloser]

/-! ### Operands -/

namespace LineReader

theorem joinedStrings_spec (tokens : List Token) :
    ∃ texts : List String, tokens = texts.map .str ++ (joinedStrings tokens).2 ∧
      (joinedStrings tokens).1 = texts.foldr (· ++ ·) "" := by
  fun_induction joinedStrings tokens with
  | case1 s rest more after hj ih =>
    rw [hj] at ih
    obtain ⟨texts, hrest, hmore⟩ := ih
    exact ⟨s :: texts, by rw [hrest]; rfl, by simpa using hmore⟩
  | case2 tokens _ => exact ⟨[], rfl, rfl⟩

theorem joinedStrings_append (texts : List String) {rest : List Token}
    (h : ∀ t ∈ rest.head?, ∀ s, t ≠ .str s) :
    joinedStrings (texts.map .str ++ rest) = (texts.foldr (· ++ ·) "", rest) := by
  induction texts with
  | nil =>
    cases rest with
    | nil => rfl
    | cons t rest =>
      cases t with
      | str s => exact absurd rfl (h _ rfl s)
      | _ => rfl
  | cons s texts ih =>
    rw [List.map_cons, List.cons_append, joinedStrings, ih]
    rfl

/-- **What an operand takes is an operand**, if there are no parentheses. -/
theorem atom_takes (expr : LineReader Expr) : Takes Token.IsFlat (atom expr) IsOperand := by
  intro tokens rest e hq he
  unfold atom at he
  split at he
  · cases he
    exact ⟨_, rfl, .int _⟩
  · rename_i s tail
    cases he
    obtain ⟨texts, htail, hmore⟩ := joinedStrings_spec tail
    refine ⟨(s :: texts).map .str, by rw [List.map_cons, List.cons_append, ← htail], ?_⟩
    rw [hmore]
    exact .text s texts
  · exact absurd rfl (hq _ List.mem_cons_self).1
  · rename_i x tail
    have hnone : x ≠ "None" := fun hx => (hq _ List.mem_cons_self).2 (by rw [hx])
    rw [if_neg hnone] at he
    split_ifs at he with hx
    split at he
    · exact absurd rfl (hq .leftParen (by simp)).1
    · cases he
      exact ⟨[.name x], rfl, .name (by simpa using hx)⟩
  · simp at he

/-- What an operand does not go on with: a string or an opening parenthesis. -/
def AfterOperand (rest : List Token) : Prop :=
  ∀ t ∈ rest.head?, t ≠ .leftParen ∧ ∀ s, t ≠ .str s

/-- **An operand is found.** -/
theorem atom_finds (expr : LineReader Expr) : Finds (atom expr) IsOperand AfterOperand := by
  intro front rest e he hrest
  cases he with
  | int n => rfl
  | @name x hx =>
    have hnone : x ≠ "None" := by
      rintro rfl
      exact absurd hx (by decide)
    change atom expr (.name x :: rest) = _
    unfold atom
    simp only [if_neg hnone, hx, Bool.false_eq_true, ↓reduceIte]
    split
    · exact absurd rfl (hrest _ rfl).1
    · rfl
  | text s more =>
    have hmore := joinedStrings_append more fun t ht => (hrest t ht).2
    rw [List.map_cons, List.cons_append]
    unfold atom
    simp only [hmore]
    rfl

/-! ### Sums -/

theorem sumWith_takes (expr : LineReader Expr) : Takes Token.IsFlat (sumWith expr) IsSum :=
  (atom_takes expr).signed.chain.chain

/-- What a sum does not go on with. -/
def AfterSum (rest : List Token) : Prop :=
  (AfterOperand rest ∧ ∀ t ∈ rest.head?, factorOperator? t = none) ∧
    ∀ t ∈ rest.head?, termOperator? t = none

theorem afterOperand_of_factorOperator? {t : Token} {op : BinaryOp} (h : factorOperator? t = some op)
    (tail : List Token) : AfterOperand (t :: tail) := by
  cases t <;> simp [factorOperator?] at h <;> simp [AfterOperand]

theorem afterFactor_of_termOperator? {t : Token} {op : BinaryOp} (h : termOperator? t = some op)
    (tail : List Token) :
    AfterOperand (t :: tail) ∧ ∀ u ∈ (t :: tail).head?, factorOperator? u = none := by
  cases t <;> simp [termOperator?] at h <;> simp [AfterOperand, factorOperator?]

theorem sumWith_finds (expr : LineReader Expr) : Finds (sumWith expr) IsSum AfterSum := by
  refine ((Finds.signed (atom_finds expr) fun front e he => ?_).chain
    fun t op tail h => afterOperand_of_factorOperator? h tail).chain
      fun t op tail h => afterFactor_of_termOperator? h tail
  cases he with
  | int n => exact ⟨_, _, rfl, rfl⟩
  | name hx => exact ⟨_, _, rfl, rfl⟩
  | text s more => exact ⟨_, _, rfl, rfl⟩

theorem afterSum_of_closed {rest : List Token} (h : Closed rest) : AfterSum rest := by
  cases rest with
  | nil => simp [AfterSum, AfterOperand]
  | cons t rest =>
    rcases h t rfl with rfl | rfl <;>
      simp [AfterSum, AfterOperand, factorOperator?, termOperator?]

end LineReader

theorem not_isCloser_of_isSum {tokens : List Token} {e : Expr} (h : IsSum tokens e) :
    ∀ t ∈ tokens, ¬ t.IsCloser := by
  refine h.forall_mem (fun t op ht => ?_) fun ts e hts => ?_
  · rintro (rfl | rfl) <;> simp [LineReader.termOperator?] at ht
  · refine hts.forall_mem (fun t op ht => ?_) fun ts e hts => ?_
    · rintro (rfl | rfl) <;> simp [LineReader.factorOperator?] at ht
    · refine hts.forall_mem (fun t op ht => ?_) fun ts e hts => ?_
      · rintro (rfl | rfl) <;> simp [sign?] at ht
      · cases hts <;> simp [Token.IsCloser]

/-- There is one place to cut tokens at their first end of an expression. -/
theorem append_eq_append_of_closed {front front' rest rest' : List Token}
    (h : front ++ rest = front' ++ rest') (hf : ∀ t ∈ front, ¬ t.IsCloser)
    (hf' : ∀ t ∈ front', ¬ t.IsCloser) (hr : Closed rest) (hr' : Closed rest') :
    front = front' ∧ rest = rest' := by
  rcases List.append_eq_append_iff.1 h with ⟨mid, rfl, rfl⟩ | ⟨mid, rfl, rfl⟩
  · cases mid with
    | nil => simp
    | cons t mid => exact absurd (hr t rfl) (hf' t (by simp))
  · cases mid with
    | nil => simp
    | cons t mid => exact absurd (hr' t rfl) (hf t (by simp))

end Script

/-! ### Expressions of a program -/

section

variable {o : ScriptOptions} {name : String → String}

theorem not_isCloser_inScript (e : Expression) : ∀ t ∈ e.inScript name, ¬ t.IsCloser := by
  intro t ht
  obtain ⟨u, -, rfl⟩ := List.mem_map.1 ht
  cases u with
  | keyword k => cases k <;> simp [Token.inScript, Keyword.inScript, Script.Token.IsCloser]
  | _ => simp [Token.inScript, Script.Token.IsCloser]

theorem Naming.isFlat_inScript (hn : Naming o name) (e : Expression) :
    ∀ t ∈ e.inScript name, t.IsFlat := by
  intro t ht
  obtain ⟨u, -, rfl⟩ := List.mem_map.1 ht
  cases u with
  | keyword k => cases k <;> simp [Token.inScript, Keyword.inScript, Script.Token.IsFlat]
  | identifier x =>
    refine ⟨by simp [Token.inScript], fun h => ?_⟩
    have hx := hn.unreserved x
    rw [Script.Token.name.inj h] at hx
    exact absurd hx (by decide)
  | _ => simp [Token.inScript, Script.Token.IsFlat]

theorem inScript_eq_int {t : Token} {n : Int} (h : t.inScript name = .int n) : t = .integer n := by
  cases t with
  | keyword k => cases k <;> simp [Token.inScript, Keyword.inScript] at h
  | integer m => simpa [Token.inScript] using h
  | _ => simp [Token.inScript] at h

theorem inScript_eq_name {t : Token} {y : String} (h : t.inScript name = .name y) :
    ∃ x, t = .identifier x ∧ y = name x := by
  cases t with
  | keyword k => cases k <;> simp [Token.inScript, Keyword.inScript] at h
  | identifier x => exact ⟨x, rfl, by simpa [Token.inScript] using h.symm⟩
  | _ => simp [Token.inScript] at h

theorem map_inScript_eq_texts {ts : Expression} {texts : List String}
    (h : ts.map (Token.inScript name) = texts.map .str) : ts = texts.map .string := by
  induction ts generalizing texts with
  | nil => simpa using h
  | cons t ts ih =>
    obtain ⟨s, more, rfl, hs, hmore⟩ := List.map_eq_cons_iff.1 h.symm
    rw [ih hmore.symm, List.map_cons, List.cons.injEq]
    refine ⟨?_, rfl⟩
    cases t with
    | keyword k => cases k <;> simp [Token.inScript, Keyword.inScript] at hs
    | string s => simpa [Token.inScript] using hs.symm
    | _ => simp [Token.inScript] at hs

theorem Naming.translates_operand (hn : Naming o name) :
    Translates (Token.inScript name) (Formula.inScript name) IsOperand Script.IsOperand := by
  intro ts e
  constructor
  · intro h
    generalize hts : ts.map (Token.inScript name) = us at h
    cases h with
    | int n =>
      obtain ⟨t, rfl, ht⟩ := List.map_eq_singleton_iff.1 hts
      obtain rfl := inScript_eq_int ht
      exact ⟨_, .integer n, rfl⟩
    | name hx =>
      obtain ⟨t, rfl, ht⟩ := List.map_eq_singleton_iff.1 hts
      obtain ⟨x, rfl, rfl⟩ := inScript_eq_name ht
      exact ⟨_, .name x, rfl⟩
    | text s more =>
      obtain rfl := map_inScript_eq_texts hts
      exact ⟨_, .text s more, rfl⟩
  · rintro ⟨f, hf, rfl⟩
    cases hf with
    | integer n => exact .int n
    | name x => exact .name (hn.unreserved x)
    | text s more =>
      rw [List.map_map]
      exact .text s more

/-- **The grammar of programs is the grammar of their scripts.** -/
theorem Naming.translates_sum (hn : Naming o name) :
    Translates (Token.inScript name) (Formula.inScript name) IsSum Script.IsSum := by
  refine ((hn.translates_operand.signed ?_ fun _ _ => rfl).chained ?_ fun _ _ _ => rfl).chained ?_
    fun _ _ _ => rfl
  all_goals
    intro t
    cases t with
    | keyword k => cases k <;> rfl
    | _ => rfl

theorem expr_of_isSum (hn : Naming o name) {e : Expression} {f : Formula} (h : IsSum e f)
    {rest : List Script.Token} (hrest : Script.Closed rest) :
    Script.LineReader.expr (e.inScript name ++ rest) = .ok (f.inScript name) rest := by
  rw [Script.LineReader.expr_eq_sumWith]
  exact Script.LineReader.sumWith_finds _ ((hn.translates_sum e _).2 ⟨f, h, rfl⟩)
    (Script.LineReader.afterSum_of_closed hrest)

theorem isSum_of_expr (hn : Naming o name) {e : Expression} {rest rest' : List Script.Token}
    {t : Script.Expr} (hrest : Script.Closed rest) (hflat : ∀ u ∈ rest, u.IsFlat)
    (h : Script.LineReader.expr (e.inScript name ++ rest) = .ok t rest')
    (hrest' : Script.Closed rest') :
    rest' = rest ∧ ∃ f, IsSum e f ∧ t = f.inScript name := by
  rw [Script.LineReader.expr_eq_sumWith] at h
  obtain ⟨front, hfront, hsum⟩ := Script.LineReader.sumWith_takes _
    (List.forall_mem_append.2 ⟨hn.isFlat_inScript e, hflat⟩) h
  obtain ⟨rfl, rfl⟩ := Script.append_eq_append_of_closed hfront.symm
    (Script.not_isCloser_of_isSum hsum) (not_isCloser_inScript e) hrest' hrest
  exact ⟨rfl, (hn.translates_sum e t).1 hsum⟩

theorem expr_last_eq_ok_iff (hn : Naming o name) {e : Expression} {t : Script.Expr} :
    Script.LineReader.expr (e.inScript name) = .ok t [] ↔ ∃ f, IsSum e f ∧ t = f.inScript name := by
  constructor
  · intro h
    rw [← List.append_nil (e.inScript name)] at h
    exact (isSum_of_expr hn Script.closed_nil (by simp) h Script.closed_nil).2
  · rintro ⟨f, hf, rfl⟩
    simpa using expr_of_isSum hn hf Script.closed_nil

end

/-! ### Deciding what has a meaning -/

/-- Whether an expression is read back from a script. -/
def Expression.isWellFormed (e : Expression) : Bool :=
  match Script.LineReader.expr (e.inScript (SymbolTable.nameOf { stem := "_db_var" })) with
  | .ok _ [] => true
  | _ => false

theorem Expression.isWellFormed_iff {e : Expression} : e.isWellFormed = true ↔ e.WellFormed := by
  have hn : Naming {} (SymbolTable.nameOf { stem := "_db_var" }) :=
    naming_nameOf (ScriptOptions.valid_of_fault? (by decide +kernel)) rfl
  unfold Expression.isWellFormed
  constructor
  · intro h
    split at h
    · rename_i t ht
      obtain ⟨f, hf, -⟩ := (expr_last_eq_ok_iff hn).1 ht
      exact ⟨f, hf⟩
    · simp at h
  · rintro ⟨f, hf⟩
    rw [(expr_last_eq_ok_iff hn).2 ⟨f, hf, rfl⟩]

instance (e : Expression) : Decidable e.WellFormed :=
  decidable_of_iff (e.isWellFormed = true) Expression.isWellFormed_iff

mutual

/-- Decides whether a statement is well formed. -/
def Statement.decideWellFormed : (s : Statement) → Decidable s.WellFormed
  | .say e => inferInstanceAs (Decidable (e = [] ∨ e.WellFormed))
  | .declare _ => inferInstanceAs (Decidable True)
  | .assign _ e => inferInstanceAs (Decidable e.WellFormed)
  | .increase _ e => inferInstanceAs (Decidable e.WellFormed)
  | .decrease _ e => inferInstanceAs (Decidable e.WellFormed)
  | .loop _ a b body =>
    have := Program.decideWellFormed body
    inferInstanceAs (Decidable (a.WellFormed ∧ b.WellFormed ∧ Program.WellFormed body))

/-- Decides whether statements are well formed. -/
def Program.decideWellFormed : (p : List Statement) → Decidable (Program.WellFormed p)
  | [] => inferInstanceAs (Decidable True)
  | s :: p =>
    have := Statement.decideWellFormed s
    have := Program.decideWellFormed p
    inferInstanceAs (Decidable (s.WellFormed ∧ Program.WellFormed p))

end

instance (p : List Statement) : Decidable (Program.WellFormed p) := Program.decideWellFormed p

end Laoke
