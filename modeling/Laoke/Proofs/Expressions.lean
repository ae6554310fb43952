import Laoke.Proofs.Blocks

/-!
# Expressions with parentheses and calls

The grammar of all expressions of a script.  An expression is a sum of products
of signed atoms, as in `Proofs/Grammar.lean`; an atom may hold whole expressions
again, in parentheses or as the arguments of a call.

By `expr_eq_sumWith` the reader is the grammar read as a program.  What stands
inside parentheses is shorter than the whole, so what holds of an expression whose
atoms hold shorter ones that are read holds of all.

* `expr_takes`: what is read derives from the grammar, with the tree it yields.
* `expr_finds`: what derives is read, with that tree, unless more of it follows.
* `exprAbove_lowest_reads_exactly`: both, for operators of any strength up to a
  closing parenthesis, a comma or the end of the line.
-/

namespace Laoke.Script

open LineReader

/-! ### The grammar -/

/-- Expressions with commas between them, at least one. -/
inductive Listed (inner : List Token → Expr → Prop) : List Token → List Expr → Prop
  | last {ts : List Token} {e : Expr} (h : inner ts e) : Listed inner ts [e]
  | more {front back : List Token} {e : Expr} {es : List Expr} (h : inner front e)
      (hback : Listed inner back es) : Listed inner (front ++ .comma :: back) (e :: es)

/-- What stands between the parentheses of a call: nothing, or expressions. -/
inductive IsArguments (inner : List Token → Expr → Prop) : List Token → List Expr → Prop
  | none : IsArguments inner [] []
  | some {ts : List Token} {es : List Expr} (h : Listed inner ts es) : IsArguments inner ts es

/-- An operand, the word for nothing, a call, or an expression in parentheses, which leave no trace
in its tree. -/
inductive IsAtom (inner : List Token → Expr → Prop) : List Token → Expr → Prop
  | operand {ts : List Token} {e : Expr} (h : IsOperand ts e) : IsAtom inner ts e
  | nothing : IsAtom inner [.name "None"] .none
  | call {x : String} {ts : List Token} {es : List Expr} (hx : isReserved x = false)
      (h : IsArguments inner ts es) :
      IsAtom inner (.name x :: .leftParen :: (ts ++ [.rightParen])) (.call x es)
  | group {ts : List Token} {e : Expr} (h : inner ts e) :
      IsAtom inner (.leftParen :: (ts ++ [.rightParen])) e

/-- An expression: a sum of products of signed atoms that hold expressions. -/
inductive IsExpr : List Token → Expr → Prop
  | sum {ts : List Token} {e : Expr}
      (h : Chained termOperator? .binary
        (Chained factorOperator? .binary (Signed sign? .unary (IsAtom IsExpr))) ts e) : IsExpr ts e

/-! ### What is read derives -/

namespace LineReader

variable {inner inner' : LineReader Expr} {shape : List Token → Expr → Prop}

/-- Any token: what a reader takes is not limited to some of them. -/
abbrev Anything (_ : Token) : Prop := True

theorem anything (tokens : List Token) : ∀ t ∈ tokens, Anything t := fun _ _ => trivial

theorem Takes.argumentsFrom (h : Takes Anything inner shape) {tokens rest : List Token}
    {es : List Expr} (he : argumentsFrom inner tokens = .ok es rest) :
    ∃ front, tokens = front ++ .rightParen :: rest ∧ Listed shape front es := by
  fun_induction LineReader.argumentsFrom inner tokens generalizing es with
  | case1 => cases he
  | case2 tokens e tail hexpr =>
    cases he
    obtain ⟨front, rfl, hfront⟩ := h (anything _) hexpr
    exact ⟨front, rfl, .last hfront⟩
  | case3 tokens e tail hexpr hlt more after hmore ih =>
    cases he
    obtain ⟨front, rfl, hfront⟩ := h (anything _) hexpr
    obtain ⟨back, rfl, hback⟩ := ih hmore
    exact ⟨front ++ .comma :: back, by simp, .more hfront hback⟩
  | case4 => cases he
  | case5 => cases he
  | case6 => cases he

theorem Takes.arguments (h : Takes Anything inner shape) {tokens rest : List Token}
    {es : List Expr} (he : arguments inner tokens = .ok es rest) :
    ∃ front, tokens = front ++ .rightParen :: rest ∧ IsArguments shape front es := by
  unfold LineReader.arguments at he
  split at he
  · cases he
    exact ⟨[], rfl, .none⟩
  · obtain ⟨front, rfl, hfront⟩ := h.argumentsFrom he
    exact ⟨front, rfl, .some hfront⟩

/-- **What an atom takes is an atom**, if what it takes inside parentheses has its shape. -/
theorem Takes.atom (h : Takes Anything inner shape) :
    Takes Anything (atom inner) (IsAtom shape) := by
  intro tokens rest e hq he
  unfold LineReader.atom at he
  split at he
  · cases he
    exact ⟨_, rfl, .operand (.int _)⟩
  · rename_i s tail
    cases he
    obtain ⟨texts, htail, hmore⟩ := joinedStrings_spec tail
    refine ⟨(s :: texts).map .str, by rw [List.map_cons, List.cons_append, ← htail], ?_⟩
    rw [hmore]
    exact .operand (.text s texts)
  · obtain ⟨e', mid, hexpr, he⟩ := bind_eq_ok.1 he
    obtain ⟨_, last, hparen, he⟩ := bind_eq_ok.1 he
    obtain ⟨rfl, rfl⟩ := pure_eq_ok.1 he
    obtain rfl := expectToken_eq_ok.1 hparen
    obtain ⟨front, rfl, hfront⟩ := h (anything _) hexpr
    exact ⟨.leftParen :: (front ++ [.rightParen]), by simp, .group hfront⟩
  · rename_i x tail
    split_ifs at he with hnone hx
    · cases he
      subst hnone
      exact ⟨[.name "None"], rfl, .nothing⟩
    split at he
    · obtain ⟨es, last, hargs, he⟩ := bind_eq_ok.1 he
      obtain ⟨rfl, rfl⟩ := pure_eq_ok.1 he
      obtain ⟨front, rfl, hfront⟩ := h.arguments hargs
      exact ⟨.name x :: .leftParen :: (front ++ [.rightParen]), by simp,
        .call (by simpa using hx) hfront⟩
    · cases he
      exact ⟨[.name x], rfl, .operand (.name (by simpa using hx))⟩
  · cases he

/-! ### Shorter expressions inside -/

variable {n : Nat}

theorem AgreeBelow.signed (h : AgreeBelow n inner inner') :
    AgreeBelow n (signed inner) (signed inner') := by
  intro tokens
  induction tokens with
  | nil =>
    intro hn
    rw [signed_of_none (by simp), signed_of_none (by simp), h [] hn]
  | cons t tail ih =>
    intro hn
    cases ht : sign? t with
    | none => rw [signed_of_none (by simpa using ht), signed_of_none (by simpa using ht), h _ hn]
    | some op =>
      rw [signed_of_some ht, signed_of_some ht, ih (by simp only [List.length_cons] at hn; omega)]

theorem AgreeBelow.chainFrom (h : AgreeBelow n inner inner') (operator? : Token → Option BinaryOp)
    (left : Expr) {tokens : List Token} (hn : tokens.length ≤ n) :
    chainFrom operator? inner left tokens = chainFrom operator? inner' left tokens := by
  induction hk : tokens.length using Nat.strongRecOn generalizing tokens left with
  | _ k ih =>
    subst hk
    rw [LineReader.chainFrom.eq_def operator? inner, LineReader.chainFrom.eq_def operator? inner']
    cases tokens with
    | nil => rfl
    | cons t tail =>
      dsimp only
      rw [h tail hn]
      split
      · rfl
      · split
        · rfl
        · rename_i right after _
          by_cases hle : after.length ≤ tail.length
          · rw [if_pos hle, if_pos hle]
            simp only [List.length_cons] at hn ih
            exact ih after.length (by omega) _ (by omega) rfl
          · rw [if_neg hle, if_neg hle]

theorem AgreeBelow.chain (h : AgreeBelow n inner inner') (hi : Shortens inner)
    (operator? : Token → Option BinaryOp) :
    AgreeBelow n (chain operator? inner) (chain operator? inner') := by
  intro tokens hn
  unfold LineReader.chain
  rw [← h tokens hn]
  cases he : inner tokens with
  | error wanted rest => rfl
  | ok left rest =>
    have hlt := hi he
    exact h.chainFrom operator? left (by omega)

/-- Only what is shorter than an expression is read inside it. -/
theorem expr_eq_sumWith_shorter (tokens : List Token) :
    expr tokens = sumWith (fun inside =>
      if inside.length < tokens.length then expr inside else .error .expression inside) tokens := by
  have hagree : AgreeBelow tokens.length expr (fun inside =>
      if inside.length < tokens.length then expr inside else .error .expression inside) :=
    fun inside h => (if_pos h).symm
  have hfactor : Shortens (signed (LineReader.atom expr)) :=
    exprAbove_factor ▸ exprAbove_shortens Strength.factor
  have hterm : Shortens (LineReader.chain factorOperator? (signed (LineReader.atom expr))) := by
    rw [← exprAbove_factor, ← exprAbove_term]
    exact exprAbove_shortens Strength.term
  have hsum := (hagree.atom.signed.chain hfactor factorOperator?).chain hterm termOperator?
  rw [expr_eq_sumWith]
  exact hsum tokens (Nat.lt_succ_self _)

/-- **What is read derives from the grammar.** -/
theorem expr_takes : Takes Anything expr IsExpr := by
  intro tokens rest e hq he
  induction hn : tokens.length using Nat.strongRecOn generalizing tokens rest e with
  | _ n ih =>
    subst hn
    have hinner : Takes Anything (fun inside =>
        if inside.length < tokens.length then expr inside else .error .expression inside)
        IsExpr := by
      intro inside after e' hq' he'
      dsimp only at he'
      split_ifs at he' with hlt
      exact ih _ hlt hq' he' rfl
    rw [expr_eq_sumWith_shorter] at he
    obtain ⟨front, hfront, hsum⟩ := hinner.atom.signed.chain.chain hq he
    exact ⟨front, hfront, .sum hsum⟩

/-! ### What derives is read -/

/-- A reader that no closing parenthesis starts. -/
def NeedsOperand (reader : LineReader Expr) : Prop :=
  ∀ rest, reader (.rightParen :: rest) = .error .expression (.rightParen :: rest)

theorem expr_needsOperand : NeedsOperand expr := by
  intro rest
  rw [expr_eq_sumWith]
  exact sumWith_of_atom_error (by simp [sign?]) rfl

theorem Finds.argumentsFrom (h : Finds inner shape Closed) {front rest : List Token}
    {es : List Expr} (hes : Listed shape front es) :
    argumentsFrom inner (front ++ .rightParen :: rest) = .ok es rest := by
  induction hes with
  | last he => rw [LineReader.argumentsFrom.eq_def, h he (closed_rightParen rest)]
  | @more front back e es he _ ih =>
    have hlt : (back ++ Token.rightParen :: rest).length <
        (front ++ .comma :: (back ++ .rightParen :: rest)).length := by
      simp only [List.length_append, List.length_cons]
      omega
    rw [List.append_assoc, List.cons_append, LineReader.argumentsFrom.eq_def,
      h he (closed_comma _)]
    simp only [hlt, ↓reduceIte, ih]

theorem Finds.arguments (h : Finds inner shape Closed) (hi : NeedsOperand inner)
    {front rest : List Token} {es : List Expr} (hes : IsArguments shape front es) :
    arguments inner (front ++ .rightParen :: rest) = .ok es rest := by
  cases hes with
  | none => rfl
  | some hes =>
    have hread : LineReader.argumentsFrom inner (front ++ .rightParen :: rest) = .ok es rest :=
      h.argumentsFrom hes
    unfold LineReader.arguments
    split
    · rename_i tail htail
      rw [htail, LineReader.argumentsFrom.eq_def, hi] at hread
      cases hread
    · exact hread

/-- **An atom is found**, if what is inside its parentheses is. -/
theorem Finds.atom (h : Finds inner shape Closed) (hi : NeedsOperand inner) :
    Finds (atom inner) (IsAtom shape) AfterOperand := by
  intro front rest e he hrest
  cases he with
  | operand he => exact atom_finds inner he hrest
  | nothing => rfl
  | @call x ts es hx hes =>
    have hnone : x ≠ "None" := by
      rintro rfl
      exact absurd hx (by decide)
    have hcall : LineReader.atom inner (.name x :: .leftParen :: (ts ++ [.rightParen]) ++ rest) =
        (do return .call x (← LineReader.arguments inner) : LineReader Expr)
          (ts ++ .rightParen :: rest) := by
      rw [List.cons_append, List.cons_append, List.append_assoc]
      unfold LineReader.atom
      simp only [if_neg hnone, hx, Bool.false_eq_true, ↓reduceIte]
      rfl
    rw [hcall, bind_of_ok (h.arguments hi hes)]
    rfl
  | @group ts e he =>
    have hgroup : LineReader.atom inner (.leftParen :: (ts ++ [.rightParen]) ++ rest) =
        (do
          let e ← inner
          expectToken .rightParen ")"
          return e : LineReader Expr) (ts ++ .rightParen :: rest) := by
      rw [List.cons_append, List.append_assoc]
      rfl
    rw [hgroup, bind_of_ok (h he (closed_rightParen rest)),
      bind_of_ok (expectToken_eq_ok.2 rfl)]
    rfl

theorem exists_of_isAtom {front : List Token} {e : Expr} (h : IsAtom shape front e) :
    ∃ t tail, front = t :: tail ∧ sign? t = none := by
  cases h with
  | operand h => cases h <;> exact ⟨_, _, rfl, rfl⟩
  | nothing => exact ⟨_, _, rfl, rfl⟩
  | call _ _ => exact ⟨_, _, rfl, rfl⟩
  | group _ => exact ⟨_, _, rfl, rfl⟩

/-- A sum of products is found, if its atoms are. -/
theorem Finds.sum (h : Finds inner shape Closed) (hi : NeedsOperand inner) :
    Finds (sumWith inner) (Chained termOperator? .binary
      (Chained factorOperator? .binary (Signed sign? .unary (IsAtom shape)))) AfterSum :=
  (((h.atom hi).signed fun _ _ => exists_of_isAtom).chain
    fun _ _ tail ht => afterOperand_of_factorOperator? ht tail).chain
      fun _ _ tail ht => afterFactor_of_termOperator? ht tail

end LineReader

/-! ### Smaller expressions inside -/

section

variable {n : Nat} {shape : List Token → Expr → Prop}

/-- The expressions of less than `n` tokens. -/
def Below (n : Nat) (shape : List Token → Expr → Prop) (ts : List Token) (e : Expr) : Prop :=
  shape ts e ∧ ts.length < n

theorem Listed.restrict {ts : List Token} {es : List Expr} (h : Listed shape ts es)
    (hn : ts.length < n) : Listed (Below n shape) ts es := by
  induction h with
  | last h => exact .last ⟨h, hn⟩
  | more h _ ih =>
    simp only [List.length_append, List.length_cons] at hn
    exact .more ⟨h, by omega⟩ (ih (by omega))

/-- What an atom holds is shorter than the atom. -/
theorem IsAtom.restrict {ts : List Token} {e : Expr} (h : IsAtom shape ts e) (hn : ts.length ≤ n) :
    IsAtom (Below n shape) ts e := by
  cases h with
  | operand h => exact .operand h
  | nothing => exact .nothing
  | call hx h =>
    simp only [List.length_cons, List.length_append] at hn
    refine .call hx ?_
    cases h with
    | none => exact .none
    | some h => exact .some (h.restrict (by omega))
  | group h =>
    simp only [List.length_cons, List.length_append] at hn
    exact .group ⟨h, by omega⟩

theorem IsExpr.restrict {ts : List Token} {e : Expr} (h : IsExpr ts e) (hn : ts.length ≤ n) :
    Chained termOperator? .binary
      (Chained factorOperator? .binary (Signed sign? .unary (IsAtom (Below n IsExpr)))) ts e := by
  obtain ⟨h⟩ := h
  refine h.imp (fun _ _ hn h => ?_) hn
  refine h.imp (fun _ _ hn h => ?_) hn
  exact h.imp (fun _ _ hn h => h.restrict hn) hn

end

namespace LineReader

/-- **What derives from the grammar is read**, whatever follows that it cannot go on with. -/
theorem expr_finds : Finds expr IsExpr AfterSum := by
  -- By the number of tokens: what stands inside parentheses has fewer.
  have below (n : Nat) : Finds expr (Below n IsExpr) AfterSum := by
    induction n with
    | zero => exact fun _ _ _ h => absurd h.2 (Nat.not_lt_zero _)
    | succ n ih =>
      intro front rest e he hrest
      have hclosed : Finds expr (Below n IsExpr) Closed :=
        fun _ _ _ he hrest => ih he (afterSum_of_closed hrest)
      rw [expr_eq_sumWith]
      exact hclosed.sum expr_needsOperand (he.1.restrict (Nat.le_of_lt_succ he.2)) hrest
  intro front rest e he hrest
  exact below (front.length + 1) ⟨he, Nat.lt_succ_self _⟩ hrest

/-- **Reading expressions is exact.**  With operators of any strength: what is read derives from the
grammar with the tree that is returned, whatever follows it; and what derives is read, with its tree
and to its last token, if a closing parenthesis, a comma or the end of the line follows. -/
theorem exprAbove_lowest_reads_exactly (e : Expr) (rest : List Token) :
    (∀ tokens, exprAbove Strength.lowest tokens = .ok e rest →
        ∃ front, tokens = front ++ rest ∧ IsExpr front e) ∧
      ∀ front, IsExpr front e → Closed rest →
        exprAbove Strength.lowest (front ++ rest) = .ok e rest := by
  constructor
  · intro tokens h
    exact expr_takes (anything _) h
  · intro front h hrest
    exact expr_finds h (afterSum_of_closed hrest)

/-- A sign, a call with two arguments, strings in a row, parentheses, and operators of one and of two
strengths. -/
theorem exprAbove_lowest_reads_exactly_call :
    exprAbove Strength.lowest [.int 9, .slash, .minus, .name "f", .leftParen, .str "a", .str "b",
        .comma, .leftParen, .int 8, .minus, .int 2, .minus, .int 1, .rightParen, .rightParen, .star,
        .name "x", .rightParen] =
      .ok (.binary .mul (.binary .div (.int 9) (.unary .neg (.call "f" [.str "ab",
        .binary .sub (.binary .sub (.int 8) (.int 2)) (.int 1)]))) (.name "x")) [.rightParen] ∧
    IsExpr [.int 9, .slash, .minus, .name "f", .leftParen, .str "a", .str "b", .comma, .leftParen,
        .int 8, .minus, .int 2, .minus, .int 1, .rightParen, .rightParen, .star, .name "x"]
      (.binary .mul (.binary .div (.int 9) (.unary .neg (.call "f" [.str "ab",
        .binary .sub (.binary .sub (.int 8) (.int 2)) (.int 1)]))) (.name "x")) ∧
    exprAbove Strength.lowest ([.int 9, .slash, .minus, .name "f", .leftParen, .str "a", .str "b",
        .comma, .leftParen, .int 8, .minus, .int 2, .minus, .int 1, .rightParen, .rightParen, .star,
        .name "x"] ++ [.comma, .int 3]) =
      .ok (.binary .mul (.binary .div (.int 9) (.unary .neg (.call "f" [.str "ab",
        .binary .sub (.binary .sub (.int 8) (.int 2)) (.int 1)]))) (.name "x"))
        [.comma, .int 3] := by
  have hread : exprAbove Strength.lowest ([.int 9, .slash, .minus, .name "f", .leftParen, .str "a",
      .str "b", .comma, .leftParen, .int 8, .minus, .int 2, .minus, .int 1, .rightParen, .rightParen,
      .star, .name "x"] ++ [.rightParen]) =
        .ok (.binary .mul (.binary .div (.int 9) (.unary .neg (.call "f" [.str "ab",
          .binary .sub (.binary .sub (.int 8) (.int 2)) (.int 1)]))) (.name "x"))
          [.rightParen] := by
    cbv
  obtain ⟨front, hfront, hexpr⟩ := (exprAbove_lowest_reads_exactly _ _).1 _ hread
  obtain rfl := List.append_cancel_right hfront
  exact ⟨hread, hexpr, (exprAbove_lowest_reads_exactly _ _).2 _ hexpr (closed_comma _)⟩

end LineReader

end Laoke.Script
