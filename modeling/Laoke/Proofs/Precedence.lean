import Laoke.Proofs.Grammar
import Laoke.Proofs.Steps

/-!
# Binding strengths

The grammar of expressions has levels: an expression is a sum of products of
signed atoms.  The reader has none.  It reads an operand and goes on with operators
as long as they bind more strongly than the one before the operand.  Each level is
what this comes to at one strength.

* `exprAbove_eq`: what stands inside an expression is always shorter, so the reader
  may call itself without a test.
* `exprAbove_of_factor_le`, `exprAbove_factor`: at the strength of a factor, and of a
  sign, no operator is taken, and what is read is a signed atom.
* `exprAbove_term`: at the strength of a term it is a product.
* `operations_lowest`: at the lowest strength the loop over operators goes on with
  the product that it is in, and then with further terms.
* `expr_eq_sumWith`: so an expression is a sum, whose atoms hold expressions.
-/

namespace Laoke.Script.LineReader

/-! ### The levels -/

/-- The operators that join factors. -/
def factorOperator? : Token → Option BinaryOp
  | .star => some .mul
  | .slash => some .div
  | _ => none

/-- The operators that join terms. -/
def termOperator? : Token → Option BinaryOp
  | .plus => some .add
  | .minus => some .sub
  | _ => none

/-- Reads a sum of products, given how to read the expressions inside parentheses. -/
def sumWith (expr : LineReader Expr) : LineReader Expr :=
  chain termOperator? (chain factorOperator? (signed (atom expr)))

theorem operator?_of_factorOperator? {t : Token} {op : BinaryOp} (h : factorOperator? t = some op) :
    operator? t = some (op, Strength.factor) := by
  cases t <;> simp_all [factorOperator?, operator?]

theorem operator?_of_termOperator? {t : Token} {op : BinaryOp} (h : termOperator? t = some op) :
    operator? t = some (op, Strength.term) := by
  cases t <;> simp_all [termOperator?, operator?]

theorem operator?_eq_none {t : Token} (hf : factorOperator? t = none) (ht : termOperator? t = none) :
    operator? t = none := by
  cases t <;> simp_all [factorOperator?, termOperator?, operator?]

/-- No operator binds more strongly than those between factors. -/
theorem le_factor_of_operator? {t : Token} {op : BinaryOp} {strength : Nat}
    (h : operator? t = some (op, strength)) : strength ≤ Strength.factor := by
  cases hf : factorOperator? t with
  | some op' =>
    rw [operator?_of_factorOperator? hf] at h
    cases h
    exact Nat.le_refl _
  | none =>
    cases ht : termOperator? t with
    | some op' =>
      rw [operator?_of_termOperator? ht] at h
      cases h
      decide
    | none =>
      rw [operator?_eq_none hf ht] at h
      cases h

/-- Only those between factors bind more strongly than those between terms. -/
theorem le_term_of_operator? {t : Token} {op : BinaryOp} {strength : Nat}
    (hf : factorOperator? t = none) (h : operator? t = some (op, strength)) :
    strength ≤ Strength.term := by
  cases ht : termOperator? t with
  | some op' =>
    rw [operator?_of_termOperator? ht] at h
    cases h
    exact Nat.le_refl _
  | none =>
    rw [operator?_eq_none hf ht] at h
    cases h

/-! ### What is left is shorter -/

section

variable {α : Type} {inner inner' : LineReader Expr} {reader reader' : Nat → LineReader Expr}

/-- A reader that takes a token at least. -/
def Shortens (reader : LineReader α) : Prop :=
  ∀ ⦃tokens rest a⦄, reader tokens = .ok a rest → rest.length < tokens.length

theorem expectToken_eq_ok {t : Token} {text : String} {tokens rest : List Token} :
    expectToken t text tokens = .ok () rest ↔ tokens = t :: rest := by
  cases tokens with
  | nil => simp [expectToken]
  | cons v tail =>
    by_cases hv : v = t
    · simp [expectToken, hv]
    · simp [expectToken, hv]

theorem length_joinedStrings_le (tokens : List Token) :
    (joinedStrings tokens).2.length ≤ tokens.length := by
  fun_induction joinedStrings tokens with
  | case1 s rest more after hj ih =>
    rw [hj] at ih
    exact Nat.le_succ_of_le ih
  | case2 tokens _ => exact Nat.le_refl _

theorem Shortens.argumentsFrom (h : Shortens inner) : Shortens (argumentsFrom inner) := by
  intro tokens rest es he
  fun_induction LineReader.argumentsFrom inner tokens generalizing es with
  | case1 => cases he
  | case2 tokens e tail hexpr =>
    cases he
    exact Nat.lt_of_succ_lt (h hexpr)
  | case3 tokens e tail hexpr hlt more after hmore ih =>
    cases he
    exact Nat.lt_trans (ih hmore) hlt
  | case4 => cases he
  | case5 => cases he
  | case6 => cases he

theorem Shortens.arguments (h : Shortens inner) : Shortens (arguments inner) := by
  intro tokens rest es he
  unfold LineReader.arguments at he
  split at he
  · cases he
    exact Nat.lt_succ_self _
  · exact h.argumentsFrom he

theorem Shortens.atom (h : Shortens inner) : Shortens (atom inner) := by
  intro tokens rest e he
  unfold LineReader.atom at he
  split at he
  · cases he
    exact Nat.lt_succ_self _
  · rename_i s tail
    cases he
    exact Nat.lt_succ_of_le (length_joinedStrings_le tail)
  · obtain ⟨e', mid, hexpr, he⟩ := bind_eq_ok.1 he
    obtain ⟨_, last, hparen, he⟩ := bind_eq_ok.1 he
    obtain ⟨-, rfl⟩ := pure_eq_ok.1 he
    obtain rfl := expectToken_eq_ok.1 hparen
    exact Nat.lt_succ_of_lt (Nat.lt_of_succ_lt (h hexpr))
  · rename_i x tail
    split_ifs at he
    · cases he
      exact Nat.lt_succ_self _
    split at he
    · obtain ⟨es, last, hargs, he⟩ := bind_eq_ok.1 he
      obtain ⟨-, rfl⟩ := pure_eq_ok.1 he
      exact Nat.lt_succ_of_lt (Nat.lt_succ_of_lt (h.arguments hargs))
    · cases he
      exact Nat.lt_succ_self _
  · cases he

theorem operand_of_none {tokens : List Token} (h : ∀ t ∈ tokens.head?, sign? t = none) :
    operand reader tokens = atom (reader Strength.lowest) tokens := by
  unfold LineReader.operand
  split
  · exact absurd (h _ rfl) (by simp [sign?])
  · exact absurd (h _ rfl) (by simp [sign?])
  · rfl

theorem operand_of_some {t : Token} {op : UnaryOp} (h : sign? t = some op) (tail : List Token) :
    operand reader (t :: tail) =
      (do return .unary op (← reader Strength.sign) : LineReader Expr) tail := by
  cases t <;> simp only [sign?, Option.some.injEq, reduceCtorEq] at h <;> subst h <;> rfl

theorem Shortens.operand (h : ∀ strength, Shortens (reader strength)) :
    Shortens (operand reader) := by
  intro tokens rest e he
  cases tokens with
  | nil =>
    rw [operand_of_none (by simp)] at he
    exact (h _).atom he
  | cons t tail =>
    cases ht : sign? t with
    | none =>
      rw [operand_of_none (by simpa using ht)] at he
      exact (h _).atom he
    | some op =>
      rw [operand_of_some ht] at he
      obtain ⟨e', mid, hexpr, he⟩ := bind_eq_ok.1 he
      obtain ⟨-, rfl⟩ := pure_eq_ok.1 he
      exact Nat.lt_succ_of_lt (h _ hexpr)

theorem length_operations_le (h : ∀ strength, Shortens (reader strength)) {least : Nat}
    {left e : Expr} {tokens rest : List Token}
    (he : operations reader least left tokens = .ok e rest) : rest.length ≤ tokens.length := by
  fun_induction LineReader.operations reader least left tokens with
  | case1 =>
    cases he
    exact Nat.le_refl _
  | case2 =>
    cases he
    exact Nat.le_refl _
  | case3 =>
    cases he
    exact Nat.le_refl _
  | case4 => cases he
  | case5 left t tail op strength hop hlt right after hr hle ih =>
    exact Nat.le_succ_of_le (Nat.le_trans (ih he) hle)
  | case6 left t tail op strength hop hlt right after hr hgt =>
    exact absurd (Nat.le_of_lt (h _ hr)) hgt

theorem Shortens.exprWith (h : ∀ strength, Shortens (reader strength)) (least : Nat) :
    Shortens (exprWith reader least) := by
  intro tokens rest e he
  unfold LineReader.exprWith at he
  split at he
  · cases he
  · rename_i left mid hleft
    exact Nat.lt_of_le_of_lt (length_operations_le h he) (Shortens.operand h hleft)

/-- **What an expression leaves is shorter.** -/
theorem exprAbove_shortens (least : Nat) : Shortens (exprAbove least) := by
  intro tokens rest e he
  induction hn : tokens.length using Nat.strongRecOn generalizing least tokens rest e with
  | _ n ih =>
    subst hn
    rw [exprAbove] at he
    refine Shortens.exprWith (fun strength inside after e' he' => ?_) least he
    split_ifs at he' with hlt
    exact ih _ hlt strength he' rfl

/-! ### The test for what is shorter never fails -/

/-- Two readers that agree on less than `n` tokens. -/
def AgreeBelow (n : Nat) (reader reader' : LineReader Expr) : Prop :=
  ∀ tokens : List Token, tokens.length < n → reader tokens = reader' tokens

variable {n : Nat}

theorem AgreeBelow.argumentsFrom (h : AgreeBelow n inner inner') {tokens : List Token}
    (hn : tokens.length < n) : argumentsFrom inner tokens = argumentsFrom inner' tokens := by
  induction hk : tokens.length using Nat.strongRecOn generalizing tokens with
  | _ k ih =>
    subst hk
    rw [LineReader.argumentsFrom, LineReader.argumentsFrom.eq_def inner', h tokens hn]
    split
    · rfl
    · rfl
    · rename_i e rest _
      by_cases hlt : rest.length < tokens.length
      · rw [if_pos hlt, if_pos hlt, ih _ hlt (Nat.lt_trans hlt hn) rfl]
      · rw [if_neg hlt, if_neg hlt]
    · rfl

theorem AgreeBelow.atom (h : AgreeBelow n inner inner') :
    AgreeBelow (n + 1) (atom inner) (atom inner') := by
  intro tokens hn
  unfold LineReader.atom
  split
  · rfl
  · rfl
  · rename_i rest
    have hrest : inner rest = inner' rest := h rest (by simpa using hn)
    change EStateM.bind inner _ rest = EStateM.bind inner' _ rest
    unfold EStateM.bind
    rw [hrest]
  · rename_i x rest
    split_ifs
    · rfl
    · rfl
    · split
      · rename_i inside
        have hargs : arguments inner inside = arguments inner' inside := by
          unfold arguments
          split
          · rfl
          · exact h.argumentsFrom (by simp only [List.length_cons] at hn; omega)
        change EStateM.bind (arguments inner) _ inside = EStateM.bind (arguments inner') _ inside
        unfold EStateM.bind
        rw [hargs]
      · rfl
  · rfl

theorem AgreeBelow.operand (h : ∀ strength, AgreeBelow n (reader strength) (reader' strength)) :
    AgreeBelow (n + 1) (operand reader) (operand reader') := by
  intro tokens hn
  cases tokens with
  | nil =>
    rw [operand_of_none (by simp), operand_of_none (by simp)]
    exact (h _).atom _ hn
  | cons t tail =>
    cases ht : sign? t with
    | none =>
      rw [operand_of_none (by simpa using ht), operand_of_none (by simpa using ht)]
      exact (h _).atom _ hn
    | some op =>
      rw [operand_of_some ht, operand_of_some ht]
      change EStateM.bind (reader Strength.sign) _ tail = EStateM.bind (reader' Strength.sign) _ tail
      unfold EStateM.bind
      rw [h Strength.sign tail (Nat.lt_of_succ_lt_succ hn)]

theorem AgreeBelow.operations (h : ∀ strength, AgreeBelow n (reader strength) (reader' strength))
    (least : Nat) (left : Expr) {tokens : List Token} (hn : tokens.length ≤ n) :
    operations reader least left tokens = operations reader' least left tokens := by
  induction hk : tokens.length using Nat.strongRecOn generalizing tokens left with
  | _ k ih =>
    subst hk
    rw [LineReader.operations.eq_def reader, LineReader.operations.eq_def reader']
    cases tokens with
    | nil => rfl
    | cons t tail =>
      dsimp only
      split
      · rfl
      · rename_i op strength _
        rw [h strength tail hn]
        split
        · rfl
        · split
          · rfl
          · rename_i right after _
            by_cases hle : after.length ≤ tail.length
            · rw [if_pos hle, if_pos hle]
              simp only [List.length_cons] at hn ih
              exact ih after.length (by omega) _ (by omega) rfl
            · rw [if_neg hle, if_neg hle]

/-- **Inside an expression, expressions are read.** -/
theorem exprAbove_eq (least : Nat) (tokens : List Token) :
    exprAbove least tokens = exprWith exprAbove least tokens := by
  have hagree (strength : Nat) : AgreeBelow tokens.length (fun inside =>
      if inside.length < tokens.length then exprAbove strength inside
      else .error .expression inside) (exprAbove strength) :=
    fun inside h => if_pos h
  have hoperand := AgreeBelow.operand hagree tokens (Nat.lt_succ_self _)
  rw [exprAbove]
  unfold exprWith
  rw [hoperand]
  cases hleft : operand exprAbove tokens with
  | error wanted rest => rfl
  | ok left rest =>
    have hlt := Shortens.operand exprAbove_shortens hleft
    exact AgreeBelow.operations hagree least left (Nat.le_of_lt hlt)

end

/-! ### The loop over operators -/

section

variable {reader : Nat → LineReader Expr} {least : Nat} {left right : Expr}

theorem operations_of_weak {tokens : List Token}
    (h : ∀ t ∈ tokens.head?, ∀ op strength, operator? t = some (op, strength) → strength ≤ least) :
    operations reader least left tokens = .ok left tokens := by
  rw [operations.eq_def]
  cases tokens with
  | nil => rfl
  | cons t tail =>
    dsimp only
    split
    · rfl
    · rename_i op strength ht
      rw [if_pos (h t rfl op strength ht)]

theorem operations_of_ok {t : Token} {op : BinaryOp} {strength : Nat} {tail after : List Token}
    (ht : operator? t = some (op, strength)) (hlt : least < strength)
    (hr : reader strength tail = .ok right after) (hle : after.length ≤ tail.length) :
    operations reader least left (t :: tail) =
      operations reader least (.binary op left right) after := by
  rw [operations.eq_def]
  simp only [ht, if_neg (Nat.not_le_of_lt hlt), hr, if_pos hle]

theorem operations_of_error {t : Token} {op : BinaryOp} {strength : Nat} {tail after : List Token}
    {wanted : Wanted} (ht : operator? t = some (op, strength)) (hlt : least < strength)
    (hr : reader strength tail = .error wanted after) :
    operations reader least left (t :: tail) = .error wanted after := by
  rw [operations.eq_def]
  simp only [ht, if_neg (Nat.not_le_of_lt hlt), hr]

end

/-! ### Each strength is a level -/

/-- No operator binds more strongly than a factor does. -/
theorem exprAbove_of_factor_le {least : Nat} (h : Strength.factor ≤ least) (tokens : List Token) :
    exprAbove least tokens = operand exprAbove tokens := by
  rw [exprAbove_eq]
  unfold exprWith
  cases operand exprAbove tokens with
  | error wanted rest => rfl
  | ok left rest =>
    exact operations_of_weak fun t _ op strength ht => Nat.le_trans (le_factor_of_operator? ht) h

theorem operand_eq_signed (tokens : List Token) :
    operand exprAbove tokens = signed (atom expr) tokens := by
  induction tokens with
  | nil =>
    rw [operand_of_none (by simp), signed_of_none (by simp)]
    rfl
  | cons t tail ih =>
    cases ht : sign? t with
    | none =>
      rw [operand_of_none (by simpa using ht), signed_of_none (by simpa using ht)]
      rfl
    | some op =>
      have hsign : exprAbove Strength.sign tail = signed (atom expr) tail := by
        rw [exprAbove_of_factor_le (by decide), ih]
      rw [operand_of_some ht, signed_of_some ht, ← hsign]
      cases hread : exprAbove Strength.sign tail with
      | ok e rest => exact bind_of_ok hread
      | error wanted rest => exact bind_of_error hread

/-- **At the strength of a factor, a signed atom is read.** -/
theorem exprAbove_factor : exprAbove Strength.factor = signed (atom expr) := by
  funext tokens
  rw [exprAbove_of_factor_le (Nat.le_refl _), operand_eq_signed]

/-- The loop over operators stands between factors only. -/
theorem operations_term (left : Expr) (tokens : List Token) :
    operations exprAbove Strength.term left tokens =
      chainFrom factorOperator? (exprAbove Strength.factor) left tokens := by
  induction hn : tokens.length using Nat.strongRecOn generalizing tokens left with
  | _ n ih =>
    subst hn
    cases tokens with
    | nil => rw [operations_of_weak (by simp), chainFrom_of_none (by simp)]
    | cons t tail =>
      cases ht : factorOperator? t with
      | none =>
        have hweak : ∀ u ∈ (t :: tail).head?, ∀ op strength,
            operator? u = some (op, strength) → strength ≤ Strength.term := by
          rintro u hu op strength
          cases hu
          exact le_term_of_operator? ht
        rw [operations_of_weak hweak, chainFrom_of_none (by simpa using ht)]
      | some op =>
        have hop := operator?_of_factorOperator? ht
        cases hr : exprAbove Strength.factor tail with
        | error wanted after =>
          rw [operations_of_error hop (by decide) hr, chainFrom_of_error ht hr]
        | ok right after =>
          have hlt := exprAbove_shortens _ hr
          rw [operations_of_ok hop (by decide) hr (Nat.le_of_lt hlt),
            chainFrom_of_some ht hr (Nat.le_of_lt hlt)]
          exact ih _ (Nat.lt_succ_of_lt hlt) _ _ rfl

/-- **At the strength of a term, a product is read.** -/
theorem exprAbove_term :
    exprAbove Strength.term = chain factorOperator? (exprAbove Strength.factor) := by
  funext tokens
  rw [exprAbove_eq]
  unfold exprWith chain
  rw [exprAbove_of_factor_le (Nat.le_refl Strength.factor) tokens]
  cases operand exprAbove tokens with
  | error wanted rest => rfl
  | ok left rest => exact operations_term left rest

/-- No operator between factors follows a product. -/
theorem factorOperator?_of_exprAbove_term {tokens rest : List Token} {e : Expr}
    (h : exprAbove Strength.term tokens = .ok e rest) :
    ∀ t ∈ rest.head?, factorOperator? t = none := by
  rw [exprAbove_term] at h
  unfold chain at h
  split at h
  · cases h
  · exact head_of_chainFrom (fun _ _ _ hr => Nat.le_of_lt (exprAbove_shortens _ hr)) h

/-- **At the lowest strength, the loop goes on with the product that it is in**, and then with
further terms. -/
theorem operations_lowest (left : Expr) (tokens : List Token) :
    operations exprAbove Strength.lowest left tokens =
      match chainFrom factorOperator? (exprAbove Strength.factor) left tokens with
      | .error wanted rest => .error wanted rest
      | .ok product rest => chainFrom termOperator? (exprAbove Strength.term) product rest := by
  induction hn : tokens.length using Nat.strongRecOn generalizing tokens left with
  | _ n ih =>
    subst hn
    cases tokens with
    | nil =>
      rw [operations_of_weak (by simp), chainFrom_of_none (by simp)]
      exact (chainFrom_of_none (by simp)).symm
    | cons t tail =>
      cases hf : factorOperator? t with
      | some op =>
        have hop := operator?_of_factorOperator? hf
        cases hr : exprAbove Strength.factor tail with
        | error wanted after =>
          rw [operations_of_error hop (by decide) hr, chainFrom_of_error hf hr]
        | ok right after =>
          have hlt := exprAbove_shortens _ hr
          rw [operations_of_ok hop (by decide) hr (Nat.le_of_lt hlt),
            chainFrom_of_some hf hr (Nat.le_of_lt hlt)]
          exact ih _ (Nat.lt_succ_of_lt hlt) _ _ rfl
      | none =>
        rw [chainFrom_of_none (by simpa using hf)]
        dsimp only
        cases ht : termOperator? t with
        | none =>
          have hnone := operator?_eq_none hf ht
          rw [operations_of_weak (by simp [hnone]), chainFrom_of_none (by simpa using ht)]
        | some op =>
          have hop := operator?_of_termOperator? ht
          cases hr : exprAbove Strength.term tail with
          | error wanted after =>
            rw [operations_of_error hop (by decide) hr, chainFrom_of_error ht hr]
          | ok right after =>
            -- The right operand is a whole product, so the loop is not in one after it.
            have hlt := exprAbove_shortens _ hr
            have hhead := factorOperator?_of_exprAbove_term hr
            rw [operations_of_ok hop (by decide) hr (Nat.le_of_lt hlt),
              ih _ (Nat.lt_succ_of_lt hlt) _ _ rfl, chainFrom_of_none hhead,
              chainFrom_of_some ht hr (Nat.le_of_lt hlt)]

/-- **An expression is a sum of products of signed atoms that hold expressions.** -/
theorem expr_eq_sumWith (tokens : List Token) : expr tokens = sumWith expr tokens := by
  have hsum : sumWith expr = chain termOperator? (exprAbove Strength.term) := by
    rw [exprAbove_term, exprAbove_factor, sumWith]
  have hproduct := congrFun exprAbove_term tokens
  rw [hsum, expr, exprAbove_eq]
  unfold chain at hproduct ⊢
  unfold exprWith
  rw [hproduct, exprAbove_of_factor_le (Nat.le_refl Strength.factor) tokens]
  cases operand exprAbove tokens with
  | error wanted rest => rfl
  | ok left rest => exact operations_lowest left rest

end Laoke.Script.LineReader
