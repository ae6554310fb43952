import Laoke.Pipeline
import Mathlib.Data.Rat.Floor
import Mathlib.Tactic.Linarith

/-!
# Exact arithmetic

An operator on two integers gives the exact result or says why there is none.
For sums, differences and products this is how they are defined.  A quotient is
rounded down in two steps: it is first rounded toward zero, and then lowered by
one where that was upwards.  Texts are repeated exactly as well, as long as there
is a text of that length; a number is enough to ask for one that there is not, and
that is no error like the others.

* `floor_div_eq`: the two steps give the floor of the exact quotient.
* `isWord_tdiv_iff`: only one quotient is out of bounds, that of the least integer
  by `-1`.
* `isWord_tmod`, `isWord_tdiv_sub_one`: neither the remainder nor the second step
  ever is.
-/

namespace Laoke.Script

/-- A signed number of 64 bits. -/
def IsWord (n : Int) : Prop :=
  -2 ^ 63 ≤ n ∧ n ≤ 2 ^ 63 - 1

instance (n : Int) : Decidable (IsWord n) :=
  inferInstanceAs (Decidable (_ ∧ _))

theorem inBounds_iff {n : Int} : inBounds n = true ↔ IsWord n := by
  rw [inBounds, Bool.and_eq_true, decide_eq_true_iff, decide_eq_true_iff, leastInteger,
    greatestInteger, IsWord]
  norm_num

/-! ### The remainder -/

/-- The remainder of a quotient rounded toward zero has the sign of the dividend. -/
theorem tmod_sign (a b : Int) : (0 ≤ a → 0 ≤ a.tmod b) ∧ (a ≤ 0 → a.tmod b ≤ 0) := by
  constructor
  · exact Int.tmod_nonneg b
  · intro ha
    have hneg := Int.tmod_nonneg b (Int.neg_nonneg_of_nonpos ha)
    rw [Int.neg_tmod] at hneg
    omega

theorem natAbs_tmod_lt (a : Int) {b : Int} (hb : b ≠ 0) : (a.tmod b).natAbs < b.natAbs := by
  rw [Int.natAbs_tmod]
  exact Nat.mod_lt _ (by omega)

/-- **The floor of a quotient** is the number that leaves a remainder between zero and the divisor. -/
theorem floor_div_eq_iff {a b q : Int} (hb : b ≠ 0) :
    ⌊(a / b : ℚ)⌋ = q ↔
      0 < b ∧ 0 ≤ a - q * b ∧ a - q * b < b ∨ b < 0 ∧ a - q * b ≤ 0 ∧ b < a - q * b := by
  rw [Int.floor_eq_iff]
  rcases lt_or_gt_of_ne hb with hneg | hpos
  · have hneg' : (b : ℚ) < 0 := by exact_mod_cast hneg
    rw [le_div_iff_of_neg hneg', div_lt_iff_of_neg hneg']
    norm_cast
    constructor
    · rintro ⟨hle, hlt⟩
      exact .inr ⟨hneg, by linarith, by linarith⟩
    · rintro (⟨hpos, -⟩ | ⟨-, hle, hlt⟩)
      · omega
      · exact ⟨by linarith, by linarith⟩
  · have hpos' : (0 : ℚ) < b := by exact_mod_cast hpos
    rw [le_div_iff₀ hpos', div_lt_iff₀ hpos']
    norm_cast
    constructor
    · rintro ⟨hle, hlt⟩
      exact .inl ⟨hpos, by linarith, by linarith⟩
    · rintro (⟨-, hle, hlt⟩ | ⟨hneg, -⟩)
      · exact ⟨by linarith, by linarith⟩
      · omega

/-- **Rounding down in two steps.**  A quotient rounded toward zero is too large by one exactly if it
was rounded upwards, that is, if something remains and the signs differ. -/
theorem floor_div_eq {a b : Int} (hb : b ≠ 0) :
    ⌊(a / b : ℚ)⌋ =
      if a.tmod b ≠ 0 ∧ ¬ (a < 0 ↔ b < 0) then a.tdiv b - 1 else a.tdiv b := by
  have hrest : a - a.tdiv b * b = a.tmod b := by
    have hsplit := Int.tdiv_mul_add_tmod a b
    omega
  have hrest' : a - (a.tdiv b - 1) * b = a.tmod b + b := by
    rw [Int.sub_mul, Int.one_mul]
    omega
  have hlt := natAbs_tmod_lt a hb
  obtain ⟨hnonneg, hnonpos⟩ := tmod_sign a b
  rw [floor_div_eq_iff hb]
  split
  · rw [hrest']
    omega
  · rw [hrest]
    omega

/-! ### Bounds -/

/-- By two or more, a quotient is at most half as large. -/
theorem natAbs_tdiv_le_half (a : Int) {b : Int} (hb : 2 ≤ b.natAbs) :
    (a.tdiv b).natAbs ≤ a.natAbs / 2 := by
  rw [Int.natAbs_tdiv]
  exact Nat.div_le_div_left hb (by decide)

/-- **Only one quotient is out of bounds.** -/
theorem isWord_tdiv_iff {a b : Int} (ha : IsWord a) (hb : b ≠ 0) :
    IsWord (a.tdiv b) ↔ ¬ (a = -2 ^ 63 ∧ b = -1) := by
  unfold IsWord at ha ⊢
  by_cases hone : b = 1
  · subst hone
    rw [Int.tdiv_one]
    omega
  · by_cases hminus : b = -1
    · subst hminus
      rw [Int.tdiv_neg, Int.tdiv_one]
      omega
    · have hhalf := natAbs_tdiv_le_half a (b := b) (by omega)
      omega

theorem isWord_tmod {a : Int} (ha : IsWord a) (b : Int) : IsWord (a.tmod b) := by
  have habs : (a.tmod b).natAbs ≤ a.natAbs := by
    rw [Int.natAbs_tmod]
    exact Nat.mod_le _ _
  obtain ⟨hnonneg, hnonpos⟩ := tmod_sign a b
  unfold IsWord at ha ⊢
  omega

/-- **Where something remains, there is room below the quotient.** -/
theorem isWord_tdiv_sub_one {a b : Int} (ha : IsWord a) (hb : b ≠ 0) (hr : a.tmod b ≠ 0) :
    IsWord (a.tdiv b - 1) := by
  -- Nothing remains by one, so the divisor is two at least.
  have hlt := natAbs_tmod_lt a hb
  have hhalf := natAbs_tdiv_le_half a (b := b) (by omega)
  unfold IsWord at ha ⊢
  omega

/-! ### Operators -/

/-- The exact result of an operator on two integers.  A quotient is rounded down, and there is none by
zero. -/
def BinaryOp.exact? : BinaryOp → Int → Int → Option Int
  | .add, a, b => some (a + b)
  | .sub, a, b => some (a - b)
  | .mul, a, b => some (a * b)
  | .div, a, b => if b = 0 then none else some ⌊(a / b : ℚ)⌋

/-- Whether an operator joins values of the types of the given ones. -/
def BinaryOp.Joins : BinaryOp → Value → Value → Prop
  | _, .int _, .int _ => True
  | .add, .str _, .str _ => True
  | .mul, .str _, .int _ => True
  | .mul, .int _, .str _ => True
  | _, _, _ => False

namespace Value

theorem ofExact_eq (n : Int) :
    ofExact n = if IsWord n then .ok (.int n) else .error .overflow := by
  unfold ofExact
  simp only [inBounds_iff]

theorem quotient?_eq_some {a b : Int} (ha : IsWord a) (hb : b ≠ 0)
    (h : ¬ (a = -2 ^ 63 ∧ b = -1)) : quotient? a b = some (a.tdiv b) := by
  have hword := inBounds_iff.2 ((isWord_tdiv_iff ha hb).2 h)
  simp [quotient?, hb, hword]

theorem quotient?_least : quotient? (-2 ^ 63) (-1) = Option.none := by
  decide

/-- **Division is exact**, in all but one case. -/
theorem floorDiv_of_ne {a b : Int} (ha : IsWord a) (hb : b ≠ 0) (h : ¬ (a = -2 ^ 63 ∧ b = -1)) :
    IsWord ⌊(a / b : ℚ)⌋ ∧ floorDiv a b = .ok (.int ⌊(a / b : ℚ)⌋) := by
  have hsigns : (a.tmod b ≠ 0 && (a < 0) != (b < 0)) = true ↔
      a.tmod b ≠ 0 ∧ ¬ (a < 0 ↔ b < 0) := by
    simp
  rw [floorDiv, quotient?_eq_some ha hb h, floor_div_eq hb]
  dsimp only
  by_cases hround : a.tmod b ≠ 0 ∧ ¬ (a < 0 ↔ b < 0)
  · rw [if_pos hround, if_pos (hsigns.2 hround)]
    exact ⟨isWord_tdiv_sub_one ha hb hround.1, rfl⟩
  · rw [if_neg hround, if_neg (mt hsigns.1 hround)]
    exact ⟨(isWord_tdiv_iff ha hb).2 h, rfl⟩

theorem floor_least_div : ⌊((-2 ^ 63 : Int) / (-1 : Int) : ℚ)⌋ = 2 ^ 63 := by
  rw [floor_div_eq (by decide)]
  decide

theorem floorDiv_eq {a b : Int} (ha : IsWord a) (hb : b ≠ 0) :
    floorDiv a b =
      if IsWord ⌊(a / b : ℚ)⌋ then .ok (.int ⌊(a / b : ℚ)⌋) else .error .overflow := by
  by_cases h : a = -2 ^ 63 ∧ b = -1
  · obtain ⟨rfl, rfl⟩ := h
    rw [floor_least_div, floorDiv, quotient?_least]
    rfl
  · obtain ⟨hword, hdiv⟩ := floorDiv_of_ne ha hb h
    rw [hdiv, if_pos hword]

theorem binary_int (op : BinaryOp) {a : Int} (ha : IsWord a) (b : Int) :
    binary op (.int a) (.int b) =
      match op.exact? a b with
      | .none => .error .divisionByZero
      | some n => if IsWord n then .ok (.int n) else .error .overflow := by
  cases op with
  | add => exact ofExact_eq _
  | sub => exact ofExact_eq _
  | mul => exact ofExact_eq _
  | div =>
    rw [binary, BinaryOp.exact?]
    by_cases hb : b = 0
    · rw [if_pos hb, if_pos hb]
    · rw [if_neg hb, if_neg hb]
      exact floorDiv_eq ha hb

theorem binary_div_eq_overflow_iff {a : Int} (ha : IsWord a) (b : Int) :
    binary .div (.int a) (.int b) = .error .overflow ↔ a = -2 ^ 63 ∧ b = -1 := by
  constructor
  · intro h
    by_contra hnot
    by_cases hb : b = 0
    · rw [binary, if_pos hb] at h
      cases h
    · rw [binary, if_neg hb, (floorDiv_of_ne ha hb hnot).2] at h
      cases h
  · rintro ⟨rfl, rfl⟩
    rw [binary, floorDiv, quotient?_least]
    rfl

theorem binary_of_not_joins {op : BinaryOp} {l r : Value} (h : ¬ op.Joins l r) :
    binary op l r = .error (.binaryType op l.typeName r.typeName) := by
  unfold binary
  split
  case h_8 => rfl
  all_goals exact absurd trivial h

/-- **No step of a division leaves the bounds**: neither the quotient rounded toward zero, nor the
remainder, which is not asked for where the quotient has no room, nor one less than the quotient. -/
theorem isWord_of_quotient? {a b q : Int} (ha : IsWord a) (h : quotient? a b = some q) :
    IsWord q ∧ ¬ (a = -2 ^ 63 ∧ b = -1) ∧ IsWord (a.tmod b) ∧ (a.tmod b ≠ 0 → IsWord (q - 1)) := by
  unfold quotient? at h
  split at h
  · rename_i hsome
    cases h
    rw [Bool.and_eq_true, decide_eq_true_iff, inBounds_iff] at hsome
    obtain ⟨hb, hword⟩ := hsome
    exact ⟨hword, (isWord_tdiv_iff ha hb).1 hword, isWord_tmod ha b, isWord_tdiv_sub_one ha hb⟩
  · cases h

theorem unary_of_not_int (op : UnaryOp) {v : Value} (h : ∀ n, v ≠ .int n) :
    unary op v = .error (.unaryType op v.typeName) := by
  unfold unary
  split
  · exact absurd rfl (h _)
  · exact absurd rfl (h _)
  · rfl

end Value

/-- **Arithmetic is exact or a fault.**  On integers an operator gives the exact result, a quotient
rounded down, if that is a number of 64 bits, and nothing in between is out of bounds; a quotient is
too large in one case only.  Texts are joined.  They are repeated as often as a number says, which is
not at all if it is negative, if the text that this comes to has less than `2 ^ 63` bytes; one that
has more is the only fault that ends the program.  Everything else is an error of types. -/
theorem arithmetic_exact_or_fault {a : Int} (ha : IsWord a) (b : Int) (s s' : String) :
    (∀ op : BinaryOp, Value.binary op (.int a) (.int b) =
      match op.exact? a b with
      | none => .error .divisionByZero
      | some n => if IsWord n then .ok (.int n) else .error .overflow) ∧
    (Value.binary .div (.int a) (.int b) = .error .overflow ↔ a = -2 ^ 63 ∧ b = -1) ∧
    (∀ q, Value.quotient? a b = some q →
      IsWord q ∧ ¬ (a = -2 ^ 63 ∧ b = -1) ∧ IsWord (a.tmod b) ∧
        (a.tmod b ≠ 0 → IsWord (q - 1))) ∧
    Value.binary .add (.str s) (.str s') = .ok (.str (s ++ s')) ∧
    (∀ n : Int, ∃ text : String,
      text.toList = (List.replicate (max 0 n).toNat s.toList).flatten ∧
        text.utf8ByteSize = s.utf8ByteSize * (max 0 n).toNat ∧
        Value.binary .mul (.str s) (.int n) =
          (if text.utf8ByteSize ≤ 2 ^ 63 - 1 then .ok (.str text) else .error .tooLong) ∧
        Value.binary .mul (.int n) (.str s) = Value.binary .mul (.str s) (.int n)) ∧
    (∀ fault, (Laoke.Error.execution (.ofArithmetic fault)).isFatal = true ↔ fault = .tooLong) ∧
    (∀ (op : BinaryOp) (l r : Value), ¬ op.Joins l r →
      Value.binary op l r = .error (.binaryType op l.typeName r.typeName)) ∧
    (∀ n : Int, Value.unary .neg (.int n) =
      if IsWord (-n) then .ok (.int (-n)) else .error .overflow) ∧
    (∀ n : Int, Value.unary .pos (.int n) = .ok (.int n)) ∧
    ∀ (op : UnaryOp) (v : Value), (∀ n, v ≠ .int n) →
      Value.unary op v = .error (.unaryType op v.typeName) := by
  refine ⟨fun op => Value.binary_int op ha b, Value.binary_div_eq_overflow_iff ha b,
    fun q hq => Value.isWord_of_quotient? ha hq, rfl, fun n => ?_,
    fun fault => ?_, fun op l r h => Value.binary_of_not_joins h, fun n => Value.ofExact_eq (-n),
    fun n => rfl, fun op v h => Value.unary_of_not_int op h⟩
  · have hcount : (max 0 n).toNat = n.toNat := by omega
    have hsize := Text.utf8ByteSize_repeated s n.toNat
    refine ⟨Text.repeated s n.toNat, ?_, ?_, ?_, rfl⟩
    · rw [hcount]
      exact Text.toList_repeated s n.toNat
    · rw [hcount, hsize]
    · rw [hsize]
      rfl
  · cases fault <;> simp [Error.ofArithmetic, Laoke.Error.isFatal]

/-- The least integer by `-1` and by `3`: out of bounds, and rounded down in two steps.  And the
longest text that two characters can be repeated to. -/
theorem arithmetic_exact_or_fault_least :
    Value.binary .div (.int (-2 ^ 63)) (.int (-1)) = .error .overflow ∧
    IsWord (-3074457345618258602 - 1) ∧
    Value.binary .div (.int (-2 ^ 63)) (.int 3) = .ok (.int (-3074457345618258603)) ∧
    ∃ text : String, Value.binary .mul (.str "ab") (.int 4611686018427387903) = .ok (.str text) ∧
      text.utf8ByteSize = 9223372036854775806 := by
  have hleast : IsWord (-2 ^ 63) := by decide
  obtain ⟨hexact, -, hsteps, -, hrepeated, -⟩ := arithmetic_exact_or_fault hleast 3 "ab" ""
  refine ⟨(arithmetic_exact_or_fault hleast (-1) "" "").2.1.2 ⟨rfl, rfl⟩, ?_, ?_, ?_⟩
  · have hq : Value.quotient? (-2 ^ 63) 3 = some (-3074457345618258602) := by decide
    exact (hsteps _ hq).2.2.2 (by decide)
  · have hfloor : ⌊((-2 ^ 63 : Int) / (3 : Int) : ℚ)⌋ = -3074457345618258603 := by
      rw [floor_div_eq (by decide)]
      decide
    rw [hexact .div, BinaryOp.exact?, if_neg (by decide), hfloor]
    rfl
  · obtain ⟨text, -, hsize, hmul, -⟩ := hrepeated 4611686018427387903
    have hbytes : text.utf8ByteSize = 9223372036854775806 := hsize.trans (by decide)
    rw [if_pos (by rw [hbytes]; decide)] at hmul
    exact ⟨text, hmul, hbytes⟩

/-- **Two characters and a number that is no larger than others are too much**: there is no text, and
the program that asks for it does not come back with an error. -/
theorem repetition_breaks_off :
    IsWord 9223372036854775807 ∧
      (∀ v, Value.binary .mul (.str "ab") (.int 9223372036854775807) ≠ .ok v) ∧
      run {} "唠唠：“ab”乘9223372036854775807。" = .error (.execution .tooLong) ∧
      (Laoke.Error.execution .tooLong).isFatal = true := by
  refine ⟨by decide, fun v h => ?_, by decide +kernel, rfl⟩
  have hfault : Value.binary .mul (.str "ab") (.int 9223372036854775807) = .error .tooLong := by
    decide +kernel
  rw [hfault] at h
  cases h

end Laoke.Script
