import Laoke.Script.Expression
import Mathlib.Data.List.Basic

/-!
# Chains of operands

Two shapes make up the grammar of expressions, both of programs and of scripts:
operands joined by operators that group to the left (`Chained`), and an operand
under signs (`Signed`).  They are stated for any kind of token and of tree.

* `Translates.chained`, `Translates.signed`: a translation of tokens and trees
  that keeps operators and operands keeps what is built from them.
* `chain`, `signed`: readers of the shapes, level by level.
* `Takes.chain`, `Takes.signed`: what a reader takes has the shape.
* `Finds.chain`, `Finds.signed`: what has the shape is taken, unless more of it
  follows.
-/

namespace Laoke

open Script (BinaryOp UnaryOp)

section Shapes

variable {τ α τ' α' : Type}

/-- Operands joined by operators, grouping to the left. -/
inductive Chained (operator? : τ → Option BinaryOp) (join : BinaryOp → α → α → α)
    (operand : List τ → α → Prop) : List τ → α → Prop
  | one {ts : List τ} {a : α} (h : operand ts a) : Chained operator? join operand ts a
  | more {front back : List τ} {t : τ} {op : BinaryOp} {a b : α}
      (hfront : Chained operator? join operand front a) (ht : operator? t = some op)
      (hback : operand back b) :
      Chained operator? join operand (front ++ t :: back) (join op a b)

/-- An operand under any number of signs. -/
inductive Signed (sign? : τ → Option UnaryOp) (mark : UnaryOp → α → α)
    (operand : List τ → α → Prop) : List τ → α → Prop
  | bare {ts : List τ} {a : α} (h : operand ts a) : Signed sign? mark operand ts a
  | sign {ts : List τ} {t : τ} {op : UnaryOp} {a : α} (ht : sign? t = some op)
      (h : Signed sign? mark operand ts a) : Signed sign? mark operand (t :: ts) (mark op a)

/-! ### Tokens of a shape -/

theorem Chained.forall_mem {operator? : τ → Option BinaryOp} {join : BinaryOp → α → α → α}
    {operand : List τ → α → Prop} {q : τ → Prop} (hop : ∀ t op, operator? t = some op → q t)
    (hoperand : ∀ ts a, operand ts a → ∀ t ∈ ts, q t) {ts : List τ} {a : α}
    (h : Chained operator? join operand ts a) : ∀ t ∈ ts, q t := by
  induction h with
  | one h => exact hoperand _ _ h
  | more _ ht hback ih =>
    refine List.forall_mem_append.2 ⟨ih, List.forall_mem_cons.2 ⟨hop _ _ ht, ?_⟩⟩
    exact hoperand _ _ hback

theorem Signed.forall_mem {sign? : τ → Option UnaryOp} {mark : UnaryOp → α → α}
    {operand : List τ → α → Prop} {q : τ → Prop} (hsign : ∀ t op, sign? t = some op → q t)
    (hoperand : ∀ ts a, operand ts a → ∀ t ∈ ts, q t) {ts : List τ} {a : α}
    (h : Signed sign? mark operand ts a) : ∀ t ∈ ts, q t := by
  induction h with
  | bare h => exact hoperand _ _ h
  | sign ht _ ih => exact List.forall_mem_cons.2 ⟨hsign _ _ ht, ih⟩

/-- What a tree inherits from its tokens, if its operands do. -/
theorem Chained.tree {operator? : τ → Option BinaryOp} {join : BinaryOp → α → α → α}
    {operand : List τ → α → Prop} {q : τ → Prop} {r : α → Prop}
    (hjoin : ∀ op a b, r a → r b → r (join op a b))
    (hoperand : ∀ ts a, operand ts a → (∀ t ∈ ts, q t) → r a) {ts : List τ} {a : α}
    (h : Chained operator? join operand ts a) (hq : ∀ t ∈ ts, q t) : r a := by
  induction h with
  | one h => exact hoperand _ _ h hq
  | more _ _ hback ih =>
    obtain ⟨hfront, hrest⟩ := List.forall_mem_append.1 hq
    exact hjoin _ _ _ (ih hfront) (hoperand _ _ hback (List.forall_mem_cons.1 hrest).2)

theorem Signed.tree {sign? : τ → Option UnaryOp} {mark : UnaryOp → α → α}
    {operand : List τ → α → Prop} {q : τ → Prop} {r : α → Prop} (hmark : ∀ op a, r a → r (mark op a))
    (hoperand : ∀ ts a, operand ts a → (∀ t ∈ ts, q t) → r a) {ts : List τ} {a : α}
    (h : Signed sign? mark operand ts a) (hq : ∀ t ∈ ts, q t) : r a := by
  induction h with
  | bare h => exact hoperand _ _ h hq
  | sign _ _ ih => exact hmark _ _ (ih (List.forall_mem_cons.1 hq).2)

/-- Operands may be traded for others, as long as they are no longer than the whole. -/
theorem Chained.imp {operator? : τ → Option BinaryOp} {join : BinaryOp → α → α → α}
    {operand operand' : List τ → α → Prop} {n : Nat}
    (himp : ∀ ts a, ts.length ≤ n → operand ts a → operand' ts a) {ts : List τ} {a : α}
    (h : Chained operator? join operand ts a) (hn : ts.length ≤ n) :
    Chained operator? join operand' ts a := by
  induction h with
  | one h => exact .one (himp _ _ hn h)
  | more _ ht hback ih =>
    simp only [List.length_append, List.length_cons] at hn
    exact .more (ih (by omega)) ht (himp _ _ (by omega) hback)

theorem Signed.imp {sign? : τ → Option UnaryOp} {mark : UnaryOp → α → α}
    {operand operand' : List τ → α → Prop} {n : Nat}
    (himp : ∀ ts a, ts.length ≤ n → operand ts a → operand' ts a) {ts : List τ} {a : α}
    (h : Signed sign? mark operand ts a) (hn : ts.length ≤ n) :
    Signed sign? mark operand' ts a := by
  induction h with
  | bare h => exact .bare (himp _ _ hn h)
  | sign ht _ ih => exact .sign ht (ih (Nat.le_of_succ_le hn))

/-! ### Translations -/

/-- A translation of operands, in both directions. -/
def Translates (g : τ → τ') (h : α → α') (operand : List τ → α → Prop)
    (operand' : List τ' → α' → Prop) : Prop :=
  ∀ ts a', operand' (ts.map g) a' ↔ ∃ a, operand ts a ∧ a' = h a

variable {g : τ → τ'} {h : α → α'} {operand : List τ → α → Prop} {operand' : List τ' → α' → Prop}

theorem Translates.chained {operator? : τ → Option BinaryOp} {operator?' : τ' → Option BinaryOp}
    {join : BinaryOp → α → α → α} {join' : BinaryOp → α' → α' → α'}
    (hr : Translates g h operand operand') (hop : ∀ t, operator?' (g t) = operator? t)
    (hjoin : ∀ op a b, h (join op a b) = join' op (h a) (h b)) :
    Translates g h (Chained operator? join operand) (Chained operator?' join' operand') := by
  intro ts a'
  constructor
  · intro hc
    generalize hts : ts.map g = ts' at hc
    induction hc generalizing ts with
    | one hone =>
      obtain ⟨a, ha, rfl⟩ := (hr ts _).1 (hts ▸ hone)
      exact ⟨a, .one ha, rfl⟩
    | more _ ht hback ih =>
      obtain ⟨front, more, rfl, hfront, hmore⟩ := List.map_eq_append_iff.1 hts
      obtain ⟨t, back, rfl, rfl, rfl⟩ := List.map_eq_cons_iff.1 hmore
      obtain ⟨a, ha, rfl⟩ := ih front hfront
      obtain ⟨b, hb, rfl⟩ := (hr back _).1 hback
      exact ⟨_, .more ha (hop t ▸ ht) hb, (hjoin _ _ _).symm⟩
  · rintro ⟨a, ha, rfl⟩
    induction ha with
    | one hone => exact .one ((hr _ _).2 ⟨_, hone, rfl⟩)
    | more _ ht hback ih =>
      rw [List.map_append, List.map_cons, hjoin]
      exact .more ih ((hop _).trans ht) ((hr _ _).2 ⟨_, hback, rfl⟩)

theorem Translates.signed {sign? : τ → Option UnaryOp} {sign?' : τ' → Option UnaryOp}
    {mark : UnaryOp → α → α} {mark' : UnaryOp → α' → α'} (hr : Translates g h operand operand')
    (hsign : ∀ t, sign?' (g t) = sign? t) (hmark : ∀ op a, h (mark op a) = mark' op (h a)) :
    Translates g h (Signed sign? mark operand) (Signed sign?' mark' operand') := by
  intro ts a'
  constructor
  · intro hs
    generalize hts : ts.map g = ts' at hs
    induction hs generalizing ts with
    | bare hbare =>
      obtain ⟨a, ha, rfl⟩ := (hr ts _).1 (hts ▸ hbare)
      exact ⟨a, .bare ha, rfl⟩
    | sign ht _ ih =>
      obtain ⟨t, tail, rfl, rfl, htail⟩ := List.map_eq_cons_iff.1 hts
      obtain ⟨a, ha, rfl⟩ := ih tail htail
      exact ⟨_, .sign (hsign t ▸ ht) ha, (hmark _ _).symm⟩
  · rintro ⟨a, ha, rfl⟩
    induction ha with
    | bare hbare => exact .bare ((hr _ _).2 ⟨_, hbare, rfl⟩)
    | sign ht _ ih =>
      rw [List.map_cons, hmark]
      exact .sign ((hsign _).trans ht) ih

end Shapes

namespace Script.LineReader

variable {q : Token → Prop} {operator? : Token → Option BinaryOp} {operand : LineReader Expr}
  {shape : List Token → Expr → Prop} {follow : List Token → Prop}

/-! ### Readers of the shapes -/

/-- Goes on reading operators and operands after `left`, grouping to the left. -/
def chainFrom (operator? : Token → Option BinaryOp) (operand : LineReader Expr) (left : Expr)
    (tokens : List Token) : EStateM.Result Wanted (List Token) Expr :=
  match tokens with
  | [] => .ok left []
  | t :: rest =>
    match operator? t with
    | none => .ok left tokens
    | some op =>
      match operand rest with
      | .error wanted after => .error wanted after
      | .ok right after =>
        if after.length ≤ rest.length then
          chainFrom operator? operand (.binary op left right) after
        else .ok (.binary op left right) after
termination_by tokens.length

/-- Reads operands joined by operators. -/
def chain (operator? : Token → Option BinaryOp) (operand : LineReader Expr) : LineReader Expr :=
  fun tokens =>
    match operand tokens with
    | .error wanted rest => .error wanted rest
    | .ok left rest => chainFrom operator? operand left rest

/-- Reads an atom under any number of signs. -/
def signed (atom : LineReader Expr) : LineReader Expr
  | .minus :: rest =>
    match signed atom rest with
    | .ok e after => .ok (.unary .neg e) after
    | .error wanted after => .error wanted after
  | .plus :: rest =>
    match signed atom rest with
    | .ok e after => .ok (.unary .pos e) after
    | .error wanted after => .error wanted after
  | tokens => atom tokens

/-- From tokens with a property, a reader takes only what has a shape. -/
def Takes (q : Token → Prop) (reader : LineReader Expr) (shape : List Token → Expr → Prop) : Prop :=
  ∀ ⦃tokens rest : List Token⦄ ⦃e : Expr⦄, (∀ t ∈ tokens, q t) → reader tokens = .ok e rest →
    ∃ front, tokens = front ++ rest ∧ shape front e

/-- A reader takes all that has a shape, if what follows has a property. -/
def Finds (reader : LineReader Expr) (shape : List Token → Expr → Prop)
    (follow : List Token → Prop) : Prop :=
  ∀ ⦃front rest : List Token⦄ ⦃e : Expr⦄, shape front e → follow rest →
    reader (front ++ rest) = .ok e rest

/-! ### Chains -/

theorem Takes.chainFrom (h : Takes q operand shape) {taken tokens rest : List Token} {left e : Expr}
    (hleft : Chained operator? .binary shape taken left) (hq : ∀ t ∈ tokens, q t)
    (he : chainFrom operator? operand left tokens = .ok e rest) :
    ∃ front, tokens = front ++ rest ∧ Chained operator? .binary shape (taken ++ front) e := by
  fun_induction LineReader.chainFrom operator? operand left tokens generalizing taken with
  | case1 left =>
    cases he
    exact ⟨[], rfl, by simpa using hleft⟩
  | case2 left t tail hop =>
    cases he
    exact ⟨[], rfl, by simpa using hleft⟩
  | case3 => simp at he
  | case4 left t tail op hop right after hr hle ih =>
    obtain ⟨front, rfl, hfront⟩ := h (List.forall_mem_cons.1 hq).2 hr
    obtain ⟨back, rfl, hback⟩ := ih (.more hleft hop hfront)
      (List.forall_mem_append.1 (List.forall_mem_cons.1 hq).2).2 he
    exact ⟨t :: (front ++ back), by simp, by simpa using hback⟩
  | case5 left t tail op hop right after hr hlt =>
    obtain ⟨front, rfl, hfront⟩ := h (List.forall_mem_cons.1 hq).2 hr
    cases he
    exact ⟨t :: front, by simp, .more hleft hop hfront⟩

/-- **A chain is read as a chain.** -/
theorem Takes.chain (h : Takes q operand shape) :
    Takes q (chain operator? operand) (Chained operator? .binary shape) := by
  intro tokens rest e hq he
  unfold LineReader.chain at he
  split at he
  · simp at he
  · rename_i left mid hleft
    obtain ⟨front, rfl, hfront⟩ := h hq hleft
    obtain ⟨back, rfl, hback⟩ := h.chainFrom (.one hfront) (List.forall_mem_append.1 hq).2 he
    exact ⟨front ++ back, by simp, hback⟩

theorem chainFrom_of_none {left : Expr} {rest : List Token} (h : ∀ t ∈ rest.head?, operator? t = none) :
    chainFrom operator? operand left rest = .ok left rest := by
  cases rest with
  | nil => rw [chainFrom]
  | cons t tail => rw [chainFrom, h t rfl]

theorem chainFrom_of_some {left right : Expr} {t : Token} {op : BinaryOp} {tail after : List Token}
    (hop : operator? t = some op) (hr : operand tail = .ok right after)
    (hle : after.length ≤ tail.length) :
    chainFrom operator? operand left (t :: tail) =
      chainFrom operator? operand (.binary op left right) after := by
  rw [chainFrom, hop]
  simp only [hr, hle, ↓reduceIte]

theorem chainFrom_of_error {left : Expr} {t : Token} {op : BinaryOp} {tail after : List Token}
    {wanted : Wanted} (hop : operator? t = some op) (hr : operand tail = .error wanted after) :
    chainFrom operator? operand left (t :: tail) = .error wanted after := by
  rw [chainFrom, hop]
  simp only [hr]

/-- No operator of a chain follows it, if its operands do not add tokens. -/
theorem head_of_chainFrom
    (h : ∀ ⦃tokens rest e⦄, operand tokens = .ok e rest → rest.length ≤ tokens.length)
    {left e : Expr} {tokens rest : List Token}
    (he : chainFrom operator? operand left tokens = .ok e rest) :
    ∀ t ∈ rest.head?, operator? t = none := by
  fun_induction LineReader.chainFrom operator? operand left tokens with
  | case1 =>
    cases he
    simp
  | case2 left t tail hop =>
    cases he
    simpa using hop
  | case3 => simp at he
  | case4 left t tail op hop right after hr hle ih => exact ih he
  | case5 left t tail op hop right after hr hgt => exact absurd (h hr) hgt

/-- A chain is read up to whatever an operand cannot go on with. -/
theorem Finds.chain_eq (h : Finds operand shape follow)
    (hfollow : ∀ t op tail, operator? t = some op → follow (t :: tail)) {front : List Token}
    {e : Expr} (he : Chained operator? .binary shape front e) {rest : List Token}
    (hrest : follow rest) :
    LineReader.chain operator? operand (front ++ rest) = chainFrom operator? operand e rest := by
  induction he generalizing rest with
  | one hone =>
    unfold LineReader.chain
    rw [h hone hrest]
  | more _ ht hback ih =>
    rw [List.append_assoc, List.cons_append, ih (hfollow _ _ _ ht),
      chainFrom_of_some ht (h hback hrest) (by simp)]

/-- **A chain is found**, if neither an operator nor more of its last operand follows. -/
theorem Finds.chain (h : Finds operand shape follow)
    (hfollow : ∀ t op tail, operator? t = some op → follow (t :: tail)) :
    Finds (LineReader.chain operator? operand) (Chained operator? .binary shape)
      fun rest => follow rest ∧ ∀ t ∈ rest.head?, operator? t = none := by
  intro front rest e he hrest
  rw [h.chain_eq hfollow he hrest.1, chainFrom_of_none hrest.2]

/-! ### Signs -/

/-- The sign that a token is. -/
def sign? : Token → Option UnaryOp
  | .minus => some .neg
  | .plus => some .pos
  | _ => none

theorem signed_of_none {atom : LineReader Expr} {tokens : List Token}
    (h : ∀ t ∈ tokens.head?, sign? t = none) : signed atom tokens = atom tokens := by
  rw [signed.eq_def]
  split
  · exact absurd (h _ rfl) (by simp [sign?])
  · exact absurd (h _ rfl) (by simp [sign?])
  · rfl

theorem signed_of_some {atom : LineReader Expr} {t : Token} {op : UnaryOp} (h : sign? t = some op)
    (tail : List Token) :
    signed atom (t :: tail) =
      match signed atom tail with
      | .ok e rest => .ok (.unary op e) rest
      | .error wanted rest => .error wanted rest := by
  cases t <;> simp only [sign?, Option.some.injEq, reduceCtorEq] at h <;> subst h <;> rfl

theorem Takes.signed (h : Takes q operand shape) :
    Takes q (LineReader.signed operand) (Signed sign? .unary shape) := by
  intro tokens
  induction tokens with
  | nil =>
    intro rest e hq he
    rw [signed_of_none (by simp)] at he
    obtain ⟨front, hfront, hshape⟩ := h hq he
    exact ⟨front, hfront, .bare hshape⟩
  | cons t tail ih =>
    intro rest e hq he
    cases ht : sign? t with
    | none =>
      rw [signed_of_none (by simpa using ht)] at he
      obtain ⟨front, hfront, hshape⟩ := h hq he
      exact ⟨front, hfront, .bare hshape⟩
    | some op =>
      rw [signed_of_some ht] at he
      split at he
      · rename_i e' rest' htail
        cases he
        obtain ⟨front, rfl, hshape⟩ := ih (List.forall_mem_cons.1 hq).2 htail
        exact ⟨t :: front, rfl, .sign ht hshape⟩
      · simp at he

theorem Finds.signed (h : Finds operand shape follow)
    (hshape : ∀ front e, shape front e → ∃ t tail, front = t :: tail ∧ sign? t = none) :
    Finds (LineReader.signed operand) (Signed sign? .unary shape) follow := by
  intro front rest e he hrest
  induction he with
  | bare hbare =>
    obtain ⟨t, tail, rfl, ht⟩ := hshape _ _ hbare
    rw [signed_of_none (by simpa using ht)]
    exact h hbare hrest
  | sign ht _ ih => rw [List.cons_append, signed_of_some ht, ih]

end Script.LineReader

end Laoke
