import Laoke.Program
import Laoke.Proofs.Grammar
import Laoke.Proofs.Steps

/-!
# What programs mean

The expressions of a program are flat lists of tokens.  `IsSum` says which of
them have a meaning, and which one: a sum of products of signed operands.
Programs whose expressions have one are plans (`Reads`), and a plan is carried
out on the identifiers of the program itself, with no script in between.

A loop counts up to its last number, but what is read is that number plus one.
So there is a second kind of bound, one that has a meaning only together with
the addition (`Bound.before`), and nothing else is read in its place
(`isSum_plusOne_iff`).
-/

namespace Laoke

open Script (AssignOp ArithmeticFault BinaryOp UnaryOp Value)

/-! ### Expressions -/

/-- An expression with its structure. -/
inductive Formula where
  | integer (n : Int)
  | text (s : String)
  | name (x : String)
  | signed (op : UnaryOp) (f : Formula)
  | joined (op : BinaryOp) (f g : Formula)
  deriving DecidableEq, Repr

namespace Token

/-- The sign that a token is in front of a factor. -/
def sign? : Token → Option UnaryOp
  | .keyword .plus => some .pos
  | .keyword .minus => some .neg
  | _ => none

/-- The operator that a token is between factors. -/
def factorOperator? : Token → Option BinaryOp
  | .keyword .times => some .mul
  | .keyword .divideBy => some .div
  | _ => none

/-- The operator that a token is between terms. -/
def termOperator? : Token → Option BinaryOp
  | .keyword .plus => some .add
  | .keyword .minus => some .sub
  | _ => none

end Token

/-- An integer, a variable, or one or more strings in a row, which are one text. -/
inductive IsOperand : Expression → Formula → Prop
  | integer (n : Int) : IsOperand [.integer n] (.integer n)
  | name (x : String) : IsOperand [.identifier x] (.name x)
  | text (s : String) (more : List String) :
      IsOperand ((s :: more).map .string) (.text ((s :: more).foldr (· ++ ·) ""))

/-- An operand under signs. -/
def IsFactor : Expression → Formula → Prop :=
  Signed Token.sign? .signed IsOperand

/-- Factors that are multiplied and divided. -/
def IsTerm : Expression → Formula → Prop :=
  Chained Token.factorOperator? .joined IsFactor

/-- Terms that are added and subtracted. -/
def IsSum : Expression → Formula → Prop :=
  Chained Token.termOperator? .joined IsTerm

/-- An expression that has a meaning. -/
def Expression.WellFormed (e : Expression) : Prop :=
  ∃ f, IsSum e f

/-! ### Plans -/

/-- How far a loop goes. -/
inductive Bound where
  /-- Up to a number, which is the last one. -/
  | upTo (last : Formula)
  /-- Up to a number, which is not counted any more. -/
  | before (stop : Formula)
  deriving DecidableEq, Repr

/-- A statement with its structure. -/
inductive Plan where
  /-- Says a value.  There may be none to say. -/
  | say (value : Option Formula)
  | declare (x : String)
  /-- Gives a variable a value, or changes its value by one. -/
  | assign (x : String) (op : AssignOp) (value : Formula)
  | loop (x : String) (first : Formula) (bound : Bound) (body : List Plan)
  deriving Repr

/-- An expression to be said. -/
inductive IsSaid : Expression → Option Formula → Prop
  | nothing : IsSaid [] none
  | something {e : Expression} {f : Formula} (h : IsSum e f) : IsSaid e (some f)

/-- An expression that is empty or ends in an operator. -/
def Expression.Dangling (e : Expression) : Prop :=
  e = [] ∨ ∃ front k, e = front ++ [.keyword k] ∧ k.isOperator = true

/-- The number one, added. -/
def Expression.plusOne (e : Expression) : Expression :=
  e ++ [.keyword .plus, .integer 1]

/-- An expression as the bound of a loop. -/
inductive IsBound : Expression → Bound → Prop
  | upTo {e : Expression} {last : Formula} (h : IsSum e last) : IsBound e (.upTo last)
  | before {e : Expression} {stop : Formula} (hd : e.Dangling) (h : IsSum e.plusOne stop) :
      IsBound e (.before stop)

/-- The plan that some statements are. -/
inductive Reads : List Statement → List Plan → Prop
  | nil : Reads [] []
  | say {e : Expression} {value : Option Formula} {p : List Statement} {plan : List Plan}
      (he : IsSaid e value) (hp : Reads p plan) : Reads (.say e :: p) (.say value :: plan)
  | declare {x : String} {p : List Statement} {plan : List Plan} (hp : Reads p plan) :
      Reads (.declare x :: p) (.declare x :: plan)
  | assign {x : String} {e : Expression} {f : Formula} {p : List Statement} {plan : List Plan}
      (he : IsSum e f) (hp : Reads p plan) : Reads (.assign x e :: p) (.assign x .set f :: plan)
  | increase {x : String} {e : Expression} {f : Formula} {p : List Statement} {plan : List Plan}
      (he : IsSum e f) (hp : Reads p plan) : Reads (.increase x e :: p) (.assign x .add f :: plan)
  | decrease {x : String} {e : Expression} {f : Formula} {p : List Statement} {plan : List Plan}
      (he : IsSum e f) (hp : Reads p plan) : Reads (.decrease x e :: p) (.assign x .sub f :: plan)
  | loop {x : String} {a b : Expression} {first : Formula} {bound : Bound}
      {body p : List Statement} {inner plan : List Plan} (ha : IsSum a first) (hb : IsBound b bound)
      (hbody : Reads body inner) (hp : Reads p plan) :
      Reads (.loop x a b body :: p) (.loop x first bound inner :: plan)

mutual

/-- A statement whose expressions have a meaning; there may be nothing to say. -/
def Statement.WellFormed : Statement → Prop
  | .say e => e = [] ∨ e.WellFormed
  | .declare _ => True
  | .assign _ e => e.WellFormed
  | .increase _ e => e.WellFormed
  | .decrease _ e => e.WellFormed
  | .loop _ a b body => a.WellFormed ∧ b.WellFormed ∧ Program.WellFormed body

/-- Statements whose expressions have a meaning. -/
def Program.WellFormed : List Statement → Prop
  | [] => True
  | s :: p => s.WellFormed ∧ Program.WellFormed p

end

mutual

theorem Statement.WellFormed.exists_reads : ∀ {s : Statement}, s.WellFormed →
    ∀ {p : List Statement} {plan : List Plan}, Reads p plan → ∃ step, Reads (s :: p) (step :: plan)
  | .say e, h, _, _, hp => by
    rcases h with rfl | ⟨f, hf⟩
    · exact ⟨_, .say .nothing hp⟩
    · exact ⟨_, .say (.something hf) hp⟩
  | .declare x, _, _, _, hp => ⟨_, .declare hp⟩
  | .assign x e, ⟨_, hf⟩, _, _, hp => ⟨_, .assign hf hp⟩
  | .increase x e, ⟨_, hf⟩, _, _, hp => ⟨_, .increase hf hp⟩
  | .decrease x e, ⟨_, hf⟩, _, _, hp => ⟨_, .decrease hf hp⟩
  | .loop x a b body, ⟨⟨_, ha⟩, ⟨_, hb⟩, hbody⟩, _, _, hp =>
    have ⟨_, hinner⟩ := Program.WellFormed.exists_reads hbody
    ⟨_, .loop ha (.upTo hb) hinner hp⟩

/-- **A well-formed program is a plan.** -/
theorem Program.WellFormed.exists_reads : ∀ {p : List Statement}, Program.WellFormed p →
    ∃ plan, Reads p plan
  | [], _ => ⟨[], .nil⟩
  | _ :: _, ⟨hs, hp⟩ =>
    have ⟨_, hplan⟩ := Program.WellFormed.exists_reads hp
    have ⟨_, hstep⟩ := Statement.WellFormed.exists_reads hs hplan
    ⟨_, hstep⟩

end

/-! ### Carrying out a plan -/

/-- Why a plan cannot be carried out. -/
inductive Fault where
  /-- A variable has no value yet. -/
  | undefined (x : String)
  | arithmetic (fault : ArithmeticFault)
  /-- A loop has a bound of this type. -/
  | notInteger (type : String)
  /-- There is nothing to say. -/
  | nothingToSay
  deriving DecidableEq, Repr

/-- The values of the variables, and all that was said. -/
structure Scene where
  values : String → Option Value := fun _ => none
  said : String := ""

namespace Scene

/-- The scene in which a variable has a new value. -/
def set (σ : Scene) (x : String) (v : Value) : Scene :=
  { σ with values := fun y => if y = x then some v else σ.values y }

/-- The scene in which one more line was said. -/
def say (σ : Scene) (line : String) : Scene :=
  { σ with said := σ.said ++ line ++ "\n" }

@[simp] theorem values_set (σ : Scene) (x y : String) (v : Value) :
    (σ.set x v).values y = if y = x then some v else σ.values y := rfl

/-- The value of a variable, which has to have one. -/
def lookup (σ : Scene) (x : String) : Except Fault Value :=
  match σ.values x with
  | some v => .ok v
  | none => .error (.undefined x)

end Scene

/-- The result of an operation. -/
def Fault.ofArithmetic : Except ArithmeticFault Value → Except Fault Value :=
  Except.mapError .arithmetic

/-- A value as the bound of a loop. -/
def Fault.ofBound : Value → Except Fault Int
  | .int n => .ok n
  | v => .error (.notInteger v.typeName)

/-- The value of an expression. -/
def Formula.value (σ : Scene) : Formula → Except Fault Value
  | .integer n => .ok (.int n)
  | .text s => .ok (.str s)
  | .name x => σ.lookup x
  | .signed op f => do
    let v ← f.value σ
    Fault.ofArithmetic (v.unary op)
  | .joined op f g => do
    let v ← f.value σ
    let w ← g.value σ
    Fault.ofArithmetic (v.binary op w)

/-- The number after the last one of a loop, which has to be an integer of the language. -/
def Bound.stop (σ : Scene) : Bound → Except Fault Int
  | .upTo last => do
    let v ← last.value σ
    let next ← Fault.ofArithmetic (v.binary .add (.int 1))
    Fault.ofBound next
  | .before stop => do
    let v ← stop.value σ
    Fault.ofBound v

/-- The value that a variable gets.  Its old value is looked up after the new one is known. -/
def Scene.assigned (σ : Scene) (x : String) (op : AssignOp) (f : Formula) : Except Fault Value := do
  let v ← f.value σ
  match op with
  | .set => return v
  | .add => do
    let old ← σ.lookup x
    Fault.ofArithmetic (old.binary .add v)
  | .sub => do
    let old ← σ.lookup x
    Fault.ofArithmetic (old.binary .sub v)

/-- Takes a step for `n` numbers from `i` on, in increasing order. -/
def Scene.iterate (step : Int → Scene → Except Fault Scene) (i : Int) :
    Nat → Scene → Except Fault Scene
  | 0, σ => .ok σ
  | n + 1, σ => do
    let σ ← step i σ
    iterate step (i + 1) n σ

mutual

/-- Carries out one step of a plan. -/
def Plan.run : Plan → Scene → Except Fault Scene
  | .say none, _ => .error .nothingToSay
  | .say (some f), σ => do
    let v ← f.value σ
    return σ.say v.display
  | .declare x, σ => .ok (σ.set x .none)
  | .assign x op f, σ => do
    let v ← σ.assigned x op f
    return σ.set x v
  | .loop x first bound body, σ => do
    -- Both bounds are settled before the first round, and the counter is set at the start of each.
    let v ← first.value σ
    let start ← Fault.ofBound v
    let stop ← bound.stop σ
    Scene.iterate (fun i σ => Plan.runAll body (σ.set x (.int i))) start (stop - start).toNat σ

/-- Carries out a plan. -/
def Plan.runAll : List Plan → Scene → Except Fault Scene
  | [], σ => .ok σ
  | step :: plan, σ => do
    let σ ← step.run σ
    Plan.runAll plan σ

end

/-- What is said when a plan is carried out from the start. -/
def Plan.output (plan : List Plan) : Except Fault String :=
  (Plan.runAll plan {}).map Scene.said

theorem Plan.exists_of_output {plan : List Plan} {out : String} (h : Plan.output plan = .ok out) :
    ∃ σ, Plan.runAll plan {} = .ok σ ∧ σ.said = out := by
  cases hrun : Plan.runAll plan {} with
  | error fault => simp [Plan.output, hrun, Except.map] at h
  | ok σ => exact ⟨σ, rfl, by simpa [Plan.output, hrun, Except.map] using h⟩

theorem Plan.runAll_append (plan more : List Plan) (σ : Scene) :
    Plan.runAll (plan ++ more) σ = Plan.runAll plan σ >>= Plan.runAll more := by
  induction plan generalizing σ with
  | nil => rfl
  | cons step plan ih =>
    rw [List.cons_append, Plan.runAll, Plan.runAll, bind_assoc]
    simp only [ih]

/-- A loop that was carried out, taken apart. -/
theorem Plan.run_loop_eq_ok {x : String} {first : Formula} {bound : Bound} {body : List Plan}
    {σ τ : Scene} (h : (Plan.loop x first bound body).run σ = .ok τ) :
    ∃ start stop, (first.value σ >>= Fault.ofBound) = .ok start ∧ bound.stop σ = .ok stop ∧
      Scene.iterate (fun n σ => Plan.runAll body (σ.set x (.int n))) start (stop - start).toNat σ =
        .ok τ := by
  rw [Plan.run, ← bind_assoc] at h
  obtain ⟨start, hstart, h⟩ := except_bind_eq_ok.1 h
  obtain ⟨stop, hstop, h⟩ := except_bind_eq_ok.1 h
  exact ⟨start, stop, hstart, hstop, h⟩

/-! ### Bounds -/

namespace Expression

theorem dangling_nil : Dangling [] := .inl rfl

theorem Dangling.append {e : Expression} (h : e.Dangling) {k : Keyword} (hk : k.isOperator = true)
    (front : Expression) : Dangling (front ++ .keyword k :: e) := by
  refine .inr ?_
  rcases h with rfl | ⟨mid, last, rfl, hlast⟩
  · exact ⟨front, k, rfl, hk⟩
  · exact ⟨front ++ .keyword k :: mid, last, by simp, hlast⟩

end Expression

theorem isOperator_of_sign? {t : Token} {op : UnaryOp} (h : t.sign? = some op) :
    ∃ k, t = .keyword k ∧ k.isOperator = true := by
  cases t with
  | keyword k => cases k <;> simp [Token.sign?] at h <;> exact ⟨_, rfl, rfl⟩
  | _ => simp [Token.sign?] at h

theorem isOperator_of_factorOperator? {t : Token} {op : BinaryOp}
    (h : t.factorOperator? = some op) : ∃ k, t = .keyword k ∧ k.isOperator = true ∧ k ≠ .plus := by
  cases t with
  | keyword k => cases k <;> simp [Token.factorOperator?] at h <;> exact ⟨_, rfl, rfl, by decide⟩
  | _ => simp [Token.factorOperator?] at h

theorem isOperator_of_termOperator? {t : Token} {op : BinaryOp} (h : t.termOperator? = some op) :
    ∃ k, t = .keyword k ∧ k.isOperator = true := by
  cases t with
  | keyword k => cases k <;> simp [Token.termOperator?] at h <;> exact ⟨_, rfl, rfl⟩
  | _ => simp [Token.termOperator?] at h

/-- A cut between two tokens is at a given token, before it or after it. -/
theorem append_cons_eq_plusOne {front back e : Expression} {k : Keyword}
    (h : front ++ .keyword k :: back = e.plusOne) :
    (k = .plus ∧ front = e ∧ back = [.integer 1]) ∨
      ∃ mid : Expression, e = front ++ .keyword k :: mid ∧ back = mid.plusOne := by
  rcases List.append_eq_append_iff.1 h with ⟨mid, rfl, hmid⟩ | ⟨mid, rfl, hmid⟩
  · cases mid with
    | nil =>
      obtain ⟨hk, rfl⟩ := List.cons.inj hmid
      exact .inl ⟨by simpa using hk, by simp, rfl⟩
    | cons t mid =>
      obtain ⟨rfl, rfl⟩ := List.cons.inj hmid
      exact .inr ⟨mid, rfl, rfl⟩
  · match mid, hmid with
    | [], hmid =>
      obtain ⟨hk, rfl⟩ := List.cons.inj hmid
      exact .inl ⟨by simpa using hk.symm, by simp, rfl⟩
    | [_], hmid => simp at hmid
    | _ :: _ :: _, hmid => simp at hmid

/-- A factor that ends in `plus one` has the plus as a sign. -/
theorem dangling_of_isFactor {e : Expression} {f : Formula} (h : IsFactor e.plusOne f) :
    e.Dangling := by
  generalize hts : e.plusOne = ts at h
  induction h generalizing e with
  | bare h =>
    have hlast := congrArg List.getLast? hts
    have hlength := congrArg List.length hts
    cases h with
    | integer n => simp [Expression.plusOne] at hlength
    | name x => simp [Expression.plusOne] at hlength
    | text s more =>
      rw [Expression.plusOne, List.getLast?_append_of_ne_nil _ (by simp), List.getLast?_map] at hlast
      cases hl : (s :: more).getLast? <;> simp [hl] at hlast
  | sign ht _ ih =>
    obtain ⟨k, rfl, hk⟩ := isOperator_of_sign? ht
    rcases append_cons_eq_plusOne ((List.nil_append _).trans hts.symm) with ⟨-, rfl, -⟩ | ⟨mid, rfl, hmid⟩
    · exact Expression.dangling_nil
    · exact (ih hmid.symm).append hk []

theorem dangling_of_isTerm {e : Expression} {f : Formula} (h : IsTerm e.plusOne f) :
    e.Dangling := by
  generalize hts : e.plusOne = ts at h
  cases h with
  | one h => exact dangling_of_isFactor (hts ▸ h)
  | more hfront ht hback =>
    obtain ⟨k, rfl, hk, hne⟩ := isOperator_of_factorOperator? ht
    rcases append_cons_eq_plusOne hts.symm with ⟨rfl, -, -⟩ | ⟨mid, rfl, rfl⟩
    · exact absurd rfl hne
    · exact (dangling_of_isFactor hback).append hk _

theorem eq_of_isTerm_integer {n : Int} {f : Formula} (h : IsTerm [.integer n] f) :
    f = .integer n := by
  generalize hts : [Token.integer n] = ts at h
  cases h with
  | one h =>
    cases h with
    | bare h =>
      cases h with
      | integer m => simpa using hts.symm
      | name x => simp at hts
      | text s more => simp at hts
    | sign ht _ =>
      obtain ⟨k, rfl, -⟩ := isOperator_of_sign? ht
      simp at hts
  | more _ ht _ =>
    obtain ⟨k, rfl, -⟩ := isOperator_of_factorOperator? ht
    simp [List.cons_eq_append_iff] at hts

theorem not_keyword_of_isOperand {e : Expression} {f : Formula} (h : IsOperand e f) :
    ∃ front t, e = front ++ [t] ∧ ∀ k, t ≠ .keyword k := by
  cases h with
  | integer n => exact ⟨[], _, rfl, by simp⟩
  | name x => exact ⟨[], _, rfl, by simp⟩
  | text s more =>
    obtain ⟨front, last, hlast⟩ := (List.eq_nil_or_concat (s :: more)).resolve_left (by simp)
    exact ⟨front.map .string, .string last, by rw [hlast]; simp, by simp⟩

/-- **No sum ends in an operator.** -/
theorem IsSum.not_dangling {e : Expression} {f : Formula} (h : IsSum e f) : ¬ e.Dangling := by
  -- The last token of a chain is the last token of an operand.
  have hfactor : ∀ {e f}, IsFactor e f → ∃ front t, e = front ++ [t] ∧ ∀ k, t ≠ .keyword k := by
    intro e f h
    induction h with
    | bare h => exact not_keyword_of_isOperand h
    | @sign _ t _ _ _ _ ih =>
      obtain ⟨front, last, rfl, hlast⟩ := ih
      exact ⟨t :: front, last, rfl, hlast⟩
  have hterm : ∀ {e f}, IsTerm e f → ∃ front t, e = front ++ [t] ∧ ∀ k, t ≠ .keyword k := by
    intro e f h
    cases h with
    | one h => exact hfactor h
    | @more front _ t _ _ _ _ _ hback =>
      obtain ⟨mid, last, rfl, hlast⟩ := hfactor hback
      exact ⟨front ++ t :: mid, last, by simp, hlast⟩
  have hsum : ∃ front t, e = front ++ [t] ∧ ∀ k, t ≠ .keyword k := by
    cases h with
    | one h => exact hterm h
    | @more front _ t _ _ _ _ _ hback =>
      obtain ⟨mid, last, rfl, hlast⟩ := hterm hback
      exact ⟨front ++ t :: mid, last, by simp, hlast⟩
  obtain ⟨front, t, rfl, ht⟩ := hsum
  rintro (h | ⟨front', k, h, -⟩)
  · simp at h
  · exact ht k (List.append_inj_right' h rfl |> List.singleton_inj.1)

/-- The formula whose value is the number after the last. -/
def Bound.formula : Bound → Formula
  | .upTo last => .joined .add last (.integer 1)
  | .before stop => stop

theorem IsSum.plusOne {e : Expression} {f : Formula} (h : IsSum e f) :
    IsSum e.plusOne (.joined .add f (.integer 1)) :=
  .more h rfl (.one (.bare (.integer 1)))

/-- **What is read behind the last number of a loop** is the sum of that number and one, unless
the number has no meaning of its own and the plus belongs to it. -/
theorem isSum_plusOne_iff {e : Expression} {g : Formula} :
    IsSum e.plusOne g ↔ ∃ bound, IsBound e bound ∧ g = bound.formula := by
  constructor
  · intro h
    generalize hts : e.plusOne = ts at h
    cases h with
    | one h => exact ⟨_, .before (dangling_of_isTerm (hts ▸ h)) (hts ▸ .one h), rfl⟩
    | more hfront ht hback =>
      obtain ⟨k, rfl, hk⟩ := isOperator_of_termOperator? ht
      rcases append_cons_eq_plusOne hts.symm with ⟨rfl, rfl, rfl⟩ | ⟨mid, rfl, rfl⟩
      · cases ht
        obtain rfl := eq_of_isTerm_integer hback
        exact ⟨.upTo _, .upTo hfront, rfl⟩
      · exact ⟨_, .before ((dangling_of_isTerm hback).append hk _) (hts ▸ .more hfront ht hback), rfl⟩
  · rintro ⟨bound, hb, rfl⟩
    cases hb with
    | upTo h => exact h.plusOne
    | before _ h => exact h

mutual

/-- Whether every loop of a step goes up to a last number. -/
def Plan.Inclusive : Plan → Prop
  | .loop _ _ (.upTo _) body => Plan.AllInclusive body
  | .loop _ _ (.before _) _ => False
  | _ => True

/-- Whether every loop of a plan goes up to a last number. -/
def Plan.AllInclusive : List Plan → Prop
  | [] => True
  | step :: plan => step.Inclusive ∧ Plan.AllInclusive plan

end

theorem Reads.inclusive {p : List Statement} {plan : List Plan} (h : Reads p plan)
    (hp : Program.WellFormed p) : Plan.AllInclusive plan := by
  induction h with
  | nil => trivial
  | say _ _ ih => exact ⟨trivial, ih hp.2⟩
  | declare _ ih => exact ⟨trivial, ih hp.2⟩
  | assign _ _ ih | increase _ _ ih | decrease _ _ ih => exact ⟨trivial, ih hp.2⟩
  | loop _ hb _ _ ihbody ih =>
    obtain ⟨⟨-, ⟨_, hlast⟩, hbody⟩, hrest⟩ := hp
    cases hb with
    | upTo _ => exact ⟨ihbody hbody, ih hrest⟩
    | before hd _ => exact absurd hd hlast.not_dangling

end Laoke
