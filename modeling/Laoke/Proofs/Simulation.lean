import Laoke.Proofs.Blocks

/-!
# Scripts do what programs mean

A script runs on names and keeps what was said in one of its variables; a plan
runs on the identifiers of the program.  The two keep in step.

* `Agrees`: a store holds the values of a scene, each under its name.
* `Follows`: a run of a script ends like a plan does, in agreement or with the
  same fault.
* `Plan.follows`, `Plan.allFollow`: statements of a script follow their plan.
* `run_of_reads`: a program that is a plan says what the plan says.
-/

namespace Laoke

open Script (AssignOp Machine Store Value eval evalBound exec execAll)

/-! ### Variables of a plan -/

/-- Whether all variables of an expression are among some identifiers. -/
def Formula.Within (scope : List String) : Formula → Prop
  | .integer _ => True
  | .text _ => True
  | .name x => x ∈ scope
  | .signed _ f => f.Within scope
  | .joined _ f g => f.Within scope ∧ g.Within scope

mutual

/-- Whether all variables of a step are among some identifiers. -/
def Plan.Within (scope : List String) : Plan → Prop
  | .say value => ∀ f ∈ value, Formula.Within scope f
  | .declare x => x ∈ scope
  | .assign x _ f => x ∈ scope ∧ f.Within scope
  | .loop x first bound body =>
    x ∈ scope ∧ first.Within scope ∧ bound.formula.Within scope ∧ Plan.AllWithin scope body

/-- Whether all variables of a plan are among some identifiers. -/
def Plan.AllWithin (scope : List String) : List Plan → Prop
  | [] => True
  | step :: plan => step.Within scope ∧ Plan.AllWithin scope plan

end

theorem mem_identifiers {e : Expression} {x : String} (h : .identifier x ∈ e) :
    x ∈ e.identifiers := List.mem_filterMap.2 ⟨_, h, rfl⟩

theorem IsSum.within {e : Expression} {f : Formula} (h : IsSum e f) {scope : List String}
    (hs : ∀ x ∈ e.identifiers, x ∈ scope) : f.Within scope := by
  have hq : ∀ t ∈ e, ∀ x, t = .identifier x → x ∈ scope := by
    rintro t ht x rfl
    exact hs x (mem_identifiers ht)
  have hoperand : ∀ ts f, IsOperand ts f → (∀ t ∈ ts, ∀ x, t = Token.identifier x → x ∈ scope) →
      f.Within scope := by
    intro ts f hf hts
    cases hf with
    | integer n => trivial
    | name x => exact hts _ List.mem_cons_self x rfl
    | text s more => trivial
  have hjoin : ∀ op f g, f.Within scope → g.Within scope → (Formula.joined op f g).Within scope :=
    fun _ _ _ hf hg => ⟨hf, hg⟩
  have hmark : ∀ op f, f.Within scope → (Formula.signed op f).Within scope := fun _ _ hf => hf
  exact h.tree hjoin (fun _ _ hterm => hterm.tree hjoin fun _ _ hfactor =>
    hfactor.tree hmark hoperand) hq

theorem IsBound.within {e : Expression} {bound : Bound} (h : IsBound e bound) {scope : List String}
    (hs : ∀ x ∈ e.identifiers, x ∈ scope) : bound.formula.Within scope := by
  refine (isSum_plusOne_iff.2 ⟨bound, h, rfl⟩).within fun x hx => hs x ?_
  simpa [Expression.plusOne, Expression.identifiers] using hx

theorem Reads.within {p : List Statement} {plan : List Plan} (h : Reads p plan)
    {scope : List String} (hs : ∀ x ∈ Program.identifiers p, x ∈ scope) :
    Plan.AllWithin scope plan := by
  induction h with
  | nil => trivial
  | say he _ ih =>
    obtain ⟨hs, hp⟩ := List.forall_mem_append.1 hs
    refine ⟨?_, ih hp⟩
    rintro f hf
    cases he with
    | nothing => simp at hf
    | something he =>
      cases hf
      exact he.within hs
  | declare _ ih =>
    obtain ⟨hs, hp⟩ := List.forall_mem_append.1 hs
    exact ⟨hs _ List.mem_cons_self, ih hp⟩
  | assign he _ ih | increase he _ ih | decrease he _ ih =>
    obtain ⟨hs, hp⟩ := List.forall_mem_append.1 hs
    obtain ⟨hx, he'⟩ := List.forall_mem_cons.1 hs
    exact ⟨⟨hx, he.within he'⟩, ih hp⟩
  | loop ha hb _ _ ihbody ih =>
    obtain ⟨hs, hp⟩ := List.forall_mem_append.1 hs
    obtain ⟨hx, hs⟩ := List.forall_mem_cons.1 hs
    obtain ⟨ha', hs⟩ := List.forall_mem_append.1 hs
    obtain ⟨hb', hbody⟩ := List.forall_mem_append.1 hs
    exact ⟨⟨hx, ha.within ha', hb.within hb', ihbody hbody⟩, ih hp⟩

/-! ### Stores and scenes -/

theorem Script.Store.get?_set (store : Store) (x y : String) (v : Value) :
    (store.set x v).get? y = if y = x then some v else store.get? y := by
  unfold Script.Store.get?
  induction store with
  | nil =>
    by_cases h : y = x
    · simp [Script.Store.set, h]
    · simp [Script.Store.set, List.lookup_cons, beq_eq_false_iff_ne.2 h, h]
  | cons entry store ih =>
    obtain ⟨z, w⟩ := entry
    by_cases hz : z = x
    · subst hz
      by_cases h : y = z
      · simp [Script.Store.set, h]
      · simp [Script.Store.set, List.lookup_cons, beq_eq_false_iff_ne.2 h, h]
    · by_cases h : y = z
      · subst h
        simp [Script.Store.set, hz]
      · simp [Script.Store.set, hz, List.lookup_cons, beq_eq_false_iff_ne.2 h, ih]

/-- The error of a script that a fault is. -/
def Fault.error (name : String → String) : Fault → Script.Error
  | .undefined x => .undefinedName (name x)
  | .arithmetic fault => .ofArithmetic fault
  | .notInteger type => .ofType (.rangeBound type)
  | .nothingToSay => .ofType (.argumentCount 0)

/-- A naming that tells identifiers apart. -/
structure Faithful (o : ScriptOptions) (name : String → String) (scope : List String) : Prop where
  inj : ∀ x ∈ scope, ∀ y ∈ scope, name x = name y → x = y
  ne_accumulator : ∀ x, name x ≠ o.accumulator

/-- A store that holds what a scene has. -/
structure Agrees (o : ScriptOptions) (name : String → String) (scope : List String) (σ : Scene)
    (store : Store) : Prop where
  values : ∀ x ∈ scope, store.get? (name x) = σ.values x
  said : store.get? o.accumulator = some (.str σ.said)

section

variable {o : ScriptOptions} {name : String → String} {scope : List String}

theorem Agrees.set (hn : Faithful o name scope) {σ : Scene} {store : Store}
    (h : Agrees o name scope σ store) {x : String} (hx : x ∈ scope) (v : Value) :
    Agrees o name scope (σ.set x v) (store.set (name x) v) where
  values y hy := by
    rw [Script.Store.get?_set, Scene.values_set, h.values y hy]
    by_cases hxy : y = x
    · rw [if_pos (congrArg name hxy), if_pos hxy]
    · rw [if_neg fun he => hxy (hn.inj y hy x hx he), if_neg hxy]
  said := by
    rw [Script.Store.get?_set, if_neg (hn.ne_accumulator x).symm]
    exact h.said

theorem Agrees.say (hn : Faithful o name scope) {σ : Scene} {store : Store}
    (h : Agrees o name scope σ store) (line : String) :
    Agrees o name scope (σ.say line)
      (store.set o.accumulator (.str (σ.said ++ (line ++ "\n")))) where
  values y hy := by
    rw [Script.Store.get?_set, if_neg (hn.ne_accumulator y)]
    exact h.values y hy
  said := by rw [Script.Store.get?_set, if_pos rfl, Scene.say, String.append_assoc]

/-! ### Expressions -/

theorem mapError_bind {ε ε' α β : Type} (g : ε → ε') (x : Except ε α) (f : α → Except ε β) :
    (x >>= f).mapError g = x.mapError g >>= fun a => (f a).mapError g := by
  cases x <;> rfl

theorem ofArithmetic_eq (name : String → String) (r : Except Script.ArithmeticFault Value) :
    Script.ofArithmetic r = (Fault.ofArithmetic r).mapError (Fault.error name) := by
  cases r <;> rfl

theorem lookup_eq {σ : Scene} {store : Store} (h : Agrees o name scope σ store) {x : String}
    (hx : x ∈ scope) :
    Script.lookup store (name x) = (σ.lookup x).mapError (Fault.error name) := by
  unfold Script.lookup Scene.lookup
  rw [h.values x hx]
  cases σ.values x <;> rfl

/-- **An expression has the same value in a script.** -/
theorem eval_inScript {σ : Scene} {store : Store} (h : Agrees o name scope σ store) (f : Formula)
    (hf : f.Within scope) :
    eval store (f.inScript name) = (f.value σ).mapError (Fault.error name) := by
  induction f with
  | integer n => rfl
  | text s => rfl
  | name x => exact lookup_eq h hf
  | signed op f ih =>
    rw [Formula.inScript, eval, Formula.value, mapError_bind, ih hf]
    simp only [ofArithmetic_eq name]
  | joined op f g ihf ihg =>
    rw [Formula.inScript, eval, Formula.value, mapError_bind, ihf hf.1, ihg hf.2]
    simp only [mapError_bind, ofArithmetic_eq name]

theorem evalBound_inScript {σ : Scene} {store : Store} (h : Agrees o name scope σ store)
    (f : Formula) (hf : f.Within scope) :
    evalBound store (f.inScript name) =
      (f.value σ >>= Fault.ofBound).mapError (Fault.error name) := by
  rw [mapError_bind, evalBound, eval_inScript h f hf]
  congr 1
  funext v
  cases v <;> rfl

theorem evalBound_formula {σ : Scene} {store : Store} (h : Agrees o name scope σ store)
    (bound : Bound) (hb : bound.formula.Within scope) :
    evalBound store (bound.formula.inScript name) =
      (bound.stop σ).mapError (Fault.error name) := by
  rw [evalBound_inScript h _ hb]
  cases bound with
  | upTo last =>
    rw [Bound.formula, Formula.value, Bound.stop]
    cases last.value σ <;> rfl
  | before stop => rfl

theorem assigned_inScript {σ : Scene} {store : Store} (h : Agrees o name scope σ store)
    {x : String} (hx : x ∈ scope) (op : AssignOp) (f : Formula) (hf : f.Within scope) :
    Script.assigned store (name x) op (f.inScript name) =
      (σ.assigned x op f).mapError (Fault.error name) := by
  rw [Script.assigned, eval_inScript h f hf, Scene.assigned, mapError_bind]
  congr 1
  funext v
  cases op with
  | set => rfl
  | add =>
    simp only [lookup_eq h hx, mapError_bind, ofArithmetic_eq name]
  | sub =>
    simp only [lookup_eq h hx, mapError_bind, ofArithmetic_eq name]

/-! ### Steps -/

theorem count_bind (next : Unit → Script.Run Unit) (m : Machine) :
    (Script.Run.count >>= next) m = next () { m with executed := m.executed + 1 } := rfl

theorem enter_bind (range : Script.EnteredRange) (next : Unit → Script.Run Unit) (m : Machine) :
    (Script.Run.enter range >>= next) m = next () { m with entered := range :: m.entered } := rfl

/-- A run of a script that ends like a plan does. -/
def Follows (o : ScriptOptions) (name : String → String) (scope : List String)
    (result : EStateM.Result Script.Error Machine Unit) : Except Fault Scene → Prop
  | .ok σ => ∃ m, result = .ok () m ∧ Agrees o name scope σ m.store
  | .error fault => ∃ m, result = .error (fault.error name) m

theorem Follows.bind {run next : Script.Run Unit} {m : Machine} {d : Except Fault Scene}
    {f : Scene → Except Fault Scene} (h : Follows o name scope (run m) d)
    (hnext : ∀ σ m, Agrees o name scope σ m.store → Follows o name scope (next m) (f σ)) :
    Follows o name scope ((run >>= fun _ => next) m) (d >>= f) := by
  cases d with
  | ok σ =>
    obtain ⟨m', hm, hagree⟩ := h
    rw [bind_of_ok hm]
    exact hnext σ m' hagree
  | error fault =>
    obtain ⟨m', hm⟩ := h
    exact ⟨m', bind_of_error hm⟩

theorem Follows.query {α β : Type} {f : Store → Except Script.Error β} {next : β → Script.Run Unit}
    {m : Machine} {d : Except Fault α} {k : α → β} {g : α → Except Fault Scene}
    (h : f m.store = (d.map k).mapError (Fault.error name))
    (hnext : ∀ a, Follows o name scope (next (k a) m) (g a)) :
    Follows o name scope ((Script.Run.query f >>= next) m) (d >>= g) := by
  cases d with
  | ok a =>
    have hq : Script.Run.query f m = .ok (k a) m := by
      unfold Script.Run.query
      rw [h]
      rfl
    rw [bind_of_ok hq]
    exact hnext a
  | error fault =>
    have hq : Script.Run.query f m = .error (fault.error name) m := by
      unfold Script.Run.query
      rw [h]
      rfl
    exact ⟨m, bind_of_error hq⟩

theorem Follows.query_id {α : Type} {f : Store → Except Script.Error α}
    {next : α → Script.Run Unit} {m : Machine} {d : Except Fault α} {g : α → Except Fault Scene}
    (h : f m.store = d.mapError (Fault.error name))
    (hnext : ∀ a, Follows o name scope (next a m) (g a)) :
    Follows o name scope ((Script.Run.query f >>= next) m) (d >>= g) :=
  Follows.query (k := id) (h.trans (by cases d <;> rfl)) hnext

theorem Follows.iterate {body : Int → Script.Run Unit} {step : Int → Scene → Except Fault Scene}
    (h : ∀ i σ m, Agrees o name scope σ m.store → Follows o name scope (body i m) (step i σ))
    (n : Nat) (i : Int) {σ : Scene} {m : Machine} (hagree : Agrees o name scope σ m.store) :
    Follows o name scope (Script.Run.iterate body i n m) (Scene.iterate step i n σ) := by
  induction n generalizing i σ m with
  | zero => exact ⟨m, rfl, hagree⟩
  | succ n ih => exact (h i σ m hagree).bind fun σ' m' hagree' => ih (i + 1) hagree'

/-- The value that the accumulator gets. -/
theorem assigned_said {σ : Scene} {store : Store} (h : Agrees o name scope σ store) (f : Formula)
    (hf : f.Within scope) :
    Script.assigned store o.accumulator .add
        (.binary .add (.call "str" [f.inScript name]) (.str "\n")) =
      ((f.value σ).map fun v => Value.str (σ.said ++ (v.display ++ "\n"))).mapError
        (Fault.error name) := by
  have htext : eval store (.call "str" [f.inScript name]) =
      ((f.value σ).map fun v => Value.str v.display).mapError (Fault.error name) := by
    rw [eval, if_pos rfl, Script.evalText, eval_inScript h f hf]
    cases f.value σ <;> rfl
  have hlookup : Script.lookup store o.accumulator = .ok (.str σ.said) := by
    unfold Script.lookup
    rw [h.said]
  rw [Script.assigned, eval, htext]
  cases f.value σ with
  | ok v =>
    simp only [hlookup]
    rfl
  | error fault => rfl

/-- The body of a loop, which is never empty in a script. -/
theorem Follows.body {body : List Plan}
    (h : ∀ σ m, Agrees o name scope σ m.store →
      Follows o name scope (execAll (Plan.allInScript o name body) m) (Plan.runAll body σ))
    {σ : Scene} {m : Machine} (hagree : Agrees o name scope σ m.store) :
    Follows o name scope (execAll (Plan.allInScript o name body ++
      if body.isEmpty then [.pass] else []) m) (Plan.runAll body σ) := by
  cases body with
  | nil => exact ⟨_, rfl, hagree⟩
  | cons step body =>
    simp only [List.isEmpty_cons, Bool.false_eq_true, ↓reduceIte, List.append_nil]
    exact h σ m hagree

mutual

/-- **A statement of a script follows its step of the plan.** -/
theorem Plan.follows (hn : Faithful o name scope) : ∀ (step : Plan), step.Within scope →
    ∀ {σ : Scene} {m : Machine}, Agrees o name scope σ m.store →
      Follows o name scope (exec (step.inScript o name) m) (step.run σ)
  | .say none, _, σ, m, h => ⟨_, rfl⟩
  | .say (some f), hf, σ, m, h => by
    rw [Plan.inScript, exec, Plan.run, count_bind]
    exact Follows.query (assigned_said h f (hf f rfl)) fun v => ⟨_, rfl, h.say hn v.display⟩
  | .declare x, hx, σ, m, h => ⟨_, rfl, h.set hn hx .none⟩
  | .assign x op f, ⟨hx, hf⟩, σ, m, h => by
    rw [Plan.inScript, exec, Plan.run, count_bind]
    exact Follows.query_id (assigned_inScript h hx op f hf) fun v => ⟨_, rfl, h.set hn hx v⟩
  | .loop x first bound body, ⟨hx, hfirst, hbound, hbody⟩, σ, m, h => by
    rw [Plan.inScript, exec, Plan.run, count_bind, ← bind_assoc]
    refine Follows.query_id (evalBound_inScript h first hfirst) fun start => ?_
    refine Follows.query_id (evalBound_formula h bound hbound) fun stop => ?_
    rw [enter_bind]
    refine Follows.iterate (fun i σ' m' h' => ?_) _ start h
    exact (Follows.body fun _ _ h => Plan.allFollow hn body hbody h) (h'.set hn hx (.int i))

/-- **The statements of a script follow their plan.** -/
theorem Plan.allFollow (hn : Faithful o name scope) : ∀ (plan : List Plan),
    Plan.AllWithin scope plan → ∀ {σ : Scene} {m : Machine}, Agrees o name scope σ m.store →
      Follows o name scope (execAll (Plan.allInScript o name plan) m) (Plan.runAll plan σ)
  | [], _, _, m, h => ⟨m, rfl, h⟩
  | step :: plan, ⟨hstep, hplan⟩, _, _, h =>
    (Plan.follows hn step hstep h).bind fun _ _ h' => Plan.allFollow hn plan hplan h'

end

end

/-! ### Programs -/

theorem Compiled.Wellmade.faithful {o : ScriptOptions} (ho : o.Valid) {c : Compiled}
    (hc : c.Wellmade o) : Faithful o c.table.nameOf (Program.identifiers c.program) where
  inj x hx y _ h := by
    refine c.table.nameOf_inj ?_ h
    rw [hc.table]
    exact SymbolTable.mem_insertAll _ hx
  ne_accumulator := (hc.naming ho).ne_accumulator

/-- A script that has been opened says what its plan says. -/
theorem Script.Machine.run_allInScript {o : ScriptOptions} {name : String → String}
    {scope : List String} (hn : Faithful o name scope) {plan : List Plan}
    (hplan : Plan.AllWithin scope plan) :
    (Machine.run o.accumulator (o.opening :: Plan.allInScript o name plan)).1 =
      (Plan.output plan).mapError (Fault.error name) := by
  have hstart : Agrees o name scope {}
      ((Script.Store.set [] o.accumulator (.str "")).set o.accumulator (.str "")) := by
    refine ⟨fun x _ => ?_, ?_⟩
    · rw [Script.Store.get?_set, if_neg (hn.ne_accumulator x), Script.Store.get?_set,
        if_neg (hn.ne_accumulator x)]
      rfl
    · rw [Script.Store.get?_set, if_pos rfl]
  have hfollows : Follows o name scope (execAll (o.opening :: Plan.allInScript o name plan)
      { store := Script.Store.set [] o.accumulator (.str "") }) (Plan.runAll plan {}) :=
    Plan.allFollow hn plan hplan hstart
  unfold Machine.run Plan.output
  cases hd : Plan.runAll plan {} with
  | ok σ =>
    rw [hd] at hfollows
    obtain ⟨m, hm, hagree⟩ := hfollows
    rw [hm]
    dsimp only
    unfold Machine.output
    rw [hagree.said]
    rfl
  | error fault =>
    rw [hd] at hfollows
    obtain ⟨m, hm⟩ := hfollows
    rw [hm]
    rfl

theorem run_of_compile {o : ScriptOptions} {source : String} {c : Compiled}
    (hc : compile o source = .ok c) : run o source = runScript o c.code := by
  unfold run compileToScript
  rw [hc]
  rfl

/-- **A program that is a plan says what the plan says.** -/
theorem run_of_reads {o : ScriptOptions} (ho : o.Valid) {source : String} {c : Compiled}
    (hc : compile o source = .ok c) {plan : List Plan} (hp : Reads c.program plan) :
    run o source =
      (Plan.output plan).mapError fun fault => .execution (fault.error c.table.nameOf) := by
  have hmade := wellmade_of_compile hc
  have hparse := (parse_code_iff ho hmade).2 ⟨plan, hp, rfl⟩
  rw [run_of_compile hc, runScript, Script.execute, hparse]
  dsimp only
  rw [Script.Machine.run_allInScript (hmade.faithful ho) (hp.within fun _ hx => hx)]
  cases Plan.output plan <;> rfl

/-- **A program that says something is a plan.** -/
theorem exists_reads_of_run {o : ScriptOptions} (ho : o.Valid) {source out : String}
    (h : run o source = .ok out) :
    ∃ c plan, compile o source = .ok c ∧ Reads c.program plan ∧ Plan.output plan = .ok out := by
  cases hc : compile o source with
  | error e =>
    unfold run compileToScript at h
    rw [hc] at h
    simp [Except.map] at h
  | ok c =>
    cases hparse : Script.parse c.code with
    | error e =>
      rw [run_of_compile hc, runScript, Script.execute, hparse] at h
      simp [Except.mapError] at h
    | ok script =>
      obtain ⟨plan, hp, -⟩ := (parse_code_iff ho (wellmade_of_compile hc)).1 hparse
      refine ⟨c, plan, rfl, hp, ?_⟩
      rw [run_of_reads ho hc hp] at h
      cases hout : Plan.output plan with
      | ok text => simpa [hout, Except.mapError] using h
      | error fault => simp [hout, Except.mapError] at h

/-- **Compiling keeps the meaning of a program.**  Running the script of a program whose
expressions have a meaning gives what carrying out its plan gives: the same text, or the same fault
with each identifier under the name that the table has for it. -/
theorem run_eq_output_of_wellFormed {o : ScriptOptions} {source : String} {c : Compiled}
    (ho : o.fault? = none) (hc : compile o source = .ok c) (hw : Program.WellFormed c.program) :
    (∃ plan, Reads c.program plan) ∧
      ∀ plan, Reads c.program plan → Plan.AllInclusive plan ∧
        run o source =
          (Plan.output plan).mapError fun fault => .execution (fault.error c.table.nameOf) :=
  ⟨hw.exists_reads, fun _ hp =>
    ⟨hp.inclusive hw, run_of_reads (ScriptOptions.valid_of_fault? ho) hc hp⟩⟩

/-- A loop that counts from a negative number, changes its own counter and says two strings as often
as that says: not at all in three rounds, and twice in the last. -/
theorem run_eq_output_of_wellFormed_counting :
    let source := "老张装减二。老李从老张到1磨叽：老李走老李步。唠唠：“a”“b”乘老李加“c”。磨叽完了。"
    let program : Program := [.assign "老张" [.keyword .minus, .integer 2],
      .loop "老李" [.identifier "老张"] [.integer 1] [.increase "老李" [.identifier "老李"],
        .say [.string "a", .string "b", .keyword .times, .identifier "老李", .keyword .plus,
          .string "c"]]]
    let plan : List Plan := [.assign "老张" .set (.signed .neg (.integer 2)),
      .loop "老李" (.name "老张") (.upTo (.integer 1)) [.assign "老李" .add (.name "老李"),
        .say (some (.joined .add (.joined .mul (.text "ab") (.name "老李")) (.text "c")))]]
    (∃ c, compile {} source = .ok c ∧ c.program = program) ∧ Program.WellFormed program ∧
      Reads program plan ∧ Plan.output plan = .ok "c\nc\nc\nababc\n" ∧
      run {} source = .ok "c\nc\nc\nababc\n" := by
  intro source program plan
  obtain ⟨c, hc, htokens⟩ := exists_compiled {} source (fun c => c.tokens ==
    [.identifier "老张", .keyword .become, .keyword .minus, .integer 2, .keyword .period,
      .identifier "老李", .keyword .startingAt, .identifier "老张", .keyword .upTo, .integer 1,
      .keyword .loop, .identifier "老李", .keyword .incrementBy, .identifier "老李",
      .keyword .step, .keyword .period, .keyword .say, .keyword .colon, .keyword .openQuote,
      .string "a", .keyword .closeQuote, .keyword .openQuote, .string "b", .keyword .closeQuote,
      .keyword .times, .identifier "老李", .keyword .plus, .keyword .openQuote, .string "c",
      .keyword .closeQuote, .keyword .period, .keyword .endLoop]) (by decide +kernel)
  have hprogram : c.program = program := by
    have hread := (compile_eq_ok hc).2.1
    rw [eq_of_beq htokens] at hread
    exact Except.ok.inj (hread.symm.trans (by with_unfolding_all rfl))
  have hw : Program.WellFormed program := by decide +kernel
  have hproduct : IsTerm ([.string "a", .string "b"] ++ .keyword .times :: [.identifier "老李"])
      (.joined .mul (.text "ab") (.name "老李")) :=
    .more (.one (.bare (.text "a" ["b"]))) rfl (.bare (.name "老李"))
  have hsum : IsSum ([.string "a", .string "b", .keyword .times, .identifier "老李"] ++
      .keyword .plus :: [.string "c"])
      (.joined .add (.joined .mul (.text "ab") (.name "老李")) (.text "c")) :=
    .more (.one hproduct) rfl (.one (.bare (.text "c" [])))
  have hplan : Reads program plan :=
    .assign (.one (.one (.sign rfl (.bare (.integer 2))))) (.loop (.one (.one (.bare (.name "老张"))))
      (.upTo (.one (.one (.bare (.integer 1))))) (.increase (.one (.one (.bare (.name "老李"))))
        (.say (.something hsum) .nil)) .nil)
  have houtput : Plan.output plan = .ok "c\nc\nc\nababc\n" := by decide +kernel
  have hrun := (run_eq_output_of_wellFormed (by decide +kernel) hc (hprogram ▸ hw)).2 plan
    (hprogram ▸ hplan)
  rw [houtput] at hrun
  exact ⟨⟨c, hc, hprogram⟩, hw, hplan, houtput, hrun.2⟩
end Laoke
