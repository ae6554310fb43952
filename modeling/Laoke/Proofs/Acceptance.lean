import Laoke.Proofs.Simulation

/-!
# What a program that runs has in it

A program that runs to its end has a meaning, almost everywhere.  The reader of
programs leaves it to the script to turn down an expression that has none, and
two places get through:

* nothing to say, in the body of a loop that has no rounds (`Plan.Begins`), and
* the last number of a loop when it is empty or ends in an operator, since it is
  read together with the `plus one` that is written after it.

There are no others.
-/

namespace Laoke

/-! ### Places in a program -/

/-- A statement directly in the body at a path, where a path leads from loop to loop and the empty
path stands for the whole program. -/
inductive Program.Inside : List Statement → List Nat → Statement → Prop
  | here {p : List Statement} {s : Statement} (hs : s ∈ p) : Program.Inside p [] s
  | deeper {p body : List Statement} {i : Nat} {x : String} {a b : Expression} {path : List Nat}
      {s : Statement} (hi : p[i]? = some (.loop x a b body)) (hs : Program.Inside body path s) :
      Program.Inside p (i :: path) s

/-- A round of the body at a path begins in a scene, when a plan is carried out. -/
inductive Plan.Begins : List Plan → Scene → List Nat → Scene → Prop
  | start {plan : List Plan} {σ : Scene} : Plan.Begins plan σ [] σ
  | round {plan body : List Plan} {i k : Nat} {x : String} {first : Formula} {bound : Bound}
      {path : List Nat} {start stop : Int} {σ before earlier last : Scene}
      (hi : plan[i]? = some (.loop x first bound body))
      (hbefore : Plan.runAll (plan.take i) σ = .ok before)
      (hstart : (first.value before >>= Fault.ofBound) = .ok start)
      (hstop : bound.stop before = .ok stop) (hk : k < (stop - start).toNat)
      (hearlier : Scene.iterate (fun n σ => Plan.runAll body (σ.set x (.int n))) start k before =
        .ok earlier)
      (h : Plan.Begins body (earlier.set x (.int (start + k))) path last) :
      Plan.Begins plan σ (i :: path) last

/-- What a statement of a program that ran may look like, given whether its body had a round. -/
def Statement.Accepted (begun : Prop) : Statement → Prop
  | .say e => e.WellFormed ∨ (e = [] ∧ ¬ begun)
  | .declare _ => True
  | .assign _ e => e.WellFormed
  | .increase _ e => e.WellFormed
  | .decrease _ e => e.WellFormed
  | .loop _ a b _ =>
    a.WellFormed ∧ b.plusOne.WellFormed ∧ (b.WellFormed ↔ ¬ b.Dangling)

/-! ### Parts of a plan that was carried out -/

/-- A round that begins among those of a loop comes to its end with them. -/
theorem Scene.exists_of_iterate {step : Int → Scene → Except Fault Scene} {k n : Nat} (hk : k < n)
    {i : Int} {σ τ mid : Scene} (h : Scene.iterate step i n σ = .ok τ)
    (hmid : Scene.iterate step i k σ = .ok mid) : ∃ τ', step (i + k) mid = .ok τ' := by
  induction k generalizing i n σ with
  | zero =>
    obtain ⟨n, rfl⟩ := Nat.exists_eq_succ_of_ne_zero (Nat.ne_zero_of_lt hk)
    cases hmid
    obtain ⟨τ', hstep, -⟩ := except_bind_eq_ok.1 h
    exact ⟨τ', by simpa using hstep⟩
  | succ k ih =>
    obtain ⟨n, rfl⟩ := Nat.exists_eq_succ_of_ne_zero (Nat.ne_zero_of_lt hk)
    obtain ⟨next, hstep, h⟩ := except_bind_eq_ok.1 h
    obtain ⟨next', hstep', hmid⟩ := except_bind_eq_ok.1 hmid
    obtain rfl : next = next' := Except.ok.inj (hstep.symm.trans hstep')
    obtain ⟨τ', hτ⟩ := ih (Nat.lt_of_succ_lt_succ hk) h hmid
    exact ⟨τ', by rwa [show i + ((k + 1 : Nat) : Int) = i + 1 + k by omega]⟩

theorem Plan.exists_of_runAll {plan : List Plan} {i : Nat} {step : Plan} (hi : plan[i]? = some step)
    {σ τ before : Scene} (h : Plan.runAll plan σ = .ok τ)
    (hbefore : Plan.runAll (plan.take i) σ = .ok before) : ∃ after, step.run before = .ok after := by
  have hsplit : plan = plan.take i ++ step :: plan.drop (i + 1) := by
    obtain ⟨hlt, hget⟩ := List.getElem?_eq_some_iff.1 hi
    rw [← hget, ← List.drop_eq_getElem_cons hlt, List.take_append_drop]
  rw [hsplit, Plan.runAll_append] at h
  obtain ⟨mid, hmid, h⟩ := except_bind_eq_ok.1 h
  obtain rfl : before = mid := Except.ok.inj (hbefore.symm.trans hmid)
  obtain ⟨after, hafter, -⟩ := except_bind_eq_ok.1 h
  exact ⟨after, hafter⟩

/-- Nothing to say is not said. -/
theorem Plan.runAll_of_nothing_mem {plan : List Plan} (h : Plan.say none ∈ plan) (σ τ : Scene) :
    Plan.runAll plan σ ≠ .ok τ := by
  intro hrun
  induction plan generalizing σ with
  | nil => simp at h
  | cons step plan ih =>
    obtain ⟨mid, hstep, hrest⟩ := except_bind_eq_ok.1 hrun
    rcases List.mem_cons.1 h with rfl | h
    · cases hstep
    · exact ih h mid hrest

/-! ### Parts of a program and of its plan -/

theorem Reads.exists_of_mem {p : List Statement} {plan : List Plan} (h : Reads p plan)
    {s : Statement} (hs : s ∈ p) : ∃ step ∈ plan, Reads [s] [step] := by
  induction p generalizing plan with
  | nil => simp at hs
  | cons t p ih =>
    obtain ⟨step, more, hstep, hmore, rfl⟩ := reads_cons_iff.1 h
    rcases List.mem_cons.1 hs with rfl | hs
    · exact ⟨step, List.mem_cons_self, hstep⟩
    · obtain ⟨step', hmem, hread⟩ := ih hmore hs
      exact ⟨step', List.mem_cons_of_mem _ hmem, hread⟩

theorem Reads.exists_of_getElem? {p : List Statement} {plan : List Plan} (h : Reads p plan)
    {i : Nat} {s : Statement} (hs : p[i]? = some s) :
    ∃ step, plan[i]? = some step ∧ Reads [s] [step] := by
  induction p generalizing plan i with
  | nil => simp at hs
  | cons t p ih =>
    obtain ⟨step, more, hstep, hmore, rfl⟩ := reads_cons_iff.1 h
    cases i with
    | zero =>
      obtain rfl : t = s := by simpa using hs
      exact ⟨step, rfl, hstep⟩
    | succ i => exact ih hmore (by simpa using hs)

theorem Program.Inside.exists_reads {p : List Statement} {path : List Nat} {s : Statement}
    (h : Program.Inside p path s) {plan : List Plan} (hp : Reads p plan) :
    ∃ step, Reads [s] [step] := by
  induction h generalizing plan with
  | here hs =>
    obtain ⟨step, -, hstep⟩ := hp.exists_of_mem hs
    exact ⟨step, hstep⟩
  | deeper hi _ ih =>
    obtain ⟨step, -, hstep⟩ := hp.exists_of_getElem? hi
    cases hstep with
    | loop _ _ hbody _ => exact ih hbody

/-- **A round with nothing to say does not come to its end.** -/
theorem not_begins_of_nothing {p : List Statement} {path : List Nat}
    (h : Program.Inside p path (.say [])) {plan : List Plan} (hp : Reads p plan) {σ τ : Scene}
    (hrun : Plan.runAll plan σ = .ok τ) (last : Scene) : ¬ Plan.Begins plan σ path last := by
  intro hbegins
  generalize hs : Statement.say [] = s at h
  induction h generalizing plan σ τ with
  | here hmem =>
    subst hs
    obtain ⟨step, hstep, hread⟩ := hp.exists_of_mem hmem
    cases hread with
    | say he _ =>
      cases he with
      | nothing => exact Plan.runAll_of_nothing_mem hstep σ τ hrun
      | something he => exact he.ne_nil rfl
  | deeper hi _ ih =>
    obtain ⟨step, hstep, hread⟩ := hp.exists_of_getElem? hi
    cases hread with
    | loop _ _ hbody _ =>
      -- The loop ran to its end, and with it the round that begins here.
      cases hbegins with
      | round hi' hbefore hstart hstop hk hearlier hinner =>
        cases hstep.symm.trans hi'
        obtain ⟨after, hafter⟩ := Plan.exists_of_runAll hstep hrun hbefore
        obtain ⟨start', stop', hstart', hstop', hrounds⟩ := Plan.run_loop_eq_ok hafter
        cases hstart.symm.trans hstart'
        cases hstop.symm.trans hstop'
        obtain ⟨τ', hround⟩ := Scene.exists_of_iterate hk hrounds hearlier
        exact ih hbody hround hinner hs

theorem accepted_of_reads {s : Statement} {step : Plan} (h : Reads [s] [step]) {begun : Prop}
    (hnothing : s = .say [] → ¬ begun) : s.Accepted begun := by
  cases h with
  | say he _ =>
    cases he with
    | nothing => exact .inr ⟨rfl, hnothing rfl⟩
    | something he => exact .inl ⟨_, he⟩
  | declare _ => trivial
  | assign he _ | increase he _ | decrease he _ => exact ⟨_, he⟩
  | loop ha hb _ _ =>
    refine ⟨⟨_, ha⟩, ?_⟩
    cases hb with
    | upTo hb =>
      refine ⟨⟨_, isSum_plusOne_iff.2 ⟨_, .upTo hb, rfl⟩⟩, ?_⟩
      exact ⟨fun _ => hb.not_dangling, fun _ => ⟨_, hb⟩⟩
    | before hd hb =>
      refine ⟨⟨_, hb⟩, ?_⟩
      constructor
      · rintro ⟨f, hf⟩
        exact hf.not_dangling
      · exact fun hnot => absurd hd hnot

/-! ### Programs that run -/

/-- **A program that runs has a meaning wherever it went.**  Every expression of it is well formed,
at any depth, except for nothing to say in a body that had no round, and for the last number of a
loop: that is well formed with one added, and on its own unless it is empty or ends in an operator. -/
theorem expressions_accepted_of_run {o : ScriptOptions} {source out : String} (ho : o.fault? = none)
    (h : run o source = .ok out) :
    ∃ c plan, compile o source = .ok c ∧ Reads c.program plan ∧ Plan.output plan = .ok out ∧
      ∀ path s, Program.Inside c.program path s →
        s.Accepted (∃ σ, Plan.Begins plan {} path σ) := by
  obtain ⟨c, plan, hc, hp, hout⟩ := exists_reads_of_run (ScriptOptions.valid_of_fault? ho) h
  refine ⟨c, plan, hc, hp, hout, fun path s hs => ?_⟩
  obtain ⟨step, hstep⟩ := hs.exists_reads hp
  refine accepted_of_reads hstep ?_
  rintro rfl ⟨σ, hbegins⟩
  obtain ⟨τ, hrun, -⟩ := Plan.exists_of_output hout
  exact not_begins_of_nothing hs hp hrun σ hbegins

/-- Nothing to say in a loop without rounds, and a sum that lacks its last term as a bound. -/
theorem expressions_accepted_of_run_unfinished :
    run {} "甲从二到一磨叽：唠唠：。磨叽完了。乙从一到二加磨叽：唠唠：乙。磨叽完了。" = .ok "1\n2\n" ∧
      ∃ c plan, compile {} "甲从二到一磨叽：唠唠：。磨叽完了。乙从一到二加磨叽：唠唠：乙。磨叽完了。" =
          .ok c ∧ Reads c.program plan ∧ Plan.output plan = .ok "1\n2\n" ∧
        ∀ path s, Program.Inside c.program path s →
          s.Accepted (∃ σ, Plan.Begins plan {} path σ) := by
  have hrun : run {} "甲从二到一磨叽：唠唠：。磨叽完了。乙从一到二加磨叽：唠唠：乙。磨叽完了。" =
      .ok "1\n2\n" := by decide +kernel
  exact ⟨hrun, expressions_accepted_of_run (by decide +kernel) hrun⟩

/-- The last number of a loop, as it stands in the program. -/
def Statement.last? : Statement → Option Expression
  | .loop _ _ last _ => some last
  | _ => none

theorem Statement.last?_eq_some {s : Statement} {last : Expression} (h : s.last? = some last) :
    ∃ x a body, s = .loop x a last body := by
  cases s with
  | loop x a b body =>
    cases h
    exact ⟨x, a, body, rfl⟩
  | _ => cases h

/-- **A loop without a last number runs.**  What is missing there is not turned down: the bound is
read as plus one. -/
theorem loop_without_last_number_runs :
    run {} "甲从一到磨叽：磨叽完了。" = .ok "" ∧
      ∃ c x a b body, compile {} "甲从一到磨叽：磨叽完了。" = .ok c ∧
        Program.Inside c.program [] (.loop x a b body) ∧ ¬ b.WellFormed := by
  obtain ⟨c, hc, hany⟩ := exists_compiled {} "甲从一到磨叽：磨叽完了。"
    (fun c => c.program.any (·.last? = some [])) (by decide +kernel)
  obtain ⟨s, hs, hlast⟩ := List.any_eq_true.1 hany
  obtain ⟨x, a, body, rfl⟩ := Statement.last?_eq_some (of_decide_eq_true hlast)
  refine ⟨by decide +kernel, c, x, a, [], body, hc, .here hs, ?_⟩
  rintro ⟨f, hf⟩
  exact hf.ne_nil rfl

end Laoke
