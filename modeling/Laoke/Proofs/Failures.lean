import Laoke.Proofs.Interruption
import Laoke.Proofs.Recognition
import Laoke.Proofs.Rejection
import Laoke.Proofs.Simulation

/-!
# All ways to fail

A text has no output for one of four reasons: its tokens are wrong, its
statements are, one of its expressions has no meaning, or its plan cannot be
carried out.  Nothing else goes wrong, although scripts have more errors than
that.

* `exists_compile`: a program that was read is always written.
* `Plan.faultsWithin_output`: a variable without a value is one of the program.
* `run_of_not_reads`: a program that is no plan fails at a line that depends on
  nothing but the program.
* `Failure`, `failure_of_run`: the reasons, and that there are no others.
-/

namespace Laoke

open Script (Wanted)

/-! ### Writing -/

/-- **A program that was read is written.** -/
theorem exists_compile (o : ScriptOptions) {source : String} {tokens : List Token} {p : Program}
    (ht : tokenize source = .ok tokens) (hp : Program.ofTokens tokens = .ok p) :
    ∃ c, compile o source = .ok c ∧ c.program = p := by
  have hplain := (Program.spells_of_ofTokens hp).plain
  have hgo : stop? ([] :: Program.tokensByLine p).flatten = none :=
    stop?_eq_none.2 ((Program.each_plain_iff p).1 hplain)
  obtain ⟨draft, hd, -⟩ := (Emitter.Lays.program o p).result (.start o)
  rw [Emitter.ending_of_none hgo] at hd
  have hemit : p.emit o = .ok draft := by
    unfold Program.emit
    rw [hd]
  refine ⟨⟨tokens, p, draft.table, draft.code⟩, ?_, rfl⟩
  simp only [compile, ht, hp, hemit]

/-! ### Faults of a plan -/

/-- A fault that names no variable but those among some identifiers. -/
def Fault.Within (scope : List String) : Fault → Prop
  | .undefined x => x ∈ scope
  | _ => True

/-- A result that is at worst such a fault. -/
def FaultsWithin {α : Type} (scope : List String) (d : Except Fault α) : Prop :=
  ∀ fault, d = .error fault → fault.Within scope

section

variable {α β : Type} {scope : List String}

theorem FaultsWithin.ok (a : α) : FaultsWithin scope (.ok a) := fun _ h => nomatch h

theorem FaultsWithin.bind {d : Except Fault α} {f : α → Except Fault β}
    (hd : FaultsWithin scope d) (hf : ∀ a, FaultsWithin scope (f a)) :
    FaultsWithin scope (d >>= f) := by
  intro fault h
  rcases except_bind_eq_error.1 h with hbad | ⟨a, -, hbad⟩
  · exact hd fault hbad
  · exact hf a fault hbad

theorem faultsWithin_lookup (σ : Scene) {x : String} (hx : x ∈ scope) :
    FaultsWithin scope (σ.lookup x) := by
  intro fault h
  unfold Scene.lookup at h
  split at h
  · cases h
  · cases h
    exact hx

theorem faultsWithin_ofArithmetic (r : Except Script.ArithmeticFault Script.Value) :
    FaultsWithin scope (Fault.ofArithmetic r) := by
  intro fault h
  cases r with
  | ok v => cases h
  | error e =>
    cases h
    trivial

theorem faultsWithin_ofBound (v : Script.Value) : FaultsWithin scope (Fault.ofBound v) := by
  intro fault h
  cases v <;> cases h <;> trivial

theorem Formula.faultsWithin (σ : Scene) (f : Formula) (hf : f.Within scope) :
    FaultsWithin scope (f.value σ) := by
  induction f with
  | integer n => exact .ok _
  | text s => exact .ok _
  | name x => exact faultsWithin_lookup σ hf
  | signed op f ih => exact (ih hf).bind fun v => faultsWithin_ofArithmetic _
  | joined op f g ihf ihg =>
    exact (ihf hf.1).bind fun v => (ihg hf.2).bind fun w => faultsWithin_ofArithmetic _

theorem Bound.faultsWithin (σ : Scene) (bound : Bound) (hb : bound.formula.Within scope) :
    FaultsWithin scope (bound.stop σ) := by
  cases bound with
  | upTo last =>
    exact (last.faultsWithin σ hb.1).bind fun _ =>
      (faultsWithin_ofArithmetic _).bind faultsWithin_ofBound
  | before stop => exact (stop.faultsWithin σ hb).bind faultsWithin_ofBound

theorem Scene.faultsWithin_assigned (σ : Scene) {x : String} (hx : x ∈ scope)
    (op : Script.AssignOp) {f : Formula} (hf : f.Within scope) :
    FaultsWithin scope (σ.assigned x op f) := by
  refine (f.faultsWithin σ hf).bind fun v => ?_
  cases op with
  | set => exact .ok _
  | add | sub => exact (faultsWithin_lookup σ hx).bind fun _ => faultsWithin_ofArithmetic _

theorem Scene.faultsWithin_iterate {step : Int → Scene → Except Fault Scene}
    (h : ∀ i σ, FaultsWithin scope (step i σ)) (n : Nat) (i : Int) (σ : Scene) :
    FaultsWithin scope (Scene.iterate step i n σ) := by
  induction n generalizing i σ with
  | zero => exact .ok σ
  | succ n ih => exact (h i σ).bind fun σ' => ih (i + 1) σ'

mutual

theorem Plan.faultsWithin_run : ∀ (step : Plan), step.Within scope →
    ∀ σ, FaultsWithin scope (step.run σ)
  | .say none, _, _ => by
    rintro fault ⟨⟩
    trivial
  | .say (some f), hf, σ => (f.faultsWithin σ (hf f rfl)).bind fun _ => .ok _
  | .declare _, _, _ => .ok _
  | .assign _ op _, ⟨hx, hf⟩, σ => (σ.faultsWithin_assigned hx op hf).bind fun _ => .ok _
  | .loop _ first bound body, ⟨_, hfirst, hbound, hbody⟩, σ =>
    (first.faultsWithin σ hfirst).bind fun v => (faultsWithin_ofBound v).bind fun start =>
      (bound.faultsWithin σ hbound).bind fun _ => Scene.faultsWithin_iterate
        (fun _ _ => Plan.faultsWithin_runAll body hbody _) _ start σ

theorem Plan.faultsWithin_runAll : ∀ (plan : List Plan), Plan.AllWithin scope plan →
    ∀ σ, FaultsWithin scope (Plan.runAll plan σ)
  | [], _, σ => .ok σ
  | step :: plan, ⟨hstep, hplan⟩, σ =>
    (Plan.faultsWithin_run step hstep σ).bind fun σ' => Plan.faultsWithin_runAll plan hplan σ'

end

/-- **A variable without a value is one of the plan.** -/
theorem Plan.faultsWithin_output {plan : List Plan} (hplan : Plan.AllWithin scope plan) :
    FaultsWithin scope (Plan.output plan) :=
  (Plan.faultsWithin_runAll plan hplan {}).bind fun _ => .ok _

end

/-! ### Failures -/

section

variable {o : ScriptOptions} {source : String}

theorem run_of_lexical {e : LexicalError} (h : tokenize source = .error e) :
    run o source = .error (.lexical e) := by
  simp only [run, compileToScript, compile, h]
  rfl

theorem run_of_parse {tokens : List Token} {e : ParseError} (ht : tokenize source = .ok tokens)
    (h : Program.ofTokens tokens = .error e) : run o source = .error (.parse e) := by
  simp only [run, compileToScript, compile, ht, h]
  rfl

/-- **A program that is no plan fails at its first line that cannot be read.** -/
theorem run_of_not_reads (ho : o.Valid) {c : Compiled} (hc : compile o source = .ok c)
    (h : ¬ ∃ plan, Reads c.program plan) :
    ∃ e, Rejected 2 (Program.byLine c.program) e ∧ run o source = .error (.execution e) := by
  have hmade := wellmade_of_compile hc
  cases hparse : Script.parse c.code with
  | ok script =>
    obtain ⟨plan, hp, -⟩ := (parse_code_iff ho hmade).1 hparse
    exact absurd ⟨plan, hp⟩ h
  | error e =>
    refine ⟨e, rejected_of_parse ho hmade hparse, ?_⟩
    rw [run_of_compile hc, runScript, Script.execute, hparse]
    rfl

/-- Why a text has no output. -/
inductive Failure (o : ScriptOptions) (source : String) : Error → Prop
  | lexical {e : LexicalError} (h : tokenize source = .error e) : Failure o source (.lexical e)
  | parse {tokens : List Token} {e : ParseError} (ht : tokenize source = .ok tokens)
      (h : Program.ofTokens tokens = .error e) : Failure o source (.parse e)
  /-- An expression has no meaning. -/
  | malformed {c : Compiled} {line : Nat} {fault : Script.SyntaxFault}
      (hc : compile o source = .ok c)
      (h : Rejected 2 (Program.byLine c.program) (.ofSyntax line fault)) :
      Failure o source (.execution (.ofSyntax line fault))
  /-- A variable of the program has no value. -/
  | undefined {c : Compiled} {x name : String} (hc : compile o source = .ok c)
      (hx : x ∈ Program.identifiers c.program) (hname : c.table.get? x = some name) :
      Failure o source (.execution (.undefinedName name))
  /-- Values have the wrong types. -/
  | ofType {fault : Script.TypeFault} (h : ∀ name, fault ≠ .notCallable name) :
      Failure o source (.execution (.ofType fault))
  | divisionByZero : Failure o source (.execution .divisionByZero)
  | overflow : Failure o source (.execution .overflow)
  | tooLong : Failure o source (.execution .tooLong)

theorem Rejected.failure {c : Compiled} (hc : compile o source = .ok c) {e : Script.Error}
    (h : Rejected 2 (Program.byLine c.program) e) : Failure o source (.execution e) := by
  obtain ⟨i, hi, wanted, hwanted, found, rfl⟩ := h
  exact .malformed hc ⟨i, hi, wanted, hwanted, found, rfl⟩

theorem Fault.Within.failure {c : Compiled} (hc : compile o source = .ok c) {fault : Fault}
    (h : fault.Within (Program.identifiers c.program)) :
    Failure o source (.execution (fault.error c.table.nameOf)) := by
  cases fault with
  | undefined x => exact .undefined hc h ((wellmade_of_compile hc).get?_table h)
  | arithmetic fault =>
    cases fault with
    | binaryType op left right => exact .ofType (by simp)
    | unaryType op operand => exact .ofType (by simp)
    | divisionByZero => exact .divisionByZero
    | overflow => exact .overflow
    | tooLong => exact .tooLong
  | notInteger type => exact .ofType (by simp)
  | nothingToSay => exact .ofType (by simp)

/-- **There is no other reason.** -/
theorem failure_of_run (ho : o.Valid) {e : Error} (h : run o source = .error e) :
    Failure o source e := by
  cases ht : tokenize source with
  | error bad =>
    rw [run_of_lexical ht] at h
    cases h
    exact .lexical ht
  | ok tokens =>
    cases hp : Program.ofTokens tokens with
    | error bad =>
      rw [run_of_parse ht hp] at h
      cases h
      exact .parse ht hp
    | ok p =>
      obtain ⟨c, hc, rfl⟩ := exists_compile o ht hp
      by_cases hplan : ∃ plan, Reads c.program plan
      · obtain ⟨plan, hplan⟩ := hplan
        rw [run_of_reads ho hc hplan] at h
        cases hout : Plan.output plan with
        | ok text => simp [hout, Except.mapError] at h
        | error fault =>
          have hwithin := Plan.faultsWithin_output (hplan.within fun _ hx => hx) fault hout
          rw [hout] at h
          cases h
          exact hwithin.failure hc
      · obtain ⟨bad, hbad, hrun⟩ := run_of_not_reads ho hc hplan
        rw [hrun] at h
        cases h
        exact hbad.failure hc

/-- The expressions in the line of a statement. -/
def Statement.expressions : Statement → List Expression
  | .say e => [e]
  | .declare _ => []
  | .assign _ e => [e]
  | .increase _ e => [e]
  | .decrease _ e => [e]
  | .loop _ a b _ => [a, b]

theorem exists_malformed {s : Statement} (hs : ¬ s.Readable) :
    ∃ e ∈ s.expressions, ¬ e.WellFormed := by
  cases s with
  | say e => exact ⟨e, List.mem_singleton_self e, fun he => hs (.inr he)⟩
  | declare x => exact absurd trivial hs
  | assign x e | increase x e | decrease x e => exact ⟨e, List.mem_singleton_self e, hs⟩
  | loop x a b body =>
    by_cases ha : a.WellFormed
    · refine ⟨b, by simp [Statement.expressions], fun ⟨f, hf⟩ => hs ⟨ha, ?_⟩⟩
      exact ⟨_, hf.plusOne⟩
    · exact ⟨a, by simp [Statement.expressions], ha⟩

/-- **A script is turned down because of a malformed expression**, and not at its first line. -/
theorem Rejected.malformed {p : Program} {line : Nat} {fault : Script.SyntaxFault}
    (h : Rejected 2 (Program.byLine p) (.ofSyntax line fault)) :
    2 ≤ line ∧ (∃ wanted ∈ Wanted.atExpression, ∃ found, fault = .unexpectedToken wanted found) ∧
      ∃ s, (Program.byLine p)[line - 2]? = some (some s) ∧
        ∃ e ∈ s.expressions, ¬ e.WellFormed := by
  obtain ⟨i, hi, wanted, hwanted, found, he⟩ := h
  cases he
  obtain ⟨s, hs, hbad⟩ := exists_of_firstUnreadable? hi
  have hline : 2 + i - 2 = i := by omega
  refine ⟨by omega, ⟨wanted, hwanted, found, rfl⟩, s, ?_, exists_malformed hbad⟩
  rwa [hline]

end

/-- **What is never reported.**  Whatever the text, with options that are accepted: every program
that is read is written; the accumulator keeps its text; a variable without a value is one of the
program, under the name that the table has for it; nothing is called that cannot be; a line that is
turned down is that of a statement with a malformed expression, and breaks off at that expression;
and all lines of a script are read. -/
theorem failures_out_of_reach {o : ScriptOptions} (ho : o.fault? = none) (source : String) :
    (∀ e, run o source ≠ .error (.emission e)) ∧
      (∀ name, run o source ≠ .error (.execution (.missingAccumulator name))) ∧
      (∀ name, run o source = .error (.execution (.undefinedName name)) →
        name ≠ o.accumulator ∧ ∃ c, compile o source = .ok c ∧
          ∃ x ∈ Program.identifiers c.program, c.table.get? x = some name) ∧
      (∀ name, run o source ≠ .error (.execution (.ofType (.notCallable name)))) ∧
      (∀ line fault, run o source = .error (.execution (.ofSyntax line fault)) →
        2 ≤ line ∧
          (∃ wanted ∈ Wanted.atExpression, ∃ found, fault = .unexpectedToken wanted found) ∧
          ∃ c s, compile o source = .ok c ∧ (Program.byLine c.program)[line - 2]? = some (some s) ∧
            ∃ e ∈ s.expressions, ¬ e.WellFormed) ∧
      ∀ c, compile o source = .ok c → ∃ lines, Script.readLines c.code = .ok lines := by
  have hv := ScriptOptions.valid_of_fault? ho
  refine ⟨fun e h => ?_, fun name h => ?_, fun name h => ?_, fun name h => ?_,
    fun line fault h => ?_, fun c hc => ⟨_, (wellmade_of_compile hc).readLines_code hv⟩⟩
  · cases failure_of_run hv h
  · cases failure_of_run hv h
  · cases failure_of_run hv h with
    | @undefined c x _ hc hx hname =>
      have hmade := wellmade_of_compile hc
      refine ⟨?_, c, hc, x, hx, hname⟩
      rw [hmade.get?_table hx] at hname
      cases hname
      exact (hmade.naming hv).ne_accumulator x
  · cases failure_of_run hv h with
    | ofType hcallable => exact hcallable name rfl
  · cases failure_of_run hv h with
    | malformed hc hbad =>
      obtain ⟨hline, hwanted, s, hs, he⟩ := hbad.malformed
      exact ⟨hline, hwanted, _, s, hc, hs, he⟩

/-- A product without its second factor in the body of a loop, in a script whose accumulator is
named like the function that it calls. -/
theorem failures_out_of_reach_unfinished_product :
    run { indent := "\t", accumulator := "str", stem := "for" }
        "老张从一到二磨叽：唠唠：老张乘。磨叽完了。" =
        .error (.execution (.ofSyntax 3 (.unexpectedToken .expression (some .rightParen)))) ∧
      ∃ c s, compile { indent := "\t", accumulator := "str", stem := "for" }
          "老张从一到二磨叽：唠唠：老张乘。磨叽完了。" = .ok c ∧
        (Program.byLine c.program)[1]? = some (some s) ∧ ∃ e ∈ s.expressions, ¬ e.WellFormed := by
  have hrun : run { indent := "\t", accumulator := "str", stem := "for" }
      "老张从一到二磨叽：唠唠：老张乘。磨叽完了。" =
        .error (.execution (.ofSyntax 3 (.unexpectedToken .expression (some .rightParen)))) := by
    decide +kernel
  obtain ⟨-, -, -, -, hline, -⟩ := failures_out_of_reach
    (o := { indent := "\t", accumulator := "str", stem := "for" }) (by decide +kernel)
    "老张从一到二磨叽：唠唠：老张乘。磨叽完了。"
  obtain ⟨-, -, hbad⟩ := hline _ _ hrun
  exact ⟨hrun, hbad⟩

end Laoke
