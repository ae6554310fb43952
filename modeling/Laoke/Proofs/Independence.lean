import Laoke.Proofs.Failures

/-!
# Options make no difference

The options of a script choose its indentation and its names.  Options that are
accepted never let two names meet, so nothing that a program does depends on
them: under any two, a text has the same output, or fails for the same reason
at the same place.

Both runs are compared with what does not know the options, the plan of the
program or its first line that cannot be read.

* `Corresponds`: two results that differ at most in the names of variables.
* `Fault.corresponds`, `Rejected.corresponds`: faults and lines correspond.
* `corresponds_of_compile`: so do the results of two scripts of one program.
-/

namespace Laoke

/-- Two results of a text under different options that are the same up to the names of variables
and the tokens found in a line that is turned down. -/
inductive Corresponds (o o' : ScriptOptions) (source : String) :
    Except Error String → Except Error String → Prop
  | output (text : String) : Corresponds o o' source (.ok text) (.ok text)
  | lexical (e : LexicalError) :
      Corresponds o o' source (.error (.lexical e)) (.error (.lexical e))
  | parse (e : ParseError) : Corresponds o o' source (.error (.parse e)) (.error (.parse e))
  | ofSyntax (line : Nat) (fault fault' : Script.SyntaxFault) :
      Corresponds o o' source (.error (.execution (.ofSyntax line fault)))
        (.error (.execution (.ofSyntax line fault')))
  /-- Both names are those of one identifier. -/
  | undefinedName {c c' : Compiled} {x y y' : String} (hc : compile o source = .ok c)
      (hc' : compile o' source = .ok c') (hp : c.program = c'.program)
      (hx : x ∈ Program.identifiers c.program) (hy : c.table.get? x = some y)
      (hy' : c'.table.get? x = some y') :
      Corresponds o o' source (.error (.execution (.undefinedName y)))
        (.error (.execution (.undefinedName y')))
  | ofType (fault : Script.TypeFault) :
      Corresponds o o' source (.error (.execution (.ofType fault)))
        (.error (.execution (.ofType fault)))
  | divisionByZero :
      Corresponds o o' source (.error (.execution .divisionByZero))
        (.error (.execution .divisionByZero))
  | overflow :
      Corresponds o o' source (.error (.execution .overflow)) (.error (.execution .overflow))
  | tooLong :
      Corresponds o o' source (.error (.execution .tooLong)) (.error (.execution .tooLong))

section

variable {o o' : ScriptOptions} {source : String} {c c' : Compiled}

/-- **A fault of the plan is the same error in both scripts**, but for the name in it. -/
theorem Fault.corresponds (hc : compile o source = .ok c) (hc' : compile o' source = .ok c')
    (hp : c.program = c'.program) {fault : Fault}
    (h : fault.Within (Program.identifiers c.program)) :
    Corresponds o o' source (.error (.execution (fault.error c.table.nameOf)))
      (.error (.execution (fault.error c'.table.nameOf))) := by
  cases fault with
  | undefined x =>
    have hy := (wellmade_of_compile hc).get?_table h
    have hy' := (wellmade_of_compile hc').get?_table (hp ▸ h)
    exact .undefinedName hc hc' hp h hy hy'
  | arithmetic fault =>
    cases fault with
    | binaryType op left right => exact .ofType _
    | unaryType op operand => exact .ofType _
    | divisionByZero => exact .divisionByZero
    | overflow => exact .overflow
    | tooLong => exact .tooLong
  | notInteger type => exact .ofType _
  | nothingToSay => exact .ofType _

/-- **Lines that are turned down are turned down at the same place.** -/
theorem Rejected.corresponds {n : Nat} {lines : List (Option Statement)} {e e' : Script.Error}
    (h : Rejected n lines e) (h' : Rejected n lines e') :
    Corresponds o o' source (.error (.execution e)) (.error (.execution e')) := by
  obtain ⟨i, hi, wanted, -, found, rfl⟩ := h
  obtain ⟨i', hi', wanted', -, found', rfl⟩ := h'
  cases hi.symm.trans hi'
  exact .ofSyntax _ _ _

/-- **Two scripts of one program have corresponding results.** -/
theorem corresponds_of_compile (ho : o.Valid) (ho' : o'.Valid) (hc : compile o source = .ok c)
    (hc' : compile o' source = .ok c') (hp : c.program = c'.program) :
    Corresponds o o' source (run o source) (run o' source) := by
  by_cases hplan : ∃ plan, Reads c.program plan
  · obtain ⟨plan, hplan⟩ := hplan
    have hrun := run_of_reads ho hc hplan
    have hrun' := run_of_reads ho' hc' (hp ▸ hplan)
    cases hout : Plan.output plan with
    | ok text =>
      rw [hrun, hrun', hout]
      exact .output text
    | error fault =>
      have hwithin := Plan.faultsWithin_output (hplan.within fun _ hx => hx) fault hout
      rw [hrun, hrun', hout]
      exact Fault.corresponds hc hc' hp hwithin
  · obtain ⟨e, he, hrun⟩ := run_of_not_reads ho hc hplan
    obtain ⟨e', he', hrun'⟩ := run_of_not_reads ho' hc' (hp ▸ hplan)
    rw [← hp] at he'
    rw [hrun, hrun']
    exact he.corresponds he'

end

/-- **The result of a text does not depend on the options of its script.**  Under any two options
that are accepted, both runs give the same output, or both fail alike: with the same error in the
text, on the same line of the script, with the same fault of types, of arithmetic, or for want of a
value of the same variable, each under its own name. -/
theorem run_corresponds {o o' : ScriptOptions} (ho : o.fault? = none) (ho' : o'.fault? = none)
    (source : String) : Corresponds o o' source (run o source) (run o' source) := by
  cases ht : tokenize source with
  | error e =>
    rw [run_of_lexical ht, run_of_lexical ht]
    exact .lexical e
  | ok tokens =>
    cases hp : Program.ofTokens tokens with
    | error e =>
      rw [run_of_parse ht hp, run_of_parse ht hp]
      exact .parse e
    | ok p =>
      obtain ⟨c, hc, hprogram⟩ := exists_compile o ht hp
      obtain ⟨c', hc', hprogram'⟩ := exists_compile o' ht hp
      exact corresponds_of_compile (ScriptOptions.valid_of_fault? ho)
        (ScriptOptions.valid_of_fault? ho') hc hc' (hprogram.trans hprogram'.symm)

/-- A variable without a value, in scripts whose accumulators and variables are named like words of
the script. -/
theorem run_corresponds_undefined :
    run { indent := "\t", accumulator := "str", stem := "for" } "老李装一。唠唠：老李加老张。" =
        .error (.execution (.undefinedName "for1")) ∧
      run { indent := "  \t", accumulator := "range", stem := "None" }
        "老李装一。唠唠：老李加老张。" = .error (.execution (.undefinedName "None1")) ∧
      Corresponds { indent := "\t", accumulator := "str", stem := "for" }
        { indent := "  \t", accumulator := "range", stem := "None" } "老李装一。唠唠：老李加老张。"
        (.error (.execution (.undefinedName "for1")))
        (.error (.execution (.undefinedName "None1"))) := by
  have hrun : run { indent := "\t", accumulator := "str", stem := "for" }
      "老李装一。唠唠：老李加老张。" = .error (.execution (.undefinedName "for1")) := by
    decide +kernel
  have hrun' : run { indent := "  \t", accumulator := "range", stem := "None" }
      "老李装一。唠唠：老李加老张。" = .error (.execution (.undefinedName "None1")) := by
    decide +kernel
  have hsame : Corresponds { indent := "\t", accumulator := "str", stem := "for" }
      { indent := "  \t", accumulator := "range", stem := "None" } "老李装一。唠唠：老李加老张。" _ _ :=
    run_corresponds (by decide +kernel) (by decide +kernel) _
  rw [hrun, hrun'] at hsame
  exact ⟨hrun, hrun', hsame⟩

end Laoke
