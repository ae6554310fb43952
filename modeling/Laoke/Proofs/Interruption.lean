import Laoke.Proofs.Numbering

/-!
# Where writing stops

A script can be asked for of any statements, also of some that no text spells.  A
keyword that is no operator has no place in a script, and the first one that is
met stops the work.  The identifiers met before it have their names by then, and
the lines that were finished stay.

* `Program.each_plain_iff`: a program is written if all its tokens can be.
* `program_stops_at_first_unwritable`: what writing a program leaves, whether it
  comes to its end or not.
-/

namespace Laoke

/-! ### Which programs are written -/

theorem Expression.plain_iff {e : Expression} :
    e.Plain ↔ ∀ k, .keyword k ∈ e → k = .plus ∨ k = .minus ∨ k = .times ∨ k = .divideBy := by
  constructor
  · intro h k hk
    exact Keyword.isOperator_iff.1 (h _ hk)
  · intro h t ht
    cases t with
    | keyword k => exact Keyword.isOperator_iff.2 (h k ht)
    | identifier _ | string _ | integer _ => rfl

mutual

theorem Statement.each_plain_iff : ∀ s : Statement,
    s.Each Expression.Plain ↔ ∀ t ∈ s.tokensByLine.flatten, t.isPlain = true
  | .say e => by simp [Statement.Each, Statement.tokensByLine, Expression.Plain]
  | .declare x => by simp [Statement.Each, Statement.tokensByLine, Token.isPlain]
  | .assign x e | .increase x e | .decrease x e => by
    simp [Statement.Each, Statement.tokensByLine, Expression.Plain, Token.isPlain]
  | .loop x a b body => by
    have hbody := Program.each_plain_iff body
    have hpass : ∀ t ∈ (if body.isEmpty then [[]] else [] : List (List Token)).flatten,
        t.isPlain = true := by
      split <;> simp
    rw [Statement.Each, hbody, Statement.tokensByLine, List.flatten_cons, List.flatten_append]
    simp only [List.cons_append, List.forall_mem_cons, List.forall_mem_append, Expression.Plain,
      and_assoc]
    constructor
    · rintro ⟨ha, hb, hbody⟩
      exact ⟨rfl, ha, hb, hbody, hpass⟩
    · rintro ⟨-, ha, hb, hbody, -⟩
      exact ⟨ha, hb, hbody⟩

theorem Program.each_plain_iff : ∀ p : List Statement,
    Program.Each Expression.Plain p ↔ ∀ t ∈ (Program.tokensByLine p).flatten, t.isPlain = true
  | [] => by simp [Program.Each, Program.tokensByLine]
  | s :: p => by
    rw [Program.Each, Statement.each_plain_iff s, Program.each_plain_iff p, Program.tokensByLine,
      List.flatten_append, List.forall_mem_append]

end

/-- **Writing stops at the first token that cannot be written**, and keeps what came before.  It stops
exactly if an expression has a keyword that is no operator; the error has the first one that is met.
In any case the table goes on with the identifiers met before that, and the lines are those finished
before that. -/
theorem program_stops_at_first_unwritable (o : ScriptOptions) (p : Program) (t : SymbolTable) :
    ((∃ e d, Emitter.program o p { table := t } = .error e d) ↔
      ¬ Program.Each (fun e => ∀ k, .keyword k ∈ e →
        k = .plus ∨ k = .minus ∨ k = .times ∨ k = .divideBy) p) ∧
    ∃ d, Emitter.program o p { table := t } =
        (match (Program.tokensMet p).find? fun u => !u.isPlain with
        | none => .ok () d
        | some bad => .error (.unwritable bad) d) ∧
      d.table = { t with identifiers := t.identifiers ++
        ((identifiersIn ((Program.tokensMet p).takeWhile Token.isPlain)).filter
          (· ∉ t.identifiers)).eraseDups } ∧
      d.lines = o.header :: (Program.scriptLines o d.table.nameOf 0 p).take
        (Emitter.finished (Program.tokensByLine p)) := by
  obtain ⟨d, hresult, htable, hlines⟩ := (Emitter.Lays.program o p).result { table := t }
  have hflatten : ([] :: Program.tokensByLine p).flatten = Program.tokensMet p := rfl
  rw [hflatten] at hresult htable
  have hstop : stop? (Program.tokensMet p) = none ↔ Program.Each (fun e => ∀ k, .keyword k ∈ e →
      k = .plus ∨ k = .minus ∨ k = .times ∨ k = .divideBy) p := by
    have hplain : Expression.Plain = fun e => ∀ k, .keyword k ∈ e →
        k = .plus ∨ k = .minus ∨ k = .times ∨ k = .divideBy :=
      funext fun e => propext Expression.plain_iff
    rw [← hplain, stop?_eq_none, Program.each_plain_iff]
    rfl
  refine ⟨?_, d, hresult, ?_, ?_⟩
  · rw [← hstop, hresult]
    cases hs : stop? (Program.tokensMet p) with
    | none => simp [Emitter.ending_of_none hs]
    | some bad => simp [Emitter.ending_of_some hs]
  · rw [htable]
    exact SymbolTable.insertAll_eq t _
  · exact hlines (.refl _)

/-- A loop stops at its second bound: its line is missing, but the identifiers before are named. -/
example : Emitter.program { stem := "v" } [.assign "甲" [.identifier "己", .keyword .plus, .integer 1],
      .loop "乙" [.identifier "丙"] [.identifier "丁", .keyword .say, .identifier "戊"] []]
      { table := { stem := "w", identifiers := ["己"] } } =
    .error (.unwritable (.keyword .say))
      { table := { stem := "w", identifiers := ["己", "甲", "乙", "丙", "丁"] },
        lines := ["_db_output = \"\"", "w1 = w0+1"] } := by
  rfl

end Laoke
