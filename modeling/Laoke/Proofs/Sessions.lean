import Laoke.Proofs.Composition
import Laoke.Session

/-!
# Sessions and single runs

A session runs all of its text again for every line, and shows what it has not
shown yet.  This file follows a session through any lines and resets, together
with its answers, and compares it with a single run of the text that it holds.

* `Ledger`: the answers cut into groups of lines that were accepted or dropped
  as one.
* `Session.eval_cases`: the three things that a line can do.
* `Transcript.InStep`: a session that holds the text of its accepted groups and
  has shown what this text says.
* `InStep.follow`, `inStep_ofSteps`: every step keeps it so, and so does any
  number of steps.
-/

namespace Laoke

/-! ### Groups of lines -/

/-- The answer to a line, after the line. -/
abbrev Answer := String × Reply

/-- Whether a line was accepted, with all that waited for it. -/
def Reply.isOutput : Reply → Bool
  | .output _ => true
  | .incomplete | .rejected _ => false

/-- The output that came with an answer. -/
def Reply.text : Reply → String
  | .output text => text
  | .incomplete | .rejected _ => ""

/-- Lines up to the first one that was not left waiting, and the answer to that one. -/
structure Group where
  lines : List String
  reply : Reply
  deriving DecidableEq, Repr

/-- Answers cut into groups. -/
structure Ledger where
  groups : List Group := []
  /-- The lines that still wait. -/
  waiting : List String := []
  deriving DecidableEq, Repr

namespace Ledger

/-- Enters an answer, which ends the group unless the line waits. -/
def enter (l : Ledger) (answer : Answer) : Ledger :=
  match answer with
  | (line, .incomplete) => { l with waiting := l.waiting ++ [line] }
  | (line, reply) => ⟨l.groups ++ [⟨l.waiting ++ [line], reply⟩], []⟩

/-- The lines of the groups that ended with an output. -/
def accepted (l : Ledger) : List String :=
  (l.groups.filter (·.reply.isOutput)).flatMap Group.lines

theorem enter_output (l : Ledger) (line text : String) :
    (l.enter (line, .output text)).accepted = l.accepted ++ (l.waiting ++ [line]) ∧
      (l.enter (line, .output text)).waiting = [] := by
  simp [enter, accepted, Reply.isOutput]

theorem enter_rejected (l : Ledger) (line : String) (e : Error) :
    (l.enter (line, .rejected e)).accepted = l.accepted ∧
      (l.enter (line, .rejected e)).waiting = [] := by
  simp [enter, accepted, Reply.isOutput]

end Ledger

/-! ### Lines as text -/

/-- Lines one after the other, each with its end. -/
def textOf : List String → String
  | [] => ""
  | line :: lines => line ++ "\n" ++ textOf lines

theorem textOf_append (lines more : List String) :
    textOf (lines ++ more) = textOf lines ++ textOf more := by
  induction lines with
  | nil => simp [textOf]
  | cons line lines ih => simp only [List.cons_append, textOf, ih, String.append_assoc]

theorem textOf_singleton (line : String) : textOf [line] = line ++ "\n" := by
  simp [textOf]

theorem parted_textOf (lines : List String) (v : List Char) : Parted (textOf lines).toList v := by
  rcases List.eq_nil_or_concat' lines with rfl | ⟨front, line, rfl⟩
  · exact .inl rfl
  · refine .inr (.inl ?_)
    rw [textOf_append, textOf_singleton, String.toList_append, String.toList_append,
      ← List.append_assoc]
    exact List.getLast?_concat

theorem Text.byteSize_cons (c : Char) (cs : List Char) :
    byteSize (c :: cs) = c.utf8Size + byteSize cs := by
  unfold byteSize
  rw [String.ofList_cons, String.utf8ByteSize_append, String.utf8ByteSize_singleton]

/-- Dropping the bytes of a text leaves what follows it. -/
theorem Text.dropBytes?_append (cs ds : List Char) :
    dropBytes? (byteSize cs) (cs ++ ds) = some ds := by
  induction cs with
  | nil => cases ds <;> rfl
  | cons c cs ih =>
    have hsize := byteSize_cons c cs
    have hpos := c.utf8Size_pos
    obtain ⟨n, hn⟩ : ∃ n, byteSize (c :: cs) = n + 1 := Nat.exists_eq_add_one.2 (by omega)
    rw [hn, List.cons_append, dropBytes?, if_pos (by omega),
      show n + 1 - c.utf8Size = byteSize cs by omega]
    exact ih

/-! ### One line -/

namespace Session

/-- The text that a line is tried with. -/
def candidate (s : Session) (line : String) : String :=
  s.source ++ s.pending ++ line ++ "\n"

/-- **What a line can do**: it is accepted, waits, or is dropped with all that waited. -/
theorem eval_cases (s : Session) (line : String) :
    (∃ out, run s.options (s.candidate line) = .ok out ∧
      s.eval line = (.output (s.unseen out), { s with
        source := s.candidate line, pending := "", shown := out.utf8ByteSize })) ∨
    (∃ wanted, run s.options (s.candidate line) = .error (.parse (.unexpectedEnd wanted)) ∧
      s.eval line = (.incomplete, { s with pending := s.pending ++ line ++ "\n" })) ∨
    ∃ e, s.eval line = (.rejected e, { s with pending := "" }) := by
  unfold eval candidate
  dsimp only
  split
  · rename_i out hrun
    exact .inl ⟨out, hrun, rfl⟩
  · rename_i wanted hrun
    exact .inr (.inl ⟨wanted, hrun, rfl⟩)
  · exact .inr (.inr ⟨_, rfl⟩)

theorem unseen_append {s : Session} {seen : String} (h : s.shown = seen.utf8ByteSize)
    (rest : String) : s.unseen (seen ++ rest) = rest := by
  have hdrop := Text.dropBytes?_append seen.toList rest.toList
  rw [Text.byteSize, String.ofList_toList] at hdrop
  rw [unseen, h, String.toList_append, hdrop, Option.getD_some, String.ofList_toList]

end Session

/-- A text that could not be read has no script. -/
theorem compileToScript_of_run {o : ScriptOptions} {source : String} {e : ParseError}
    (h : run o source = .error (.parse e)) : compileToScript o source = .error (.parse e) := by
  unfold run at h
  split at h
  · rename_i hc
    rw [hc, h]
  · unfold runScript Except.mapError at h
    split at h <;> cases h

/-- **An empty text is a program that says nothing.** -/
theorem run_empty {o : ScriptOptions} (ho : o.Valid) : run o "" = .ok "" := by
  have htokens : tokenize "" = .ok [] := by decide +kernel
  have hprogram : Program.ofTokens [] = .ok [] := by
    unfold Program.ofTokens
    rw [Reader.statements_eq]
    rfl
  have hc : ∃ c, compile o "" = .ok c ∧ c.program = [] := by
    unfold compile
    rw [htokens]
    dsimp only
    rw [hprogram]
    exact ⟨_, rfl, rfl⟩
  obtain ⟨c, hc, hnil⟩ := hc
  have hreads : Reads c.program [] := hnil ▸ .nil
  rw [run_of_reads ho hc hreads]
  rfl

/-! ### Following a session -/

/-- What can be done with a session. -/
inductive Session.Step where
  | line (text : String)
  | reset
  deriving DecidableEq, Repr

/-- A session and its answers since it was last reset. -/
structure Transcript where
  session : Session
  answers : List Answer := []
  deriving DecidableEq, Repr

namespace Transcript

/-- Takes one step. -/
def follow (t : Transcript) : Session.Step → Transcript
  | .line text => ⟨(t.session.eval text).2, t.answers ++ [(text, (t.session.eval text).1)]⟩
  | .reset => ⟨t.session.reset, []⟩

/-- A new session after some steps. -/
def ofSteps (o : ScriptOptions) (steps : List Session.Step) : Transcript :=
  steps.foldl follow ⟨{ options := o }, []⟩

/-- The answers cut into groups. -/
def ledger (t : Transcript) : Ledger :=
  t.answers.foldl Ledger.enter {}

/-- All output, in the order in which it was shown. -/
def output (t : Transcript) : String :=
  t.answers.foldl (fun shown answer => shown ++ answer.2.text) ""

/-- A session that holds the text of its accepted groups, and has shown what this text says. -/
structure InStep (o : ScriptOptions) (t : Transcript) : Prop where
  options : t.session.options = o
  source : t.session.source = textOf t.ledger.accepted
  pending : t.session.pending = textOf t.ledger.waiting
  output : run o t.session.source = .ok t.output
  shown : t.session.shown = t.output.utf8ByteSize
  unfinished : t.session.pending = "" ∨ ∃ wanted,
    compileToScript o (t.session.source ++ t.session.pending) =
      .error (.parse (.unexpectedEnd wanted))

variable {o : ScriptOptions} {t : Transcript}

theorem follow_line {text : String} {reply : Reply} {s : Session}
    (h : t.session.eval text = (reply, s)) :
    t.follow (.line text) = ⟨s, t.answers ++ [(text, reply)]⟩ := by
  rw [follow, h]

theorem ledger_concat (s : Session) (a : Answer) :
    ledger ⟨s, t.answers ++ [a]⟩ = t.ledger.enter a := by
  simp [ledger]

theorem output_concat (s : Session) (a : Answer) :
    output ⟨s, t.answers ++ [a]⟩ = t.output ++ a.2.text := by
  simp [output]

theorem inStep_new (ho : o.Valid) : InStep o ⟨{ options := o }, []⟩ where
  options := rfl
  source := rfl
  pending := rfl
  output := run_empty ho
  shown := rfl
  unfinished := .inl rfl

namespace InStep

theorem candidate_eq (h : InStep o t) (line : String) :
    t.session.candidate line = textOf (t.ledger.accepted ++ (t.ledger.waiting ++ [line])) := by
  rw [textOf_append, textOf_append, textOf_singleton, ← h.source, ← h.pending, Session.candidate]
  simp only [String.append_assoc]

/-- **A line that is accepted shows what is new**: what was shown before is said again first. -/
theorem exists_of_run_candidate (ho : o.Valid) (h : InStep o t) {line out : String}
    (hrun : run o (t.session.candidate line) = .ok out) : ∃ rest, out = t.output ++ rest := by
  have hparted := parted_textOf t.ledger.accepted (t.session.pending ++ line ++ "\n").toList
  rw [← h.source] at hparted
  refine run_append ho hparted h.output ?_
  rw [← hrun, Session.candidate]
  simp only [String.append_assoc]

theorem accept (h : InStep o t) {line rest : String}
    (hrun : run o (t.session.candidate line) = .ok (t.output ++ rest)) :
    InStep o ⟨{ t.session with
      source := t.session.candidate line, pending := "", shown := (t.output ++ rest).utf8ByteSize },
      t.answers ++ [(line, .output rest)]⟩ := by
  obtain ⟨haccepted, hwaiting⟩ := t.ledger.enter_output line rest
  constructor
  case options => exact h.options
  case source => rw [ledger_concat, haccepted, ← h.candidate_eq]
  case pending =>
    rw [ledger_concat, hwaiting]
    rfl
  case output =>
    rw [output_concat]
    exact hrun
  case shown =>
    rw [output_concat]
    rfl
  case unfinished => exact .inl rfl

theorem wait (h : InStep o t) {line : String} {wanted : Expectation}
    (hrun : run o (t.session.candidate line) = .error (.parse (.unexpectedEnd wanted))) :
    InStep o ⟨{ t.session with pending := t.session.pending ++ line ++ "\n" },
      t.answers ++ [(line, .incomplete)]⟩ := by
  constructor
  case options => exact h.options
  case source =>
    rw [ledger_concat]
    exact h.source
  case pending =>
    rw [ledger_concat, Ledger.enter, textOf_append, textOf_singleton, ← h.pending]
    exact String.append_assoc ..
  case output =>
    rw [output_concat, Reply.text, String.append_empty]
    exact h.output
  case shown =>
    rw [output_concat, Reply.text, String.append_empty]
    exact h.shown
  case unfinished =>
    refine .inr ⟨wanted, ?_⟩
    rw [← compileToScript_of_run hrun, Session.candidate]
    simp only [String.append_assoc]

theorem drop (h : InStep o t) (line : String) (e : Error) :
    InStep o ⟨{ t.session with pending := "" }, t.answers ++ [(line, .rejected e)]⟩ := by
  obtain ⟨haccepted, hwaiting⟩ := t.ledger.enter_rejected line e
  constructor
  case options => exact h.options
  case source =>
    rw [ledger_concat, haccepted]
    exact h.source
  case pending =>
    rw [ledger_concat, hwaiting]
    rfl
  case output =>
    rw [output_concat, Reply.text, String.append_empty]
    exact h.output
  case shown =>
    rw [output_concat, Reply.text, String.append_empty]
    exact h.shown
  case unfinished => exact .inl rfl

/-- **Every step keeps a session in step.** -/
theorem follow (ho : o.Valid) (h : InStep o t) (step : Session.Step) : InStep o (t.follow step) := by
  cases step with
  | reset =>
    rw [Transcript.follow, Session.reset, h.options]
    exact inStep_new ho
  | line text =>
    rcases t.session.eval_cases text with ⟨out, hrun, heval⟩ | ⟨wanted, hrun, heval⟩ | ⟨e, heval⟩
    · rw [h.options] at hrun
      obtain ⟨rest, rfl⟩ := h.exists_of_run_candidate ho hrun
      rw [Session.unseen_append h.shown] at heval
      rw [follow_line heval]
      exact h.accept hrun
    · rw [h.options] at hrun
      rw [follow_line heval]
      exact h.wait hrun
    · rw [follow_line heval]
      exact h.drop text e

end InStep

/-- **Every session is in step**, whatever was done with it. -/
theorem inStep_ofSteps (ho : o.Valid) (steps : List Session.Step) : InStep o (ofSteps o steps) := by
  have hrun : ∀ t, InStep o t → InStep o (steps.foldl Transcript.follow t) := by
    induction steps with
    | nil => exact fun t h => h
    | cons step steps ih => exact fun t h => ih _ (h.follow ho step)
  exact hrun _ (inStep_new ho)

end Transcript

/-! ### Sessions are runs -/

/-- **A session comes to what a single run comes to.**  After any lines and resets it holds the lines
of the groups that ended with an output; this text runs, and says what was shown since the last
reset; and what waits is nothing, or makes it a text that ends too early. -/
theorem session_eq_run {o : ScriptOptions} (ho : o.fault? = none) (steps : List Session.Step) :
    let t := Transcript.ofSteps o steps
    t.session.options = o ∧
      t.session.source = textOf t.ledger.accepted ∧ t.session.pending = textOf t.ledger.waiting ∧
      (∃ out, run o t.session.source = .ok out ∧ t.session.shown = out.utf8ByteSize ∧
        t.output = out) ∧
      (t.session.pending = "" ∨ ∃ wanted,
        compileToScript o (t.session.source ++ t.session.pending) =
          .error (.parse (.unexpectedEnd wanted))) := by
  have h := Transcript.inStep_ofSteps (ScriptOptions.valid_of_fault? ho) steps
  exact ⟨h.options, h.source, h.pending, ⟨_, h.output, h.shown, rfl⟩, h.unfinished⟩

/-- A reset, a loop over three lines, a line that fails with the one before it, and one that waits. -/
theorem session_eq_run_nine_steps :
    let t := Transcript.ofSteps {} [.line "唠唠：一。", .reset, .line "甲从一到二磨叽：",
      .line "唠唠：“东北”。", .line "磨叽完了。", .line "唠唠：", .line "磨叽完了。",
      .line "唠唠：甲。", .line "唠唠："]
    t.session = ⟨{}, "甲从一到二磨叽：\n唠唠：“东北”。\n磨叽完了。\n唠唠：甲。\n", "唠唠：\n", 16⟩ ∧
      t.session.options = {} ∧
      t.session.source = textOf t.ledger.accepted ∧ t.session.pending = textOf t.ledger.waiting ∧
      (∃ out, run {} t.session.source = .ok out ∧ t.session.shown = out.utf8ByteSize ∧
        t.output = out) ∧
      (t.session.pending = "" ∨ ∃ wanted,
        compileToScript {} (t.session.source ++ t.session.pending) =
          .error (.parse (.unexpectedEnd wanted))) := by
  intro t
  have hsession : t.session =
      ⟨{}, "甲从一到二磨叽：\n唠唠：“东北”。\n磨叽完了。\n唠唠：甲。\n", "唠唠：\n", 16⟩ := by
    decide +kernel
  exact ⟨hsession, session_eq_run (by decide +kernel) _⟩

end Laoke
