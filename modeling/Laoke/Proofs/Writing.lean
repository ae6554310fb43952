import Laoke.Pipeline
import Laoke.Proofs.Spelling
import Laoke.Proofs.Symbols
import Mathlib.Data.List.TakeWhile

/-!
# What is written

Writing a script threads a symbol table through all its steps, and a name is
looked up long before the table is complete.  Since names stay, nothing is lost
by reading every name off the last table: `lines_of_emit` gives the lines of a
script as a function of the program and of one naming of its identifiers.

A keyword that is no operator cannot be written, and stops the work where it is
met.  So every step is described twice over, by what it does when it comes to its
end and by what it leaves when it does not.

* `Emitter.Meets`: a step inside a line, which returns a text and writes nothing.
* `Emitter.Lays`: a step that writes whole lines.
* `Program.tokensByLine`: the tokens of each line of a program, in the order in
  which they are met.
-/

namespace Laoke

open SymbolTable (Extends)

/-! ### Identifiers in the order they are met -/

/-- The identifiers of an expression. -/
def Expression.identifiers (e : Expression) : List String :=
  e.filterMap fun
    | .identifier x => some x
    | _ => none

theorem Expression.identifiers_append (front back : List Token) :
    Expression.identifiers (front ++ back) =
      Expression.identifiers front ++ Expression.identifiers back :=
  List.filterMap_append

theorem Expression.identifiers_identifier_cons (x : String) (e : Expression) :
    Expression.identifiers (.identifier x :: e) = x :: e.identifiers := rfl

mutual

/-- The identifiers of a statement: the variable it is about, then those of its expressions. -/
def Statement.identifiers : Statement → List String
  | .say e => e.identifiers
  | .declare x => [x]
  | .assign x e => x :: e.identifiers
  | .increase x e => x :: e.identifiers
  | .decrease x e => x :: e.identifiers
  | .loop x a b body => x :: (a.identifiers ++ (b.identifiers ++ Program.identifiers body))

/-- The identifiers of some statements. -/
def Program.identifiers : List Statement → List String
  | [] => []
  | s :: p => s.identifiers ++ Program.identifiers p

end

/-! ### Texts under a naming -/

/-- The text of a token in an expression. -/
def Token.scriptText (name : String → String) : Token → String
  | .integer n => n.repr
  | .identifier x => name x
  | .string s => Script.literal s
  | .keyword k => (k.symbol?.map Char.toString).getD ""

/-- The text of an expression. -/
def Expression.scriptText (name : String → String) : Expression → String
  | [] => ""
  | t :: e => t.scriptText name ++ scriptText name e

mutual

/-- The lines of a statement. -/
def Statement.scriptLines (o : ScriptOptions) (name : String → String) (depth : Nat) :
    Statement → List String
  | .say e =>
    [Text.repeated o.indent depth ++ o.accumulator ++ " += str(" ++ e.scriptText name ++
      ") + \"\\n\""]
  | .declare x => [Text.repeated o.indent depth ++ name x ++ " = None"]
  | .assign x e => [Text.repeated o.indent depth ++ name x ++ " = " ++ e.scriptText name]
  | .increase x e => [Text.repeated o.indent depth ++ name x ++ " += " ++ e.scriptText name]
  | .decrease x e => [Text.repeated o.indent depth ++ name x ++ " -= " ++ e.scriptText name]
  | .loop x a b body =>
    (Text.repeated o.indent depth ++ "for " ++ name x ++ " in range(" ++ a.scriptText name ++ ", " ++
      b.scriptText name ++ " + 1):") ::
    (Program.scriptLines o name (depth + 1) body ++
      if body.isEmpty then [Text.repeated o.indent (depth + 1) ++ "pass"] else [])

/-- The lines of some statements. -/
def Program.scriptLines (o : ScriptOptions) (name : String → String) (depth : Nat) :
    List Statement → List String
  | [] => []
  | s :: p => s.scriptLines o name depth ++ Program.scriptLines o name depth p

end

/-! ### Tokens that stop the work -/

/-- The first of some tokens that cannot be written. -/
def stop? (tokens : List Token) : Option Token :=
  tokens.find? fun t => !t.isPlain

/-- The tokens before that. -/
def beforeStop (tokens : List Token) : List Token :=
  tokens.takeWhile Token.isPlain

theorem stop?_eq_none {tokens : List Token} :
    stop? tokens = none ↔ ∀ t ∈ tokens, t.isPlain = true := by
  simp [stop?]

theorem stop?_append_of_none {front : List Token} (h : stop? front = none) (back : List Token) :
    stop? (front ++ back) = stop? back := by
  have h' : front.find? (fun t => !t.isPlain) = none := h
  rw [stop?, List.find?_append, h', Option.none_or]
  rfl

theorem stop?_append_of_some {front : List Token} {bad : Token} (h : stop? front = some bad)
    (back : List Token) : stop? (front ++ back) = some bad := by
  have h' : front.find? (fun t => !t.isPlain) = some bad := h
  rw [stop?, List.find?_append, h', Option.some_or]

theorem beforeStop_append_of_none {front : List Token} (h : stop? front = none)
    (back : List Token) : beforeStop (front ++ back) = front ++ beforeStop back :=
  List.takeWhile_append_of_pos (stop?_eq_none.1 h)

theorem beforeStop_of_none {tokens : List Token} (h : stop? tokens = none) :
    beforeStop tokens = tokens :=
  List.takeWhile_eq_self_iff.2 (stop?_eq_none.1 h)

theorem beforeStop_append_of_some {front : List Token} {bad : Token} (h : stop? front = some bad)
    (back : List Token) : beforeStop (front ++ back) = beforeStop front := by
  have hlength : (front.takeWhile Token.isPlain).length ≠ front.length := by
    intro heq
    have hall := List.takeWhile_eq_self_iff.1 ((List.takeWhile_prefix _).eq_of_length heq)
    rw [stop?_eq_none.2 hall] at h
    cases h
  rw [beforeStop, List.takeWhile_append, if_neg hlength]
  rfl

/-- The draft in which some tokens have been met, up to the first that cannot be written. -/
def Draft.past (d : Draft) (tokens : List Token) : Draft :=
  { d with table := d.table.insertAll (Expression.identifiers (beforeStop tokens)) }

theorem Draft.past_append_of_none {front : List Token} (h : stop? front = none) (d : Draft)
    (back : List Token) : d.past (front ++ back) = (d.past front).past back := by
  rw [past, past, past, beforeStop_append_of_none h, beforeStop_of_none h, Expression.identifiers_append,
    SymbolTable.insertAll_append]

theorem Draft.past_append_of_some {front : List Token} {bad : Token} (h : stop? front = some bad)
    (d : Draft) (back : List Token) : d.past (front ++ back) = d.past front := by
  rw [past, past, beforeStop_append_of_some h]

theorem Draft.extends_past (d : Draft) (tokens : List Token) :
    Extends d.table (d.past tokens).table :=
  SymbolTable.extends_insertAll _ _

namespace Emitter

/-! ### Inside a line -/

/-- A step that meets some tokens, one after the other, and writes no line: what it returns under the
names of every later table, or where it stops. -/
structure Meets {α : Type} (m : Emitter α) (tokens : List Token) (value : (String → String) → α) :
    Prop where
  ok : stop? tokens = none → ∀ d, ∃ a, m d = .ok a (d.past tokens) ∧
    ∀ ⦃t : SymbolTable⦄, Extends (d.past tokens).table t → a = value t.nameOf
  error : ∀ {bad}, stop? tokens = some bad → ∀ d, m d = .error (.unwritable bad) (d.past tokens)

variable {α β : Type}

theorem Meets.pure (a : α) : Meets (Pure.pure a : Emitter α) [] (fun _ => a) where
  ok _ _ := ⟨a, rfl, fun _ _ => rfl⟩
  error h := nomatch h

theorem Meets.bind {m : Emitter α} {f : α → Emitter β} {front back : List Token}
    {value : (String → String) → α} {value' : α → (String → String) → β}
    (hm : Meets m front value) (hf : ∀ a, Meets (f a) back (value' a)) :
    Meets (m >>= f) (front ++ back) (fun name => value' (value name) name) where
  ok h d := by
    cases hfront : stop? front with
    | some bad =>
      rw [stop?_append_of_some hfront] at h
      cases h
    | none =>
      rw [stop?_append_of_none hfront] at h
      obtain ⟨a, ha, hvalue⟩ := hm.ok hfront d
      obtain ⟨b, hb, hvalue'⟩ := (hf a).ok h (d.past front)
      rw [bind_of_ok ha, d.past_append_of_none hfront]
      refine ⟨b, hb, fun t ht => ?_⟩
      -- A later table than the last is later than the one in the middle.
      have hmid := ((d.past front).extends_past back).trans ht
      rw [hvalue' ht, hvalue hmid]
  error {bad} h d := by
    cases hfront : stop? front with
    | some first =>
      rw [stop?_append_of_some hfront] at h
      cases h
      rw [bind_of_error (hm.error hfront d), d.past_append_of_some hfront]
    | none =>
      rw [stop?_append_of_none hfront] at h
      obtain ⟨a, ha, -⟩ := hm.ok hfront d
      rw [bind_of_ok ha, d.past_append_of_none hfront]
      exact (hf a).error h _

theorem Meets.nameOf (x : String) : Meets (nameOf x) [.identifier x] (fun name => name x) where
  ok _ d := by
    refine ⟨d.table.nameOf x, rfl, fun t ht => ?_⟩
    have hname := SymbolTable.nameOf_of_extends ht (d.table.mem_insert x)
    exact (hname.trans (d.table.nameOf_insert x)).symm
  error h := nomatch h

/-- A token without a name. -/
theorem Meets.constant {t : Token} (ht : t.isPlain = true) (hx : Expression.identifiers [t] = [])
    (text : String) : Meets (Pure.pure text : Emitter String) [t] (fun _ => text) := by
  have hgo : stop? [t] = none := stop?_eq_none.2 (by simpa using ht)
  refine ⟨fun _ d => ⟨text, ?_, fun _ _ => rfl⟩, fun h => ?_⟩
  · rw [Draft.past, beforeStop_of_none hgo, hx]
    rfl
  · rw [hgo] at h
    cases h

theorem Meets.token (t : Token) : Meets (token t) [t] t.scriptText := by
  cases t with
  | integer n => exact .constant rfl rfl _
  | identifier x => exact .nameOf x
  | string s => exact .constant rfl rfl _
  | keyword k =>
    cases hk : k.symbol? with
    | some c =>
      have hplain : Token.isPlain (.keyword k) = true := by
        rw [Token.isPlain, Keyword.isOperator, hk]
        rfl
      have htoken : Emitter.token (.keyword k) = Pure.pure c.toString := by
        rw [Emitter.token, hk]
      have htext (name : String → String) : Token.scriptText name (.keyword k) = c.toString := by
        rw [Token.scriptText, hk]
        rfl
      simp only [htoken, htext]
      exact .constant hplain rfl _
    | none =>
      have hplain : Token.isPlain (.keyword k) = false := by
        rw [Token.isPlain, Keyword.isOperator, hk]
        rfl
      have hstop : stop? [.keyword k] = some (.keyword k) := by simp [stop?, hplain]
      refine ⟨fun h => ?_, fun h d => ?_⟩
      · rw [hstop] at h
        cases h
      · rw [hstop] at h
        cases h
        simp only [Emitter.token, hk, Draft.past, beforeStop, List.takeWhile, hplain]
        rfl

theorem Meets.expression (e : Expression) : Meets (expression e) e e.scriptText := by
  induction e with
  | nil => exact .pure ""
  | cons t e ih =>
    have hrest : ∀ first : String, Meets (do return first ++ (← Emitter.expression e)) e
        (fun name => first ++ Expression.scriptText name e) := by
      intro first
      have hbind := ih.bind fun more => Meets.pure (first ++ more)
      rwa [List.append_nil] at hbind
    exact (Meets.token t).bind hrest

/-! ### Whole lines -/

/-- How writing some tokens ends, with the draft that it leaves. -/
def ending (tokens : List Token) (d : Draft) : EStateM.Result EmissionError Draft Unit :=
  match stop? tokens with
  | none => .ok () d
  | some bad => .error (.unwritable bad) d

theorem ending_of_none {tokens : List Token} (h : stop? tokens = none) (d : Draft) :
    ending tokens d = .ok () d := by
  rw [ending, h]

theorem ending_of_some {tokens : List Token} {bad : Token} (h : stop? tokens = some bad)
    (d : Draft) : ending tokens d = .error (.unwritable bad) d := by
  rw [ending, h]

/-- The number of lines that are finished, given the tokens of each. -/
def finished (rows : List (List Token)) : Nat :=
  (rows.takeWhile fun row => row.all Token.isPlain).length

theorem finished_append_of_none {rows : List (List Token)} (h : stop? rows.flatten = none)
    (more : List (List Token)) : finished (rows ++ more) = rows.length + finished more := by
  have hall : ∀ row ∈ rows, row.all Token.isPlain = true := by
    intro row hrow
    refine List.all_eq_true.2 fun t ht => ?_
    exact stop?_eq_none.1 h t (List.mem_flatten.2 ⟨row, hrow, ht⟩)
  rw [finished, List.takeWhile_append_of_pos hall, List.length_append]
  rfl

theorem finished_of_none {rows : List (List Token)} (h : stop? rows.flatten = none) :
    finished rows = rows.length := by
  have hmore := finished_append_of_none h []
  rwa [List.append_nil] at hmore

theorem finished_le (rows : List (List Token)) : finished rows ≤ rows.length :=
  (List.takeWhile_prefix _).length_le

theorem finished_append_of_some {rows : List (List Token)} {bad : Token}
    (h : stop? rows.flatten = some bad) (more : List (List Token)) :
    finished (rows ++ more) = finished rows := by
  have hlength : (rows.takeWhile fun row => row.all Token.isPlain).length ≠ rows.length := by
    intro heq
    have hall := List.takeWhile_eq_self_iff.1 ((List.takeWhile_prefix _).eq_of_length heq)
    have hnone : stop? rows.flatten = none := by
      refine stop?_eq_none.2 fun t ht => ?_
      obtain ⟨row, hrow, ht⟩ := List.mem_flatten.1 ht
      exact List.all_eq_true.1 (hall row hrow) t ht
    rw [hnone] at h
    cases h
  rw [finished, List.takeWhile_append, if_neg hlength]
  rfl

theorem finished_cons_of_none {front : List Token} (h : stop? front = none) (row : List Token)
    (rows : List (List Token)) : finished ((front ++ row) :: rows) = finished (row :: rows) := by
  have hfront : front.all Token.isPlain = true := List.all_eq_true.2 (stop?_eq_none.1 h)
  rw [finished, finished, List.takeWhile_cons, List.takeWhile_cons, List.all_append, hfront,
    Bool.true_and]
  split <;> rfl

theorem finished_cons_of_some {front : List Token} {bad : Token} (h : stop? front = some bad)
    (row : List Token) (rows : List (List Token)) : finished ((front ++ row) :: rows) = 0 := by
  have hfront : front.all Token.isPlain = false := by
    rw [← Bool.not_eq_true, List.all_eq_true, ← stop?_eq_none, h]
    simp
  rw [finished, List.takeWhile_cons, List.all_append, hfront]
  rfl

/-- A step that writes whole lines: the tokens of each, and their texts under the names of every later
table.  Where it stops, the line it was at is not written. -/
structure Lays (m : Emitter Unit) (rows : List (List Token))
    (lines : (String → String) → List String) : Prop where
  length : ∀ name, (lines name).length = rows.length
  result : ∀ d, ∃ d', m d = ending rows.flatten d' ∧ d'.table = (d.past rows.flatten).table ∧
    ∀ ⦃t : SymbolTable⦄, Extends d'.table t →
      d'.lines = d.lines ++ (lines t.nameOf).take (finished rows)

theorem Lays.pure : Lays (Pure.pure ()) [] (fun _ => []) where
  length _ := rfl
  result d := ⟨d, rfl, rfl, fun _ _ => (List.append_nil _).symm⟩

theorem Lays.line (text : String) : Lays (line text) [[]] (fun _ => [text]) where
  length _ := rfl
  result _ := ⟨_, rfl, rfl, fun _ _ => rfl⟩

/-- **One step after the other**: the second is not reached if the first stops. -/
theorem Lays.append {m m' : Emitter Unit} {rows rows' : List (List Token)}
    {lines lines' : (String → String) → List String} (hm : Lays m rows lines)
    (hm' : Lays m' rows' lines') :
    Lays (m >>= fun _ => m') (rows ++ rows') (fun name => lines name ++ lines' name) where
  length name := by rw [List.length_append, List.length_append, hm.length, hm'.length]
  result d := by
    obtain ⟨mid, hmid, htable, hlines⟩ := hm.result d
    rw [List.flatten_append]
    cases hstop : stop? rows.flatten with
    | some bad =>
      refine ⟨mid, ?_, ?_, fun t ht => ?_⟩
      · rw [ending_of_some hstop] at hmid
        rw [bind_of_error hmid, ending_of_some (stop?_append_of_some hstop _)]
      · rw [htable, d.past_append_of_some hstop]
      · have hle : finished rows ≤ (lines t.nameOf).length := hm.length _ ▸ finished_le rows
        rw [hlines ht, finished_append_of_some hstop, List.take_append_of_le_length hle]
    | none =>
      obtain ⟨d', hd', htable', hlines'⟩ := hm'.result mid
      have hpast : d'.table = (d.past (rows.flatten ++ rows'.flatten)).table := by
        rw [htable', d.past_append_of_none hstop, Draft.past, Draft.past, htable]
      have hlater : Extends mid.table d'.table := htable' ▸ SymbolTable.extends_insertAll _ _
      refine ⟨d', ?_, hpast, fun t ht => ?_⟩
      · rw [ending_of_none hstop] at hmid
        rw [bind_of_ok hmid, hd', ending, ending, stop?_append_of_none hstop]
      · have hall : (lines t.nameOf).take (finished rows) = lines t.nameOf := by
          rw [finished_of_none hstop, ← hm.length t.nameOf, List.take_length]
        rw [hlines' ht, hlines (hlater.trans ht), hall, finished_append_of_none hstop,
          ← hm.length t.nameOf, List.take_length_add_append, List.append_assoc]

/-- **A line goes on after a step inside it**, and is not written if that step stops. -/
theorem Lays.after {m : Emitter α} {f : α → Emitter Unit} {front row : List Token}
    {rows : List (List Token)} {value : (String → String) → α}
    {lines : α → (String → String) → List String} (hm : Meets m front value)
    (hf : ∀ a, Lays (f a) (row :: rows) (lines a)) :
    Lays (m >>= f) ((front ++ row) :: rows) (fun name => lines (value name) name) where
  length name := (hf (value name)).length name
  result d := by
    rw [List.flatten_cons, List.append_assoc]
    cases hstop : stop? front with
    | some bad =>
      refine ⟨d.past front, ?_, ?_, fun t _ => ?_⟩
      · rw [bind_of_error (hm.error hstop d), ending_of_some (stop?_append_of_some hstop _)]
      · rw [d.past_append_of_some hstop]
      · rw [finished_cons_of_some hstop, List.take_zero, List.append_nil]
        rfl
    | none =>
      obtain ⟨a, ha, hvalue⟩ := hm.ok hstop d
      obtain ⟨d', hd', htable, hlines⟩ := (hf a).result (d.past front)
      rw [List.flatten_cons] at hd' htable
      have hlater : Extends (d.past front).table d'.table := htable ▸ Draft.extends_past _ _
      refine ⟨d', ?_, ?_, fun t ht => ?_⟩
      · rw [bind_of_ok ha, hd', ending, ending, stop?_append_of_none hstop]
      · rw [htable, d.past_append_of_none hstop]
      · rw [hlines ht, hvalue (hlater.trans ht), finished_cons_of_none hstop]
        rfl

theorem Lays.congr {m : Emitter Unit} {rows rows' : List (List Token)}
    {lines : (String → String) → List String} (h : Lays m rows lines) (hrows : rows = rows') :
    Lays m rows' lines := hrows ▸ h

/-- A line with an expression at its end. -/
theorem Lays.valued (e : Expression) (text : String → String) :
    Lays (do let e' ← expression e; Emitter.line (text e')) [e]
      (fun name => [text (e.scriptText name)]) := by
  have hafter := Lays.after (Meets.expression e) fun e' => Lays.line (text e')
  exact hafter.congr (by rw [List.append_nil])

/-- A line with a variable and then an expression. -/
theorem Lays.named (x : String) (e : Expression) (text : String → String → String) :
    Lays (do let x' ← nameOf x; let e' ← expression e; Emitter.line (text x' e'))
      [.identifier x :: e] (fun name => [text (name x) (e.scriptText name)]) :=
  Lays.after (Meets.nameOf x) fun x' => Lays.valued e (text x')

theorem Lays.whenEmpty (body : List Statement) (text : String) :
    Lays (if body.isEmpty then Emitter.line text else Pure.pure ())
      (if body.isEmpty then [[]] else []) (fun _ => if body.isEmpty then [text] else []) := by
  split
  · exact .line text
  · exact .pure

end Emitter

/-! ### Programs -/

mutual

/-- The tokens of each line of a statement, in the order in which they are met: the variable that the
statement is about, then its expressions.  The line of an empty body has none. -/
def Statement.tokensByLine : Statement → List (List Token)
  | .say e => [e]
  | .declare x => [[.identifier x]]
  | .assign x e => [.identifier x :: e]
  | .increase x e => [.identifier x :: e]
  | .decrease x e => [.identifier x :: e]
  | .loop x a b body =>
    (.identifier x :: (a ++ b)) ::
      (Program.tokensByLine body ++ if body.isEmpty then [[]] else [])

/-- The tokens of each line of some statements. -/
def Program.tokensByLine : List Statement → List (List Token)
  | [] => []
  | s :: p => s.tokensByLine ++ Program.tokensByLine p

end

/-- The tokens of some statements in the order in which writing meets them. -/
def Program.tokensMet (p : List Statement) : List Token :=
  (Program.tokensByLine p).flatten

mutual

theorem Statement.identifiers_tokensByLine : ∀ s : Statement,
    Expression.identifiers s.tokensByLine.flatten = s.identifiers
  | .say e => by simp [Statement.tokensByLine, Statement.identifiers]
  | .declare x => rfl
  | .assign x e | .increase x e | .decrease x e => by
    simp [Statement.tokensByLine, Statement.identifiers, Expression.identifiers_identifier_cons]
  | .loop x a b body => by
    -- The row of an empty body holds no token.
    have hempty : (if body.isEmpty then [[]] else [] : List (List Token)).flatten = [] := by
      split <;> rfl
    have hbody := Program.identifiers_tokensByLine body
    rw [Statement.tokensByLine, List.flatten_cons, List.flatten_append, hempty, List.append_nil,
      Expression.identifiers_append, hbody, Expression.identifiers_identifier_cons,
      Expression.identifiers_append, List.cons_append, List.append_assoc, Statement.identifiers]

theorem Program.identifiers_tokensByLine : ∀ p : List Statement,
    Expression.identifiers (Program.tokensByLine p).flatten = Program.identifiers p
  | [] => rfl
  | s :: p => by
    rw [Program.tokensByLine, List.flatten_append, Expression.identifiers_append,
      Statement.identifiers_tokensByLine s, Program.identifiers_tokensByLine p, Program.identifiers]

end

/-- The first line of every script. -/
def ScriptOptions.header (o : ScriptOptions) : String :=
  o.accumulator ++ " = \"\""

namespace Emitter

mutual

theorem Lays.statement (o : ScriptOptions) (depth : Nat) : ∀ s : Statement,
    Lays (statement o depth s) s.tokensByLine (fun name => s.scriptLines o name depth)
  | .say e => .valued e _
  | .declare x => Lays.after (Meets.nameOf x) fun _ => Lays.line _
  | .assign x e => .named x e _
  | .increase x e => .named x e _
  | .decrease x e => .named x e _
  | .loop x a b body => by
    have hbody := (Lays.statements o (depth + 1) body).append
      (Lays.whenEmpty body (Text.repeated o.indent (depth + 1) ++ "pass"))
    have hlines (x' a' b' : String) := (Lays.line (Text.repeated o.indent depth ++ "for " ++ x' ++
      " in range(" ++ a' ++ ", " ++ b' ++ " + 1):")).append hbody
    have hlast (x' a' : String) := Lays.after (Meets.expression b) (hlines x' a')
    have hfirst (x' : String) := Lays.after (Meets.expression a) (hlast x')
    have hloop := Lays.after (Meets.nameOf x) hfirst
    exact hloop.congr (by simp [Statement.tokensByLine])

theorem Lays.statements (o : ScriptOptions) (depth : Nat) : ∀ p : List Statement,
    Lays (statements o depth p) (Program.tokensByLine p)
      (fun name => Program.scriptLines o name depth p)
  | [] => .pure
  | s :: p => (Lays.statement o depth s).append (Lays.statements o depth p)

end

theorem Lays.program (o : ScriptOptions) (p : Program) :
    Lays (program o p) ([] :: Program.tokensByLine p)
      (fun name => o.header :: Program.scriptLines o name 0 p) :=
  (Lays.line o.header).append (Lays.statements o 0 p)

end Emitter

/-- **The lines of a script, read off the finished table.** -/
theorem Program.lines_of_emit {o : ScriptOptions} {p : Program} {draft : Draft}
    (h : p.emit o = .ok draft) :
    draft.table = SymbolTable.insertAll { stem := o.stem } (Program.identifiers p) ∧
      draft.lines = o.header :: Program.scriptLines o draft.table.nameOf 0 p := by
  have hlays := Emitter.Lays.program o p
  obtain ⟨d, hd, htable, hlines⟩ := hlays.result (.start o)
  unfold Program.emit at h
  rw [hd] at h
  cases hstop : stop? ([] :: Program.tokensByLine p).flatten with
  | some bad =>
    rw [Emitter.ending_of_some hstop] at h
    cases h
  | none =>
    rw [Emitter.ending_of_none hstop] at h
    cases h
    constructor
    · rw [htable, Draft.past, beforeStop_of_none hstop]
      exact congrArg _ (Program.identifiers_tokensByLine p)
    · have hall := hlines (.refl _)
      rw [Emitter.finished_of_none hstop, ← hlays.length draft.table.nameOf, List.take_length] at hall
      exact hall

end Laoke
