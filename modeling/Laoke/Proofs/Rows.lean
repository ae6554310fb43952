import Laoke.Proofs.Printing
import Laoke.Proofs.Spelling
import Laoke.Proofs.Writing
import Laoke.Settings

/-!
# The rows of a script

A row is a line of a script without its layout: how deep it stands, and its
tokens.  `Program.script` gives the rows of a program, one for every statement
in the order of the text, one `pass` for every empty body, and a first one for
the accumulator.  Nothing else is in a script, whatever its identifiers and
strings are:

* `ScriptOptions.Valid`, `Naming`: what valid options give, and names that fit
  them.
* `Expression.written`: the text of an expression is its tokens, one by one.
* `Script.Shows`: a line shows a row; `Compiled.Wellmade.shows_splitLines` has one line
  for every row.
* `splitLines_joinLines`: the lines that are written are the lines of the text.
-/

namespace Laoke

open Script (isName isReserved isNamePart isNameStart Written Unbroken indentOf tokenizeLine)

/-! ### Valid options -/

/-- Options that give scripts that run. -/
structure ScriptOptions.Valid (o : ScriptOptions) : Prop where
  indent_ne_nil : o.indent.toList ≠ []
  blank_of_mem : ∀ c ∈ o.indent.toList, c = ' ' ∨ c = '\t'
  stem : isName o.stem.toList = true
  accumulator : isName o.accumulator.toList = true
  unreserved : isReserved o.accumulator = false
  collides : o.collides = false

theorem ScriptOptions.valid_of_fault? {o : ScriptOptions} (h : o.fault? = none) : o.Valid := by
  unfold fault? at h
  split_ifs at h with hi hs ha hc
  simp only [indentIsValid, Bool.not_eq_true', Bool.not_eq_false, Bool.and_eq_true,
    List.isEmpty_eq_false_iff, List.all_eq_true, Bool.or_eq_true, decide_eq_true_eq] at hi
  simp only [Bool.or_eq_true, Bool.not_eq_true', not_or, Bool.not_eq_true, Bool.not_eq_false] at ha
  exact ⟨hi.1, hi.2, by simpa using hs, ha.1, ha.2, by simpa using hc⟩

/-- Names for identifiers that can stand in a script. -/
structure Naming (o : ScriptOptions) (name : String → String) : Prop where
  isName (x : String) : isName (name x).toList = true
  unreserved (x : String) : isReserved (name x) = false
  ne_accumulator (x : String) : name x ≠ o.accumulator

theorem isName_append {cs ds : List Char} (hc : isName cs = true)
    (hd : ∀ c ∈ ds, isNamePart c = true) : isName (cs ++ ds) = true := by
  cases cs with
  | nil => simp [isName] at hc
  | cons c cs =>
    simp only [isName, Bool.and_eq_true, List.all_eq_true] at hc
    simp only [isName, List.cons_append, Bool.and_eq_true, List.all_eq_true]
    refine ⟨hc.1, fun d hmem => ?_⟩
    rcases List.mem_append.1 hmem with hmem | hmem
    · exact hc.2 d hmem
    · exact hd d hmem

theorem toList_nameAt (t : SymbolTable) (i : Nat) :
    (t.nameAt i).toList = t.stem.toList ++ Nat.toDigits 10 i := by
  rw [SymbolTable.nameAt, String.toList_append, Nat.toList_repr]

theorem isDigit_of_mem_toDigits {c : Char} {i : Nat} (h : c ∈ Nat.toDigits 10 i) :
    c.isDigit = true :=
  Nat.isDigit_of_mem_toDigits (by decide) (by decide) h

theorem isName_nameAt {t : SymbolTable} (h : isName t.stem.toList = true) (i : Nat) :
    isName (t.nameAt i).toList = true := by
  rw [toList_nameAt]
  exact isName_append h fun c hc => Script.isNamePart_of_isDigit (isDigit_of_mem_toDigits hc)

/-- No reserved word ends in a digit. -/
theorem isReserved_nameAt (t : SymbolTable) (i : Nat) : isReserved (t.nameAt i) = false := by
  have hlast : ∀ c ∈ (t.nameAt i).toList.getLast?, c.isDigit = true := by
    rw [toList_nameAt, List.getLast?_append_of_ne_nil _ Nat.toDigits_ne_nil]
    exact fun c hc => isDigit_of_mem_toDigits (List.mem_of_getLast? hc)
  rw [← Bool.not_eq_true]
  intro h
  simp only [isReserved, Bool.or_eq_true, decide_eq_true_eq] at h
  rcases h with ((h | h) | h) | h <;> rw [h] at hlast
  · exact absurd (hlast 'r' rfl) (by decide)
  · exact absurd (hlast 'n' rfl) (by decide)
  · exact absurd (hlast 's' rfl) (by decide)
  · exact absurd (hlast 'e' rfl) (by decide)

theorem nameAt_ne_accumulator {o : ScriptOptions} (ho : o.Valid) {t : SymbolTable}
    (ht : t.stem = o.stem) (i : Nat) : t.nameAt i ≠ o.accumulator := by
  intro h
  have hcollides := ho.collides
  rw [ScriptOptions.collides, ← h, toList_nameAt, ht, List.drop_left, Bool.and_eq_false_iff,
    Bool.and_eq_false_iff] at hcollides
  rcases hcollides with (hcollides | hcollides) | hcollides
  · rw [List.isPrefixOf_iff_prefix.2 (List.prefix_append _ _)] at hcollides
    simp at hcollides
  · simp [Nat.toDigits_ne_nil] at hcollides
  · rw [List.all_eq_true.2 fun c hc => isDigit_of_mem_toDigits hc] at hcollides
    simp at hcollides

/-- **The names of a table fit the options of its stem.** -/
theorem naming_nameOf {o : ScriptOptions} (ho : o.Valid) {t : SymbolTable} (ht : t.stem = o.stem) :
    Naming o t.nameOf where
  isName _ := isName_nameAt (ht ▸ ho.stem) _
  unreserved _ := isReserved_nameAt t _
  ne_accumulator _ := nameAt_ne_accumulator ho ht _

/-! ### Rows -/

/-- A line of a script: how deep it stands, and its tokens. -/
structure Script.Row where
  depth : Nat
  tokens : List Script.Token
  deriving DecidableEq, Repr

/-- The token of a script that an operator stands for.  Other keywords have no place in an
expression. -/
def Keyword.inScript : Keyword → Script.Token
  | .plus => .plus
  | .minus => .minus
  | .times => .star
  | .divideBy => .slash
  | _ => .colon

/-- The token of a script that a token of an expression stands for. -/
def Token.inScript (name : String → String) : Token → Script.Token
  | .integer n => .int n
  | .identifier x => .name (name x)
  | .string s => .str s
  | .keyword k => k.inScript

/-- The tokens of an expression in a script, one for each of its own. -/
def Expression.inScript (name : String → String) (e : Expression) : List Script.Token :=
  e.map (Token.inScript name)

mutual

/-- The rows of a statement. -/
def Statement.rows (o : ScriptOptions) (name : String → String) (depth : Nat) :
    Statement → List Script.Row
  | .say e =>
    [⟨depth, .name o.accumulator :: .plusEqual :: .name "str" :: .leftParen ::
      (e.inScript name ++ [.rightParen, .plus, .str "\n"])⟩]
  | .declare x => [⟨depth, [.name (name x), .equal, .name "None"]⟩]
  | .assign x e => [⟨depth, .name (name x) :: .equal :: e.inScript name⟩]
  | .increase x e => [⟨depth, .name (name x) :: .plusEqual :: e.inScript name⟩]
  | .decrease x e => [⟨depth, .name (name x) :: .minusEqual :: e.inScript name⟩]
  | .loop x a b body =>
    ⟨depth, .name "for" :: .name (name x) :: .name "in" :: .name "range" :: .leftParen ::
      (a.inScript name ++ .comma :: (b.inScript name ++ [.plus, .int 1, .rightParen, .colon]))⟩ ::
    (Program.rows o name (depth + 1) body ++
      if body.isEmpty then [⟨depth + 1, [.name "pass"]⟩] else [])

/-- The rows of some statements. -/
def Program.rows (o : ScriptOptions) (name : String → String) (depth : Nat) :
    List Statement → List Script.Row
  | [] => []
  | s :: p => s.rows o name depth ++ Program.rows o name depth p

end

/-- The rows of a whole program. -/
def Program.script (o : ScriptOptions) (name : String → String) (p : Program) : List Script.Row :=
  ⟨0, [.name o.accumulator, .equal, .str ""]⟩ :: Program.rows o name 0 p

mutual

/-- The number of statements in a statement, itself included. -/
def Statement.count : Statement → Nat
  | .loop _ _ _ body => 1 + Program.count body
  | _ => 1

/-- The number of statements, also those inside loops. -/
def Program.count : List Statement → Nat
  | [] => 0
  | s :: p => s.count + Program.count p

end

mutual

/-- The number of loops with an empty body in a statement. -/
def Statement.emptyLoops : Statement → Nat
  | .loop _ _ _ body => Program.emptyLoops body + if body.isEmpty then 1 else 0
  | _ => 0

/-- The number of loops with an empty body. -/
def Program.emptyLoops : List Statement → Nat
  | [] => 0
  | s :: p => s.emptyLoops + Program.emptyLoops p

end

mutual

theorem Statement.length_rows (o : ScriptOptions) (name : String → String) (depth : Nat) :
    ∀ s : Statement, (s.rows o name depth).length = s.count + s.emptyLoops
  | .say _ | .declare _ | .assign _ _ | .increase _ _ | .decrease _ _ => by
    simp [Statement.rows, Statement.count, Statement.emptyLoops]
  | .loop x a b body => by
    have hbody := Program.length_rows o name (depth + 1) body
    simp only [Statement.rows, Statement.count, Statement.emptyLoops, List.length_cons,
      List.length_append, hbody]
    split <;> simp <;> omega

theorem Program.length_rows (o : ScriptOptions) (name : String → String) (depth : Nat) :
    ∀ p : List Statement,
      (Program.rows o name depth p).length = Program.count p + Program.emptyLoops p
  | [] => rfl
  | s :: p => by
    have hs := Statement.length_rows o name depth s
    have hp := Program.length_rows o name depth p
    simp only [Program.rows, Program.count, Program.emptyLoops, List.length_append, hs, hp]
    omega

end

/-! ### Expressions -/

theorem exists_of_isName {cs : List Char} (h : isName cs = true) :
    ∃ c rest, cs = c :: rest ∧ isNameStart c = true := by
  cases cs with
  | nil => simp [isName] at h
  | cons c rest =>
    rw [isName, Bool.and_eq_true] at h
    exact ⟨c, rest, rfl, h.1⟩

theorem exists_of_natural {n : Int} (h : Natural n) :
    ∃ c rest, n.repr.toList = c :: rest ∧ c.isDigit = true := by
  rw [Script.toList_repr_of_natural h]
  obtain ⟨c, rest, hc⟩ := List.exists_cons_of_ne_nil (Nat.toDigits_ne_nil (b := 10) (n := n.toNat))
  exact ⟨c, rest, hc, isDigit_of_mem_toDigits (hc ▸ List.mem_cons_self)⟩

/-- Whether characters go on with no token before them. -/
def Closes (cs : List Char) : Prop :=
  ∀ t : Script.Token, t.Ends cs

theorem closes_nil : Closes [] := by
  intro t
  cases t <;> simp [Script.Token.Ends]

theorem closes_cons {c : Char} (hc : isNamePart c = false) (he : c ≠ '=') (cs : List Char) :
    Closes (c :: cs) := by
  have hd : c.isDigit = false := by
    rw [← Bool.not_eq_true] at hc ⊢
    exact mt Script.isNamePart_of_isDigit hc
  intro t
  cases t <;> simp [Script.Token.Ends, hc, he, hd]

theorem Keyword.toList_symbol {k : Keyword} (h : k.isOperator = true) :
    ((k.symbol?.map Char.toString).getD "").toList = k.inScript.spelling := by
  rcases Keyword.isOperator_iff.1 h with rfl | rfl | rfl | rfl <;> rfl

namespace Token

variable {name : String → String} {t u : Token}

theorem toList_scriptText (ht : t.isPlain = true) :
    (t.scriptText name).toList = (t.inScript name).spelling := by
  cases t with
  | integer n => rfl
  | identifier x => rfl
  | string s => simp [scriptText, inScript, Script.Token.spelling, Script.literal]
  | keyword k => exact Keyword.toList_symbol ht

theorem spellable_inScript (hname : ∀ x, isName (name x).toList = true) (ht : t.isPlain = true)
    (hn : ∀ n, t = .integer n → Natural n) : (t.inScript name).Spellable := by
  cases t with
  | integer n => exact hn n rfl
  | identifier x => exact hname x
  | string s => trivial
  | keyword k => rcases Keyword.isOperator_iff.1 ht with rfl | rfl | rfl | rfl <;> trivial

/-- The first character of a token: that of a name, a digit, or one that closes every token. -/
theorem head_spelling_inScript (hname : ∀ x, isName (name x).toList = true) (hu : u.isPlain = true)
    (hn : ∀ n, u = .integer n → Natural n) :
    ∃ c rest, (u.inScript name).spelling = c :: rest ∧
      ((∃ x, u = .identifier x) ∧ isNameStart c = true ∨
        (∃ n, u = .integer n) ∧ c.isDigit = true ∨ isNamePart c = false ∧ c ≠ '=') := by
  cases u with
  | integer n =>
    obtain ⟨c, rest, hc, hd⟩ := exists_of_natural (hn n rfl)
    exact ⟨c, rest, hc, .inr (.inl ⟨⟨n, rfl⟩, hd⟩)⟩
  | identifier x =>
    obtain ⟨c, rest, hc, hs⟩ := exists_of_isName (hname x)
    exact ⟨c, rest, hc, .inl ⟨⟨x, rfl⟩, hs⟩⟩
  | string s => exact ⟨'"', _, rfl, .inr (.inr (by decide))⟩
  | keyword k =>
    rcases Keyword.isOperator_iff.1 hu with rfl | rfl | rfl | rfl <;>
      exact ⟨_, _, rfl, .inr (.inr (by decide))⟩

/-- **Tokens that stand apart in the text stay apart without blanks.** -/
theorem ends_of_joins (hname : ∀ x, isName (name x).toList = true) (ht : t.isPlain = true)
    (hu : u.isPlain = true) (hn : ∀ n, u = .integer n → Natural n) (h : t.joins u = false)
    (cs : List Char) : (t.inScript name).Ends ((u.inScript name).spelling ++ cs) := by
  obtain ⟨c, rest, hc, hcase⟩ := head_spelling_inScript hname hu hn
  rw [hc, List.cons_append]
  rcases hcase with ⟨⟨x, rfl⟩, hs⟩ | ⟨⟨n, rfl⟩, hd⟩ | ⟨hp, he⟩
  · -- A name goes on after an identifier only, and an identifier follows none.
    have hle := Script.le_toNat_of_isNameStart hs
    have he : c ≠ '=' := Script.ne_of_toNat_ne (by simp; omega)
    cases t with
    | integer n => simp [inScript, Script.Token.Ends, Script.isDigit_of_isNameStart hs]
    | identifier x => simp [joins] at h
    | string s => trivial
    | keyword k =>
      rcases Keyword.isOperator_iff.1 ht with rfl | rfl | rfl | rfl <;>
        simp [inScript, Keyword.inScript, Script.Token.Ends, he]
  · have hle := Script.isDigit_iff.1 hd
    have he : c ≠ '=' := Script.ne_of_toNat_ne (by simp; omega)
    cases t with
    | integer n => simp [joins] at h
    | identifier x => simp [joins] at h
    | string s => trivial
    | keyword k =>
      rcases Keyword.isOperator_iff.1 ht with rfl | rfl | rfl | rfl <;>
        simp [inScript, Keyword.inScript, Script.Token.Ends, he]
  · exact closes_cons hp he _ _

end Token

theorem Expression.Writable.tail {t : Token} {e : Expression}
    (h : Expression.Writable (t :: e)) : Expression.Writable e :=
  ⟨(Expression.plain_cons.1 h.plain).2, h.apart.tail, fun n hn => h.naturals n (.tail _ hn)⟩

/-- **An expression is written token by token**: nothing runs together and nothing is added. -/
theorem Expression.written {name : String → String} (hname : ∀ x, isName (name x).toList = true)
    {e : Expression} (he : e.Writable) {ts : List Script.Token} {cs : List Char}
    (h : Written ts cs) (hcs : Closes cs) :
    Written (e.inScript name ++ ts) ((e.scriptText name).toList ++ cs) := by
  induction e with
  | nil => simpa [inScript, scriptText] using h
  | cons t e ih =>
    obtain ⟨ht, -⟩ := Expression.plain_cons.1 he.plain
    have hspell := Token.spellable_inScript hname ht fun n hn => he.naturals n (hn ▸ .head _)
    have hends : (t.inScript name).Ends ((Expression.scriptText name e).toList ++ cs) := by
      cases e with
      | nil => simpa [scriptText] using hcs _
      | cons u e =>
        obtain ⟨hu, -⟩ := Expression.plain_cons.1 he.tail.plain
        rw [scriptText, String.toList_append, Token.toList_scriptText hu, List.append_assoc]
        exact Token.ends_of_joins hname ht hu (fun n hn => he.naturals n (hn ▸ .tail _ (.head _)))
          (List.isChain_cons_cons.1 he.apart).1 _
    rw [scriptText, String.toList_append, Token.toList_scriptText ht, List.append_assoc]
    exact .token hspell hends (ih he.tail)

theorem Expression.written_last {name : String → String}
    (hname : ∀ x, isName (name x).toList = true) {e : Expression} (he : e.Writable) :
    Written (e.inScript name) (e.scriptText name).toList := by
  simpa using Expression.written hname he .nil closes_nil

/-! ### Lines -/

/-- The characters of a line that shows a row. -/
structure Script.Shows (o : ScriptOptions) (cs : List Char) (row : Script.Row) : Prop where
  indent : indentOf cs = row.depth * o.indent.length
  written : Written row.tokens cs
  tokens_ne_nil : row.tokens ≠ []

theorem Script.Shows.ne_nil {o : ScriptOptions} {row : Script.Row} {cs : List Char}
    (h : Script.Shows o cs row) : cs ≠ [] := by
  rintro rfl
  have hnil := h.written.tokenizeLine 0
  rw [Script.tokenizeLine_nil] at hnil
  exact h.tokens_ne_nil (Except.ok.inj hnil).symm

theorem Script.Written.indented {cs : List Char} {ts : List Script.Token} (h : Written ts cs)
    {margin : List Char} (hm : ∀ c ∈ margin, c = ' ' ∨ c = '\t') : Written ts (margin ++ cs) := by
  induction margin with
  | nil => exact h
  | cons c margin ih =>
    exact .blank (hm c List.mem_cons_self) (ih fun d hd => hm d (List.mem_cons_of_mem _ hd))

/-- A line that starts with a name after its margin. -/
theorem shows_indented {o : ScriptOptions} (ho : o.Valid) (depth : Nat) {x : String}
    (hx : isName x.toList = true) {ts : List Script.Token} {cs : List Char}
    (h : Written (.name x :: ts) (x.toList ++ cs)) :
    Script.Shows o ((Text.repeated o.indent depth).toList ++ (x.toList ++ cs))
      ⟨depth, .name x :: ts⟩ := by
  have hmargin : ∀ c ∈ (Text.repeated o.indent depth).toList, c = ' ' ∨ c = '\t' := by
    rw [Text.toList_repeated]
    intro c hc
    obtain ⟨cs, hcs, hc⟩ := List.mem_flatten.1 hc
    exact ho.blank_of_mem c ((List.mem_replicate.1 hcs).2 ▸ hc)
  refine ⟨?_, h.indented hmargin, by simp⟩
  obtain ⟨c, rest, hc, hs⟩ := exists_of_isName hx
  have hblank : (c = ' ' || c = '\t') = false := by
    rw [← Bool.not_eq_true, Bool.or_eq_true, decide_eq_true_eq, decide_eq_true_eq]
    rintro (rfl | rfl) <;> revert hs <;> decide
  have hhead : ∀ d ∈ (x.toList ++ cs).head?, (d = ' ' || d = '\t') = false := by
    simpa [hc] using hblank
  obtain ⟨htake, -⟩ := Script.takeWhile_append_of_head (by simpa using hmargin) hhead
  rw [indentOf, htake, Text.toList_repeated, List.length_flatten, ← String.length_toList]
  simp

/-- A word of the script language, given by its characters. -/
theorem Script.Written.word {x : String} {w cs : List Char} {ts : List Script.Token}
    (hw : x.toList = w) (hx : isName w = true) (hcs : Closes cs) (h : Written ts cs) :
    Written (.name x :: ts) (w ++ cs) := by
  subst hw
  exact .token hx (hcs _) h

theorem closes_space (cs : List Char) : Closes (' ' :: cs) := closes_cons (by decide) (by decide) cs

/-- A line with a variable, a mark and what the variable is given. -/
theorem Naming.shows {o : ScriptOptions} (ho : o.Valid) {name : String → String} (hn : Naming o name)
    (depth : Nat) (x : String) (mark : Script.Token) (hm : mark.Spellable)
    {ts : List Script.Token} {cs : List Char} (h : Written ts cs) :
    Script.Shows o ((Text.repeated o.indent depth).toList ++
        ((name x).toList ++ ' ' :: (mark.spelling ++ ' ' :: cs)))
      ⟨depth, .name (name x) :: mark :: ts⟩ := by
  have hmark := Script.Written.token hm (closes_space _ _) h.space
  have hvariable := Script.Written.token (t := .name (name x)) (hn.isName x) (closes_space _ _)
    hmark.space
  exact shows_indented ho depth (hn.isName x) hvariable

mutual

theorem Statement.shows_rows {o : ScriptOptions} (ho : o.Valid) {name : String → String}
    (hn : Naming o name) (depth : Nat) : ∀ s : Statement, s.Each Expression.Writable →
      List.Forall₂ (Script.Shows o)
        ((s.scriptLines o name depth).map String.toList) (s.rows o name depth)
  | .say e, he => by
    refine .cons ?_ .nil
    simp only [String.toList_append, List.append_assoc, String.reduceToList]
    have hend : Written [.rightParen, .plus, .str "\n"] [')', ' ', '+', ' ', '"', '\\', 'n', '"'] :=
      .token trivial trivial (.space (.token trivial (closes_space _ _) (.space
        (.token (t := .str "\n") trivial trivial .nil))))
    have hvalue := Expression.written hn.isName he hend (closes_cons (by decide) (by decide) _)
    have hstr := Script.Written.word (x := "str") (w := ['s', 't', 'r']) rfl (by decide)
      (closes_cons (by decide) (by decide) _) (.token (t := .leftParen) trivial trivial hvalue)
    have hplus := Script.Written.token (t := .plusEqual) trivial trivial hstr.space
    have hline := Script.Written.token (t := .name o.accumulator) ho.accumulator (closes_space _ _)
      hplus.space
    exact shows_indented ho depth ho.accumulator hline
  | .declare x, _ => by
    refine .cons ?_ .nil
    simp only [String.toList_append, List.append_assoc, String.reduceToList]
    have hnone := Script.Written.word (x := "None") (w := ['N', 'o', 'n', 'e']) rfl (by decide)
      closes_nil .nil
    exact hn.shows ho depth x .equal trivial hnone
  | .assign x e, he => by
    refine .cons ?_ .nil
    simp only [String.toList_append, List.append_assoc, String.reduceToList]
    exact hn.shows ho depth x .equal trivial (Expression.written_last hn.isName he)
  | .increase x e, he => by
    refine .cons ?_ .nil
    simp only [String.toList_append, List.append_assoc, String.reduceToList]
    exact hn.shows ho depth x .plusEqual trivial (Expression.written_last hn.isName he)
  | .decrease x e, he => by
    refine .cons ?_ .nil
    simp only [String.toList_append, List.append_assoc, String.reduceToList]
    exact hn.shows ho depth x .minusEqual trivial (Expression.written_last hn.isName he)
  | .loop x a b body, ⟨ha, hb, hbody⟩ => by
    refine .cons ?_ ?_
    · simp only [String.toList_append, List.append_assoc, String.reduceToList]
      have hend : Written [.plus, .int 1, .rightParen, .colon] [' ', '+', ' ', '1', ')', ':'] :=
        .space (.token trivial (closes_space _ _) (.space (.token (t := .int 1) ⟨by decide, by decide⟩
          (closes_cons (by decide) (by decide) _ _) (.token trivial trivial
            (.token trivial trivial .nil)))))
      have hlast := Expression.written hn.isName hb hend (closes_space _)
      have hfirst := Expression.written hn.isName ha (.token (t := .comma) trivial trivial
        hlast.space) (closes_cons (by decide) (by decide) _)
      have hrange := Script.Written.word (x := "range") (w := ['r', 'a', 'n', 'g', 'e']) rfl
        (by decide) (closes_cons (by decide) (by decide) _)
        (.token (t := .leftParen) trivial trivial hfirst)
      have hin := Script.Written.word (x := "in") (w := ['i', 'n']) rfl (by decide)
        (closes_space _) hrange.space
      have hcounter := Script.Written.token (t := .name (name x)) (hn.isName x) (closes_space _ _)
        hin.space
      have hfor := Script.Written.word (x := "for") (w := ['f', 'o', 'r']) rfl (by decide)
        (closes_space _) hcounter.space
      exact shows_indented ho depth (x := "for") (by decide) hfor
    · rw [List.map_append]
      refine List.rel_append (Program.shows_rows ho hn (depth + 1) body hbody) ?_
      split
      · refine .cons ?_ .nil
        rw [String.toList_append]
        exact shows_indented ho (depth + 1) (x := "pass") (by decide)
          (.word (w := ['p', 'a', 's', 's']) rfl (by decide) closes_nil .nil)
      · exact .nil

theorem Program.shows_rows {o : ScriptOptions} (ho : o.Valid) {name : String → String}
    (hn : Naming o name) (depth : Nat) : ∀ p : List Statement, Program.Each Expression.Writable p →
      List.Forall₂ (Script.Shows o)
        ((Program.scriptLines o name depth p).map String.toList) (Program.rows o name depth p)
  | [], _ => .nil
  | s :: p, hp => by
    rw [Program.scriptLines, List.map_append, Program.rows]
    exact List.rel_append (Statement.shows_rows ho hn depth s hp.1)
      (Program.shows_rows ho hn depth p hp.2)

end

/-! ### The lines of the text -/

theorem splitLines_cons {c : Char} (hc : Unbroken c) (rest : List Char) :
    Text.splitLines (c :: rest) =
      match Text.splitLines rest with
      | [] => [[c]]
      | line :: lines => (c :: line) :: lines := by
  rw [Text.splitLines.eq_def]
  split
  · rename_i h
    simp at h
  · rename_i h
    exact absurd (List.cons.inj h).1 hc.1
  · rename_i h
    exact absurd (List.cons.inj h).1 hc.2
  · rename_i h
    obtain ⟨rfl, rfl⟩ := List.cons.inj h
    rfl

theorem splitLines_append_newline {cs : List Char} (hcs : ∀ c ∈ cs, Unbroken c) (rest : List Char) :
    Text.splitLines (cs ++ '\n' :: rest) = cs :: Text.splitLines rest := by
  induction cs with
  | nil => rfl
  | cons c cs ih =>
    rw [List.cons_append, splitLines_cons (hcs c List.mem_cons_self),
      ih fun d hd => hcs d (List.mem_cons_of_mem _ hd)]

theorem splitLines_of_unbroken {cs : List Char} (hne : cs ≠ []) (hcs : ∀ c ∈ cs, Unbroken c) :
    Text.splitLines cs = [cs] := by
  induction cs with
  | nil => exact absurd rfl hne
  | cons c cs ih =>
    rw [splitLines_cons (hcs c List.mem_cons_self)]
    cases cs with
    | nil => rfl
    | cons d cs => rw [ih (by simp) fun e he => hcs e (List.mem_cons_of_mem _ he)]

/-- **Lines joined are split again**, if none is empty and none has a break inside. -/
theorem splitLines_joinLines {lines : List String}
    (h : ∀ line ∈ lines, line.toList ≠ [] ∧ ∀ c ∈ line.toList, Unbroken c) :
    Text.splitLines (Text.joinLines lines).toList = lines.map String.toList := by
  induction lines with
  | nil => rfl
  | cons line lines ih =>
    obtain ⟨hne, hline⟩ := h line List.mem_cons_self
    cases lines with
    | nil => exact splitLines_of_unbroken hne hline
    | cons next lines =>
      rw [Text.joinLines, String.toList_append, String.toList_append, List.append_assoc]
      · change Text.splitLines (line.toList ++ '\n' :: (Text.joinLines (next :: lines)).toList) = _
        rw [splitLines_append_newline hline, ih fun l hl => h l (List.mem_cons_of_mem _ hl)]
        rfl
      · simp

/-! ### Compiled scripts -/

mutual

theorem Statement.Each.imp {q r : Expression → Prop} (h : ∀ e, q e → r e) :
    ∀ {s : Statement}, s.Each q → s.Each r
  | .say e, hs => h e hs
  | .declare _, _ => trivial
  | .assign _ e, hs => h e hs
  | .increase _ e, hs => h e hs
  | .decrease _ e, hs => h e hs
  | .loop _ a b _, ⟨ha, hb, hbody⟩ => ⟨h a ha, h b hb, Program.Each.imp h hbody⟩

theorem Program.Each.imp {q r : Expression → Prop} (h : ∀ e, q e → r e) :
    ∀ {p : List Statement}, Program.Each q p → Program.Each r p
  | [], _ => trivial
  | _ :: _, ⟨hs, hp⟩ => ⟨Statement.Each.imp h hs, Program.Each.imp h hp⟩

end

/-- What was compiled, with all that its stages owe to each other. -/
structure Compiled.Wellmade (o : ScriptOptions) (c : Compiled) : Prop where
  spells : Spells c.tokens c.program
  writable : Program.Each Expression.Writable c.program
  table : c.table = SymbolTable.insertAll { stem := o.stem } (Program.identifiers c.program)
  code : c.code = Text.joinLines (o.header :: Program.scriptLines o c.table.nameOf 0 c.program)

theorem compile_eq_ok {o : ScriptOptions} {source : String} {c : Compiled}
    (h : compile o source = .ok c) :
    tokenize source = .ok c.tokens ∧ Program.ofTokens c.tokens = .ok c.program ∧
      ∃ draft, c.program.emit o = .ok draft ∧ c.table = draft.table ∧ c.code = draft.code := by
  unfold compile at h
  split at h
  · simp at h
  · rename_i tokens ht
    split at h
    · simp at h
    · rename_i program hp
      split at h
      · simp at h
      · rename_i draft hd
        cases h
        exact ⟨ht, hp, draft, hd, rfl, rfl⟩

theorem exists_compiled (o : ScriptOptions) (source : String) (q : Compiled → Bool)
    (h : (compile o source).toOption.any q = true) :
    ∃ c, compile o source = .ok c ∧ q c = true := by
  cases hc : compile o source with
  | ok c => exact ⟨c, rfl, by simpa [hc, Except.toOption] using h⟩
  | error e => simp [hc, Except.toOption] at h

theorem wellmade_of_compile {o : ScriptOptions} {source : String} {c : Compiled}
    (h : compile o source = .ok c) : c.Wellmade o := by
  obtain ⟨ht, hp, draft, hd, htable, hcode⟩ := compile_eq_ok h
  obtain ⟨hnames, hlines⟩ := Program.lines_of_emit hd
  have hspells := Program.spells_of_ofTokens hp
  refine ⟨hspells, hspells.writable (sound_of_tokenize ht), htable.trans hnames, ?_⟩
  rw [hcode, Draft.code, hlines, htable]

namespace Compiled.Wellmade

variable {o : ScriptOptions} {c : Compiled}

theorem naming (h : c.Wellmade o) (ho : o.Valid) : Naming o c.table.nameOf := by
  refine naming_nameOf ho ?_
  rw [h.table]
  exact (SymbolTable.extends_insertAll _ _).stem

theorem get?_table (h : c.Wellmade o) {x : String} (hx : x ∈ Program.identifiers c.program) :
    c.table.get? x = some (c.table.nameOf x) := by
  refine SymbolTable.get?_of_mem _ ?_
  rw [h.table]
  exact SymbolTable.mem_insertAll _ hx

/-- **The lines of the text show the rows of the program**, one each. -/
theorem shows_splitLines (h : c.Wellmade o) (ho : o.Valid) :
    List.Forall₂ (Script.Shows o)
      (Text.splitLines c.code.toList) (Program.script o c.table.nameOf c.program) := by
  have hheader : Script.Shows o o.header.toList ⟨0, [.name o.accumulator, .equal, .str ""]⟩ := by
    have hwritten : Written [.name o.accumulator, .equal, .str ""]
        (o.accumulator.toList ++ [' ', '=', ' ', '"', '"']) :=
      .token ho.accumulator (closes_space _ _) (.space (.token trivial trivial (.space
        (.token (t := .str "") trivial trivial .nil))))
    simpa [ScriptOptions.header, Text.toList_repeated] using shows_indented ho 0 ho.accumulator hwritten
  have hrows := List.Forall₂.cons hheader
    (Program.shows_rows ho (h.naming ho) 0 c.program h.writable)
  -- Every line shows something, so none is empty or broken.
  obtain ⟨hlines, -⟩ := (List.forall₂_and_left (p := fun cs => cs ≠ [] ∧ ∀ c ∈ cs, Unbroken c) _ _).1
    (hrows.imp fun cs row hrow => ⟨⟨hrow.ne_nil, hrow.written.unbroken⟩, hrow⟩)
  rw [h.code, splitLines_joinLines]
  · exact hrows
  · exact fun line hline => hlines _ (List.mem_map_of_mem (f := String.toList) hline)

end Compiled.Wellmade

/-- **A script is its program, token for token.**  Its lines are the rows of the program: a first
one, one for each statement in the order of the text and one for each empty body, every one with
the indentation of its depth and with the tokens of its row.  Each token of an expression is one
token of the script, and each identifier is the name that the table has for it. -/
theorem compiled_script_is_token_faithful {o : ScriptOptions} {source : String} {c : Compiled}
    (ho : o.fault? = none) (hc : compile o source = .ok c) :
    (∀ x ∈ Program.identifiers c.program, c.table.get? x = some (c.table.nameOf x)) ∧
      Program.Each Expression.Plain c.program ∧
      (Text.splitLines c.code.toList).length =
        1 + Program.count c.program + Program.emptyLoops c.program ∧
      List.Forall₂ (fun line row => indentOf line = row.depth * o.indent.length ∧
          ∀ number, tokenizeLine number line = .ok row.tokens)
        (Text.splitLines c.code.toList) (Program.script o c.table.nameOf c.program) := by
  have hmade := wellmade_of_compile hc
  have hshows := hmade.shows_splitLines (ScriptOptions.valid_of_fault? ho)
  refine ⟨fun x hx => hmade.get?_table hx, hmade.writable.imp fun e he => he.plain, ?_, ?_⟩
  · rw [hshows.length_eq, Program.script, List.length_cons, Program.length_rows]
    omega
  · exact hshows.imp fun line row h => ⟨h.indent, h.written.tokenizeLine⟩

/-- A loop in a loop, the inner one empty, and a text with a quote and a line break in it. -/
theorem compiled_script_is_token_faithful_nested :
    let source := "老张从1到二磨叽：唠唠：“a\"\nb”老张。老李从1到老张减1磨叽：磨叽完了。磨叽完了。"
    let lines := ["_db_output = \"\"",
      "for _db_var0 in range(1, 2 + 1):",
      "\t_db_output += str(\"a\\\"\\nb\"_db_var0) + \"\\n\"",
      "\tfor _db_var1 in range(1, _db_var0-1 + 1):",
      "\t\tpass"]
    let rows : List Script.Row := [⟨0, [.name "_db_output", .equal, .str ""]⟩,
      ⟨0, [.name "for", .name "_db_var0", .name "in", .name "range", .leftParen, .int 1, .comma,
        .int 2, .plus, .int 1, .rightParen, .colon]⟩,
      ⟨1, [.name "_db_output", .plusEqual, .name "str", .leftParen, .str "a\"\nb",
        .name "_db_var0", .rightParen, .plus, .str "\n"]⟩,
      ⟨1, [.name "for", .name "_db_var1", .name "in", .name "range", .leftParen, .int 1, .comma,
        .name "_db_var0", .minus, .int 1, .plus, .int 1, .rightParen, .colon]⟩,
      ⟨2, [.name "pass"]⟩]
    ∃ c, compile { indent := "\t" } source = .ok c ∧
      Text.splitLines c.code.toList = lines.map String.toList ∧
      Program.script { indent := "\t" } c.table.nameOf c.program = rows ∧
      List.Forall₂ (fun line row => indentOf line = row.depth * 1 ∧
        ∀ number, tokenizeLine number line = .ok row.tokens) (lines.map String.toList) rows := by
  intro source lines rows
  obtain ⟨c, hc, hscript⟩ := exists_compiled { indent := "\t" } source
    (fun c => Text.splitLines c.code.toList == lines.map String.toList &&
      Program.script { indent := "\t" } c.table.nameOf c.program == rows) (by decide +kernel)
  obtain ⟨hlines, hrows⟩ := (Bool.and_eq_true _ _).mp hscript
  rw [beq_iff_eq] at hlines hrows
  have hfaithful := (compiled_script_is_token_faithful (by decide +kernel) hc).2.2.2
  rw [hlines, hrows] at hfaithful
  exact ⟨c, hc, hlines, hrows, hfaithful⟩

end Laoke
