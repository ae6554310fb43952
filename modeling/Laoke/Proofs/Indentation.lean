import Laoke.Proofs.Blocks
import Mathlib

/-!
# Blocks and indentation

A script is read as a forest, and the only thing that says which line belongs to
which loop is how far the lines are indented.  A `Layout` is a forest of lines.
What a script is read as is a layout of its lines, all of them and in their
order, in which

* the lines of one block are indented alike, those at the top not at all, and a
  block is indented more than the line above it (`Layout.Indented`);
* each line is read by itself, and there is a block below a line exactly if it is
  the header of a loop (`Layout.ReadAs`).

`block_eq_ok_iff` says this of a block at any depth, with the lines that are left
after it; `parse_eq_ok_iff_layout` of a whole script.
-/

namespace Laoke.Script

/-! ### Layouts -/

/-- Lines in blocks: each line with the block below it. -/
inductive Layout where
  | node (line : Line) (body : List Layout)

namespace Layout

mutual

/-- The lines of a layout from top to bottom. -/
def lines : Layout → List Line
  | node line body => line :: allLines body

/-- The lines of layouts one below the other, from top to bottom. -/
def allLines : List Layout → List Line
  | [] => []
  | layout :: more => layout.lines ++ allLines more

end

/-- A block that is indented by `indent`: so are all its lines, and the block below each is indented
more. -/
inductive Indented : Nat → List Layout → Prop
  | nil {indent : Nat} : Indented indent []
  | cons {indent inner : Nat} {line : Line} {body more : List Layout} (hline : line.indent = indent)
      (hlt : indent < inner) (hbody : Indented inner body) (hmore : Indented indent more) :
      Indented indent (node line body :: more)

/-- The statements that layouts are read as, one line for each. -/
inductive ReadAs : List Layout → List Statement → Prop
  | nil : ReadAs [] []
  | simple {line : Line} {s : Statement} {more : List Layout} {ss : List Statement}
      (hline : line.read LineReader.simpleStatement = .ok s) (hmore : ReadAs more ss) :
      ReadAs (node line [] :: more) (s :: ss)
  | loop {line : Line} {x : String} {a b : Expr} {body more : List Layout}
      {inside ss : List Statement} (hline : line.read LineReader.loopHeader = .ok (x, a, b))
      (hne : body ≠ []) (hbody : ReadAs body inside) (hmore : ReadAs more ss) :
      ReadAs (node line body :: more) (.forRange x a b inside :: ss)

/-- The first line of a block is indented as the block is. -/
theorem Indented.head {indent : Nat} {layouts : List Layout} (h : Indented indent layouts)
    (hne : layouts ≠ []) :
    ∃ line rest, allLines layouts = line :: rest ∧ line.indent = indent := by
  cases h with
  | nil => exact absurd rfl hne
  | cons hline _ _ _ => exact ⟨_, _, rfl, hline⟩

end Layout

/-- Lines that start less deep than `indent`. -/
def Above (indent : Nat) (lines : List Line) : Prop :=
  ∀ line ∈ lines.head?, line.indent < indent

/-- Deeper inside, what follows a block is above as well. -/
theorem Layout.Indented.above {indent inner : Nat} (hlt : indent < inner) {more : List Layout}
    (hm : Layout.Indented indent more) {last : List Line} (hlast : Above indent last) :
    Above inner (Layout.allLines more ++ last) := by
  intro line hline
  cases more with
  | nil => exact Nat.lt_trans (hlast line hline) hlt
  | cons layout more =>
    obtain ⟨first, rest, hrest, hfirst⟩ := hm.head (List.cons_ne_nil _ _)
    rw [hrest] at hline
    cases hline
    omega

/-! ### Single lines -/

theorem isLoop_iff {line : Line} : line.isLoop = true ↔ ∃ rest, line.tokens = .name "for" :: rest := by
  unfold Line.isLoop
  rw [decide_eq_true_eq, List.head?_eq_some_iff]

/-- Only a loop is read as the header of one. -/
theorem isLoop_of_read_loopHeader {line : Line} {r : String × Expr × Expr}
    (h : line.read LineReader.loopHeader = .ok r) : line.isLoop = true := by
  obtain ⟨last, h⟩ := read_eq_ok.1 h
  obtain ⟨_, rest, hfor, -⟩ := bind_eq_ok.1 h
  exact isLoop_iff.2 ⟨rest, LineReader.expectWord_eq_ok.1 hfor⟩

/-- No loop is read as another statement: its first word is reserved. -/
theorem isLoop_of_read_simpleStatement {line : Line} {s : Statement}
    (h : line.read LineReader.simpleStatement = .ok s) : line.isLoop = false := by
  cases hl : line.isLoop with
  | false => rfl
  | true =>
    obtain ⟨rest, htokens⟩ := isLoop_iff.1 hl
    obtain ⟨last, h⟩ := read_eq_ok.1 h
    have herror : LineReader.simpleStatement (.name "for" :: rest) =
        .error .name (.name "for" :: rest) := rfl
    rw [htokens, herror] at h
    cases h

theorem bodyIndent?_eq_some {indent inner : Nat} {lines : List Line} :
    bodyIndent? indent lines = some inner ↔
      ∃ line rest, lines = line :: rest ∧ indent < inner ∧ line.indent = inner := by
  cases lines with
  | nil => simp [bodyIndent?]
  | cons line rest =>
    simp only [bodyIndent?]
    split_ifs with hlt
    · constructor
      · intro h
        cases h
        exact ⟨line, rest, rfl, hlt, rfl⟩
      · rintro ⟨_, _, h, -, rfl⟩
        cases h
        rfl
    · constructor
      · intro h
        cases h
      · rintro ⟨_, _, h, hlt', rfl⟩
        cases h
        exact absurd hlt' hlt

/-- A loop that is read has a deeper line after it. -/
theorem exists_bodyIndent? (line : Line) {rest last : List Line} {ss : List Statement}
    (hl : line.isLoop = true) (h : block line.indent (line :: rest) = .ok (ss, last)) :
    ∃ inner, bodyIndent? line.indent rest = some inner := by
  cases hb : bodyIndent? line.indent rest with
  | some inner => exact ⟨inner, rfl⟩
  | none =>
    rw [block, if_neg (Nat.lt_irrefl _), if_neg (Nat.lt_irrefl _), if_pos hl] at h
    cases hs : line.read LineReader.loopHeader with
    | error e => simp [hs] at h
    | ok r => simp [hs, hb] at h

/-! ### Blocks -/

/-- A block ends before a line that is above it. -/
theorem block_of_above {indent : Nat} {lines : List Line} (h : Above indent lines) :
    block indent lines = .ok ([], lines) := by
  cases lines with
  | nil => rw [block]
  | cons line rest => rw [block, if_pos (h line rfl)]

/-- The line after the header of a loop is in its body, which would end before it otherwise. -/
theorem ne_nil_of_bodyIndent? {indent inner : Nat} {body : List Layout} {after : List Line}
    (h : bodyIndent? indent (Layout.allLines body ++ after) = some inner)
    (hafter : Above inner after) : body ≠ [] := by
  rintro rfl
  obtain ⟨next, rest, hnext, -, rfl⟩ := bodyIndent?_eq_some.1 h
  exact Nat.lt_irrefl _ (hafter next (congrArg List.head? hnext))

/-- What is read as a block is a layout of its lines. -/
theorem exists_layout_of_block {indent : Nat} {lines last : List Line} {ss : List Statement}
    (h : block indent lines = .ok (ss, last)) :
    ∃ layouts, lines = Layout.allLines layouts ++ last ∧ Layout.Indented indent layouts ∧
      Layout.ReadAs layouts ss ∧ Above indent last := by
  induction hn : lines.length using Nat.strongRecOn generalizing indent lines ss last with
  | _ n ih =>
    subst hn
    cases lines with
    | nil =>
      rw [block] at h
      cases h
      exact ⟨[], rfl, .nil, .nil, by simp [Above]⟩
    | cons line rest =>
      rcases Nat.lt_trichotomy line.indent indent with hlt | rfl | hlt
      · rw [block, if_pos hlt] at h
        cases h
        refine ⟨[], rfl, .nil, .nil, ?_⟩
        rintro _ ⟨⟩
        exact hlt
      · cases hl : line.isLoop with
        | false =>
          obtain ⟨s, more, hs, hmore, rfl⟩ := (block_simple line hl).1 h
          obtain ⟨layouts, rfl, hindent, hread, hlast⟩ :=
            ih rest.length (Nat.lt_succ_self _) hmore rfl
          exact ⟨.node line [] :: layouts, rfl,
            .cons rfl (Nat.lt_succ_self _) .nil hindent, .simple hs hread, hlast⟩
        | true =>
          obtain ⟨inner, hinner⟩ := exists_bodyIndent? line hl h
          obtain ⟨body, after, hbody⟩ := block_loop_body line hl hinner h
          obtain ⟨inside, rfl, hinside, hbodyRead, hafter⟩ :=
            ih rest.length (Nat.lt_succ_self _) hbody rfl
          have hle : after.length ≤ (Layout.allLines inside ++ after).length := by simp
          obtain ⟨x, a, b, more, hs, hmore, rfl⟩ := (block_loop line hl hinner hbody hle).1 h
          obtain ⟨layouts, rfl, hindent, hread, hlast⟩ :=
            ih after.length (Nat.lt_succ_of_le hle) hmore rfl
          have hne : inside ≠ [] := ne_nil_of_bodyIndent? hinner hafter
          obtain ⟨_, _, -, hlt, -⟩ := bodyIndent?_eq_some.1 hinner
          exact ⟨.node line inside :: layouts, by simp [Layout.allLines, Layout.lines],
            .cons rfl hlt hinside hindent, .loop hs hne hbodyRead hread, hlast⟩
      · rw [block, if_neg (Nat.not_lt_of_gt hlt), if_pos hlt] at h
        cases h

/-- A layout of lines is read, up to a line above it. -/
theorem block_of_layout {layouts : List Layout} {ss : List Statement}
    (hread : Layout.ReadAs layouts ss) {indent : Nat} (hindent : Layout.Indented indent layouts)
    {last : List Line} (hlast : Above indent last) :
    block indent (Layout.allLines layouts ++ last) = .ok (ss, last) := by
  induction hread generalizing indent last with
  | nil => exact block_of_above hlast
  | @simple line s more ss hline _ ih =>
    cases hindent with
    | cons hi _ _ hmore =>
      subst hi
      exact (block_simple line (isLoop_of_read_simpleStatement hline)).2
        ⟨s, ss, hline, ih hmore hlast, rfl⟩
  | @loop line x a b body more inside ss hline hne _ _ ihbody ih =>
    cases hindent with
    | @cons _ inner _ _ _ hi hlt hbody hmore =>
      subst hi
      have hinside := ihbody hbody (hmore.above hlt hlast)
      obtain ⟨first, tail, hfirst, hfirstIndent⟩ := hbody.head hne
      have hinner : bodyIndent? line.indent
          (Layout.allLines body ++ (Layout.allLines more ++ last)) = some inner :=
        bodyIndent?_eq_some.2 ⟨first, _, by rw [hfirst]; rfl, hlt, hfirstIndent⟩
      have hlines : Layout.allLines (.node line body :: more) ++ last =
          line :: (Layout.allLines body ++ (Layout.allLines more ++ last)) := by
        simp [Layout.allLines, Layout.lines]
      rw [hlines]
      exact (block_loop line (isLoop_of_read_loopHeader hline) hinner hinside (by simp)).2
        ⟨x, a, b, ss, hline, ih hmore hlast, rfl⟩

/-- **A block is read exactly from the layouts of its lines.** -/
theorem block_eq_ok_iff {indent : Nat} {lines last : List Line} {ss : List Statement} :
    block indent lines = .ok (ss, last) ↔
      ∃ layouts, lines = Layout.allLines layouts ++ last ∧ Layout.Indented indent layouts ∧
        Layout.ReadAs layouts ss ∧ Above indent last := by
  constructor
  · exact exists_layout_of_block
  · rintro ⟨layouts, rfl, hindent, hread, hlast⟩
    exact block_of_layout hread hindent hlast

/-- At the top no line is left, as none starts above it. -/
theorem block_zero_eq_ok_iff {lines : List Line} {ss : List Statement} :
    (block 0 lines).map Prod.fst = .ok ss ↔
      ∃ layouts, Layout.allLines layouts = lines ∧ Layout.Indented 0 layouts ∧
        Layout.ReadAs layouts ss := by
  constructor
  · intro h
    cases hblock : block 0 lines with
    | error e =>
      rw [hblock] at h
      cases h
    | ok r =>
      obtain ⟨ss', last⟩ := r
      rw [hblock] at h
      cases h
      obtain ⟨layouts, rfl, hindent, hread, hlast⟩ := block_eq_ok_iff.1 hblock
      cases last with
      | nil => exact ⟨layouts, by simp, hindent, hread⟩
      | cons line _ => exact absurd (hlast line rfl) (Nat.not_lt_zero _)
  · rintro ⟨layouts, rfl, hindent, hread⟩
    have hblock : block 0 (Layout.allLines layouts ++ []) = .ok (ss, []) :=
      block_of_layout hread hindent (by simp [Above])
    rw [List.append_nil] at hblock
    rw [hblock]
    rfl

/-! ### Whole scripts -/

/-- A line of a text with its number, if it holds tokens. -/
def filledLine? (text : List Char × Nat) : Option Line :=
  match tokenizeLine text.2 text.1 with
  | .ok (t :: tokens) => some ⟨text.2, indentOf text.1, t :: tokens⟩
  | _ => none

/-- The lines of a script with their numbers, which count from one. -/
def numberedLines (code : String) : List (List Char × Nat) :=
  (Text.splitLines code.toList).zipIdx 1

/-- Whether all lines of a script can be cut into tokens. -/
def Tokenizes (code : String) : Prop :=
  ∀ text ∈ numberedLines code, ∃ tokens, tokenizeLine text.2 text.1 = .ok tokens

instance (code : String) : Decidable (Tokenizes code) :=
  decidable_of_iff (∀ text ∈ numberedLines code, (tokenizeLine text.2 text.1).isOk = true) <| by
    unfold Tokenizes
    refine forall₂_congr fun text _ => ?_
    cases tokenizeLine text.2 text.1 <;> simp [Except.isOk, Except.toBool]

theorem readLinesFrom_of_tokenizes {number : Nat} {texts : List (List Char)}
    (h : ∀ text ∈ texts.zipIdx number, ∃ tokens, tokenizeLine text.2 text.1 = .ok tokens) :
    readLinesFrom number texts = .ok ((texts.zipIdx number).filterMap filledLine?) := by
  induction texts generalizing number with
  | nil => rfl
  | cons text texts ih =>
    rw [List.zipIdx_cons] at h ⊢
    obtain ⟨⟨tokens, htokens⟩, hmore⟩ := List.forall_mem_cons.1 h
    rw [readLinesFrom, htokens, ih hmore]
    cases tokens with
    | nil => simp [filledLine?, htokens]
    | cons t tokens => simp [filledLine?, htokens]

/-- **A script is read exactly from the layouts of its lines.**  No line is left out, read twice or
taken for part of another loop, and what has no layout is not read at all. -/
theorem parse_eq_ok_iff_layout {code : String} (h : Tokenizes code) (ss : List Statement) :
    parse code = .ok ss ↔
      ∃ layouts, Layout.allLines layouts = (numberedLines code).filterMap filledLine? ∧
        Layout.Indented 0 layouts ∧ Layout.ReadAs layouts ss := by
  have hlines : readLines code = .ok ((numberedLines code).filterMap filledLine?) :=
    readLinesFrom_of_tokenizes h
  have hparse : parse code = (block 0 ((numberedLines code).filterMap filledLine?)).map Prod.fst := by
    unfold parse
    rw [hlines]
  rw [hparse]
  exact block_zero_eq_ok_iff

theorem parse_eq_ok_iff_layout_nested :
    Tokenizes "for i in range(1, 3):\n\n  for j in range(i, 2):\n    # none\n    pass\nx = i" ∧
      ∃ layouts, Layout.allLines layouts =
          (numberedLines
            "for i in range(1, 3):\n\n  for j in range(i, 2):\n    # none\n    pass\nx = i").filterMap
              filledLine? ∧
        Layout.Indented 0 layouts ∧
        Layout.ReadAs layouts [.forRange "i" (.int 1) (.int 3)
          [.forRange "j" (.name "i") (.int 2) [.pass]], .assign "x" .set (.name "i")] := by
  have htokens : Tokenizes
      "for i in range(1, 3):\n\n  for j in range(i, 2):\n    # none\n    pass\nx = i" := by
    decide +kernel
  exact ⟨htokens, (parse_eq_ok_iff_layout htokens _).1 (by cbv)⟩

end Laoke.Script
