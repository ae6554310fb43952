import Laoke.Proofs.Composition

/-!
# Scanning by rules

What the lexemes of a text are, said without a scanner.  `Scans before cs lexemes`
lists the rules: layout is skipped; else the longest keyword is taken; else, right
after an opening quote, the text of a string up to its closing quote; else one
character.  The lexeme before is all that is remembered.

* `Keyword.atStart?_eq_some_iff`: the first keyword that matches is the longest.
* `scans_iff_lexemes`: every text is scanned in exactly one way, by `Scanner.lexemes`.
-/

namespace Laoke

/-! ### Keywords -/

/-- The longest keyword that a text starts with. -/
def Keyword.Longest (k : Keyword) (cs : List Char) : Prop :=
  k.letters <+: cs ∧ ∀ k' : Keyword, k'.letters <+: cs → k'.letters.length ≤ k.letters.length

namespace Keyword

theorem mem_all (k : Keyword) : k ∈ all := by
  cases k <;> decide

theorem letters_inj {k k' : Keyword} (h : k.letters = k'.letters) : k = k' := by
  revert h
  cases k <;> cases k' <;> decide

/-- No keyword is matched before one that begins with it. -/
theorem pairwise_all : all.Pairwise fun k k' => ¬ k.letters <+: k'.letters := by
  decide

theorem atStart?_eq_none_iff {cs : List Char} :
    atStart? cs = none ↔ ∀ k : Keyword, ¬ k.letters <+: cs := by
  unfold atStart?
  rw [List.find?_eq_none]
  constructor
  · intro h k hk
    exact h k (mem_all k) (List.isPrefixOf_iff_prefix.2 hk)
  · intro h k _ hk
    exact h k (List.isPrefixOf_iff_prefix.1 hk)

theorem longest_of_atStart? {cs : List Char} {k : Keyword} (h : atStart? cs = some k) :
    k.Longest cs := by
  obtain ⟨hk, earlier, later, hall, hearlier⟩ := List.find?_eq_some_iff_append.1 h
  have hk := List.isPrefixOf_iff_prefix.1 hk
  refine ⟨hk, fun k' hk' => ?_⟩
  have hmem := mem_all k'
  rw [hall, List.mem_append, List.mem_cons] at hmem
  rcases hmem with hmem | rfl | hmem
  · have hnot := hearlier k' hmem
    rw [List.isPrefixOf_iff_prefix.2 hk'] at hnot
    exact absurd hnot (by decide)
  · exact Nat.le_refl _
  · -- A later keyword is no longer, or it would begin with this one.
    have hpairs := pairwise_all
    rw [hall] at hpairs
    have hnot := (List.pairwise_cons.1 (List.pairwise_append.1 hpairs).2.1).1 k' hmem
    rcases List.prefix_or_prefix_of_prefix hk hk' with hle | hle
    · exact absurd hle hnot
    · exact hle.length_le

/-- **The first keyword that matches is the longest.** -/
theorem atStart?_eq_some_iff {cs : List Char} {k : Keyword} :
    atStart? cs = some k ↔ k.Longest cs := by
  constructor
  · exact longest_of_atStart?
  · intro hk
    cases hfound : atStart? cs with
    | none => exact absurd hk.1 (atStart?_eq_none_iff.1 hfound k)
    | some found =>
      have hlongest := longest_of_atStart? hfound
      have hlength := Nat.le_antisymm (hk.2 found hlongest.1) (hlongest.2 k hk.1)
      have hsame := List.prefix_of_prefix_length_le hlongest.1 hk.1 (Nat.le_of_eq hlength)
      rw [letters_inj (hsame.eq_of_length hlength)]

/-- A keyword starts with a mark of its own: neither a blank nor a comment. -/
theorem letters_eq_cons (k : Keyword) :
    ∃ c cs, k.letters = c :: cs ∧ Text.isBlank c = false ∧ c ≠ commentMark := by
  cases k <;> exact ⟨_, _, rfl, by decide, by decide⟩

end Keyword

/-! ### The rules -/

/-- A text that starts with something, but neither with layout nor with a keyword. -/
structure Bare (cs : List Char) : Prop where
  ne_nil : cs ≠ []
  not_layout : ∀ c ∈ cs.head?, Text.isBlank c = false ∧ c ≠ commentMark
  not_keyword : ∀ k : Keyword, ¬ k.letters <+: cs

/-- The lexemes of a text, given the lexeme before it. -/
inductive Scans : Option Lexeme → List Char → List Lexeme → Prop
  | done {before : Option Lexeme} : Scans before [] []
  | blank {before : Option Lexeme} {c : Char} {cs : List Char} {lexemes : List Lexeme}
      (hc : Text.isBlank c = true) (h : Scans before cs lexemes) : Scans before (c :: cs) lexemes
  /-- A comment ends with its line or with the text. -/
  | comment {before : Option Lexeme} {note cs : List Char} {lexemes : List Lexeme}
      (hnote : '\n' ∉ note) (hcs : ∀ c ∈ cs.head?, c = '\n') (h : Scans before cs lexemes) :
      Scans before (commentMark :: (note ++ cs)) lexemes
  | keyword {before : Option Lexeme} {k : Keyword} {cs : List Char} {lexemes : List Lexeme}
      (hk : k.Longest (k.letters ++ cs)) (h : Scans (some (.keyword k)) cs lexemes) :
      Scans before (k.letters ++ cs) (.keyword k :: lexemes)
  | string {text cs : List Char} {lexemes : List Lexeme} (hb : Bare (text ++ closingMark :: cs))
      (htext : closingMark ∉ text) (h : Scans (some (.keyword .closeQuote)) cs lexemes) :
      Scans (some (.keyword .openQuote)) (text ++ closingMark :: cs)
        (.string text :: .keyword .closeQuote :: lexemes)
  /-- A string that is not closed goes on to the end of the text. -/
  | unclosed {text : List Char} (hb : Bare text) (htext : closingMark ∉ text) :
      Scans (some (.keyword .openQuote)) text [.string text]
  | char {before : Option Lexeme} {c : Char} {cs : List Char} {lexemes : List Lexeme}
      (hbefore : before ≠ some (.keyword .openQuote)) (hb : Bare (c :: cs))
      (h : Scans (some (.char c)) cs lexemes) : Scans before (c :: cs) (.char c :: lexemes)

/-! ### Layout -/

theorem skipLayout_cons_of_isBlank {c : Char} (hc : Text.isBlank c = true) (cs : List Char) :
    skipLayout (c :: cs) = skipLayout cs := by
  rw [skipLayout, skipLayoutFrom, if_pos hc]
  rfl

theorem skipLayout_of_not_layout {cs : List Char}
    (h : ∀ c ∈ cs.head?, Text.isBlank c = false ∧ c ≠ commentMark) : skipLayout cs = cs := by
  cases cs with
  | nil => rfl
  | cons c cs =>
    obtain ⟨hblank, hmark⟩ := h c rfl
    rw [skipLayout, skipLayoutFrom, if_neg (by simp [hblank]), if_neg hmark]

/-- The rest of a comment is skipped, and the end of its line with it. -/
theorem skipLayoutFrom_true {note cs : List Char} (hnote : '\n' ∉ note)
    (hcs : ∀ c ∈ cs.head?, c = '\n') : skipLayoutFrom true (note ++ cs) = skipLayout cs := by
  induction note with
  | nil =>
    cases cs with
    | nil => rfl
    | cons c cs =>
      obtain rfl := hcs c rfl
      rfl
  | cons c note ih =>
    obtain ⟨hc, hnote⟩ := not_or.1 (List.mem_cons.not.1 hnote)
    have hne : (c != '\n') = true := bne_iff_ne.2 (Ne.symm hc)
    rw [List.cons_append, skipLayoutFrom, hne]
    exact ih hnote

theorem skipLayout_comment {note cs : List Char} (hnote : '\n' ∉ note)
    (hcs : ∀ c ∈ cs.head?, c = '\n') :
    skipLayout (commentMark :: (note ++ cs)) = skipLayout cs := by
  rw [← skipLayoutFrom_true hnote hcs, skipLayout, skipLayoutFrom, if_neg (by decide), if_pos rfl]

theorem skipLayoutFrom_not_layout (inComment : Bool) (cs : List Char) :
    ∀ c ∈ (skipLayoutFrom inComment cs).head?, Text.isBlank c = false ∧ c ≠ commentMark := by
  induction cs generalizing inComment with
  | nil => cases inComment <;> simp [skipLayoutFrom]
  | cons c cs ih =>
    cases inComment with
    | true => exact ih _
    | false =>
      unfold skipLayoutFrom
      split_ifs with hblank hmark
      · exact ih _
      · exact ih _
      · rintro _ ⟨⟩
        exact ⟨by simpa using hblank, hmark⟩

/-- A comment that is still open has an end. -/
theorem Scans.exists_of_skipLayoutFrom_true {before : Option Lexeme} {cs : List Char}
    {lexemes : List Lexeme}
    (hskip : ∀ rest : List Char, rest.length ≤ cs.length → Scans before (skipLayout rest) lexemes →
      Scans before rest lexemes)
    (h : Scans before (skipLayoutFrom true cs) lexemes) :
    ∃ note rest, cs = note ++ rest ∧ '\n' ∉ note ∧ (∀ c ∈ rest.head?, c = '\n') ∧
      Scans before rest lexemes := by
  induction cs with
  | nil => exact ⟨[], [], rfl, by simp, by simp, h⟩
  | cons c cs ih =>
    by_cases hc : c = '\n'
    · subst hc
      exact ⟨[], '\n' :: cs, rfl, by simp, by simp, hskip _ (Nat.le_refl _) h⟩
    · have hne : (c != '\n') = true := bne_iff_ne.2 hc
      rw [skipLayoutFrom, hne] at h
      obtain ⟨note, rest, rfl, hnote, hrest, hscan⟩ :=
        ih (fun rest hle => hskip rest (Nat.le_succ_of_le hle)) h
      exact ⟨c :: note, rest, rfl, by simp [Ne.symm hc, hnote], hrest, hscan⟩

/-- Layout at the front changes nothing. -/
theorem Scans.of_skipLayout {before : Option Lexeme} {cs : List Char} {lexemes : List Lexeme}
    (h : Scans before (skipLayout cs) lexemes) : Scans before cs lexemes := by
  induction hn : cs.length using Nat.strongRecOn generalizing cs with
  | _ n ih =>
    subst hn
    cases cs with
    | nil => exact h
    | cons c cs =>
      rw [skipLayout, skipLayoutFrom] at h
      split_ifs at h with hblank hmark
      · exact .blank hblank (ih cs.length (Nat.lt_succ_self _) h rfl)
      · subst hmark
        obtain ⟨note, rest, rfl, hnote, hrest, hscan⟩ :=
          Scans.exists_of_skipLayoutFrom_true
            (fun rest hle h => ih rest.length (Nat.lt_succ_of_le hle) h rfl) h
        exact .comment hnote hrest hscan
      · exact h

/-! ### The scanner -/

/-- How a scanner goes on after a lexeme. -/
def Scanner.modeAfter (before : Option Lexeme) : ScanMode :=
  if before = some (.keyword .openQuote) then .opened else .plain

namespace Scanner

theorem next?_modeAfter (before : Option Lexeme) (cs : List Char) :
    next? ⟨cs, modeAfter before⟩ =
      lexemeAt? (decide (before = some (.keyword .openQuote))) (skipLayout cs) := by
  unfold modeAfter
  by_cases hb : before = some (.keyword .openQuote)
  · simp only [hb, ↓reduceIte, decide_true]
    rfl
  · simp only [hb, ↓reduceIte, decide_false]
    rfl

theorem next?_of_not_layout (before : Option Lexeme) {cs : List Char}
    (h : ∀ c ∈ cs.head?, Text.isBlank c = false ∧ c ≠ commentMark) :
    next? ⟨cs, modeAfter before⟩ =
      lexemeAt? (decide (before = some (.keyword .openQuote))) cs := by
  rw [next?_modeAfter, skipLayout_of_not_layout h]

theorem lexemeAt?_keyword {k : Keyword} {cs : List Char} (afterQuote : Bool) (hk : k.Longest cs) :
    lexemeAt? afterQuote cs =
      some (.keyword k, ⟨cs.drop k.letters.length, modeAfter (some (.keyword k))⟩) := by
  cases cs with
  | nil =>
    obtain ⟨c, rest, hletters, -⟩ := k.letters_eq_cons
    have := List.prefix_nil.1 hk.1
    rw [hletters] at this
    cases this
  | cons c cs =>
    simp only [lexemeAt?, Keyword.atStart?_eq_some_iff.2 hk, modeAfter, Option.some.injEq,
      Lexeme.keyword.injEq]

theorem lexemeAt?_char {c : Char} {cs : List Char} (hb : Bare (c :: cs)) :
    lexemeAt? false (c :: cs) = some (.char c, ⟨cs, .plain⟩) := by
  simp only [lexemeAt?, Keyword.atStart?_eq_none_iff.2 hb.not_keyword, Bool.false_eq_true,
    ↓reduceIte]

theorem lexemeAt?_of_bare {cs : List Char} (hb : Bare cs) :
    lexemeAt? true cs =
      match cs.dropWhile (· != closingMark) with
      | [] => some (.string (cs.takeWhile (· != closingMark)), ⟨[], .plain⟩)
      | _ :: rest => some (.string (cs.takeWhile (· != closingMark)), ⟨rest, .closing⟩) := by
  cases cs with
  | nil => exact absurd rfl hb.ne_nil
  | cons c cs =>
    rw [lexemeAt?, Keyword.atStart?_eq_none_iff.2 hb.not_keyword]
    rfl

theorem ne_closingMark_of_not_mem {text : List Char} (htext : closingMark ∉ text) :
    ∀ c ∈ text, (c != closingMark) = true :=
  fun _ hc => bne_iff_ne.2 fun h => htext (h ▸ hc)

theorem lexemeAt?_string {text cs : List Char} (hb : Bare (text ++ closingMark :: cs))
    (htext : closingMark ∉ text) :
    lexemeAt? true (text ++ closingMark :: cs) = some (.string text, ⟨cs, .closing⟩) := by
  have hmark : ∀ c ∈ (closingMark :: cs).head?, (c != closingMark) = false := by
    rintro _ ⟨⟩
    exact bne_self_eq_false _
  obtain ⟨htake, hdrop⟩ :=
    Script.takeWhile_append_of_head (ne_closingMark_of_not_mem htext) hmark
  rw [lexemeAt?_of_bare hb, htake, hdrop]

theorem lexemeAt?_unclosed {text : List Char} (hb : Bare text) (htext : closingMark ∉ text) :
    lexemeAt? true text = some (.string text, ⟨[], .plain⟩) := by
  have hnone : ∀ c ∈ ([] : List Char).head?, (c != closingMark) = false := by simp
  obtain ⟨htake, hdrop⟩ :=
    Script.takeWhile_append_of_head (ne_closingMark_of_not_mem htext) hnone
  rw [List.append_nil] at htake hdrop
  rw [lexemeAt?_of_bare hb, htake, hdrop]

end Scanner

/-- What the rules give is what a scanner reads. -/
theorem Scans.lexemes_eq {before : Option Lexeme} {cs : List Char} {lexemes : List Lexeme}
    (h : Scans before cs lexemes) : Scanner.lexemes ⟨cs, Scanner.modeAfter before⟩ = lexemes := by
  induction h with
  | done => exact Scanner.lexemes_of_none (Scanner.next?_modeAfter _ _)
  | blank hc _ ih =>
    rw [← ih]
    refine Scanner.lexemes_congr ?_
    rw [Scanner.next?_modeAfter, Scanner.next?_modeAfter, skipLayout_cons_of_isBlank hc]
  | comment hnote hcs _ ih =>
    rw [← ih]
    refine Scanner.lexemes_congr ?_
    rw [Scanner.next?_modeAfter, Scanner.next?_modeAfter, skipLayout_comment hnote hcs]
  | @keyword before k cs lexemes hk _ ih =>
    have hlayout : ∀ c ∈ (k.letters ++ cs).head?, Text.isBlank c = false ∧ c ≠ commentMark := by
      obtain ⟨c, tail, hletters, hc⟩ := k.letters_eq_cons
      rw [hletters]
      rintro _ ⟨⟩
      exact hc
    have hnext := Scanner.next?_of_not_layout before hlayout
    rw [Scanner.lexemeAt?_keyword _ hk, List.drop_left] at hnext
    rw [Scanner.lexemes_of_some hnext, ih]
  | @string text cs lexemes hb htext _ ih =>
    have hnext := Scanner.next?_of_not_layout (some (.keyword .openQuote)) hb.not_layout
    rw [decide_eq_true rfl, Scanner.lexemeAt?_string hb htext] at hnext
    have hclose : Scanner.next? ⟨cs, .closing⟩ = some (.keyword .closeQuote, ⟨cs, .plain⟩) := rfl
    rw [Scanner.lexemes_of_some hnext, Scanner.lexemes_of_some hclose]
    exact congrArg _ (congrArg _ ih)
  | @unclosed text hb htext =>
    have hnext := Scanner.next?_of_not_layout (some (.keyword .openQuote)) hb.not_layout
    rw [decide_eq_true rfl, Scanner.lexemeAt?_unclosed hb htext] at hnext
    rw [Scanner.lexemes_of_some hnext, Scanner.lexemes_of_none rfl]
  | @char before c cs lexemes hbefore hb _ ih =>
    have hnext := Scanner.next?_of_not_layout before hb.not_layout
    rw [decide_eq_false hbefore, Scanner.lexemeAt?_char hb] at hnext
    rw [Scanner.lexemes_of_some hnext]
    exact congrArg _ ih

/-- A text without layout at its front is scanned by one of the rules. -/
theorem scans_of_not_layout {before : Option Lexeme} {cs : List Char}
    (hlayout : ∀ c ∈ cs.head?, Text.isBlank c = false ∧ c ≠ commentMark)
    (ih : ∀ (before : Option Lexeme) (rest : List Char), rest.length < cs.length →
      ∃ lexemes, Scans before rest lexemes) :
    ∃ lexemes, Scans before cs lexemes := by
  cases hk : Keyword.atStart? cs with
  | some k =>
    have hlongest := Keyword.atStart?_eq_some_iff.1 hk
    obtain ⟨rest, rfl⟩ := hlongest.1
    have hpos := k.length_letters_pos
    obtain ⟨lexemes, hscan⟩ := ih (some (.keyword k)) rest (by rw [List.length_append]; omega)
    exact ⟨_, .keyword hlongest hscan⟩
  | none =>
    by_cases hnil : cs = []
    · subst hnil
      exact ⟨_, .done⟩
    have hb : Bare cs := ⟨hnil, hlayout, Keyword.atStart?_eq_none_iff.1 hk⟩
    by_cases hbefore : before = some (.keyword .openQuote)
    · subst hbefore
      by_cases hmark : closingMark ∈ cs
      · obtain ⟨text, rest, rfl, htext⟩ := List.eq_append_cons_of_mem hmark
        obtain ⟨lexemes, hscan⟩ := ih (some (.keyword .closeQuote)) rest (by
          rw [List.length_append, List.length_cons]
          omega)
        exact ⟨_, .string hb htext hscan⟩
      · exact ⟨_, .unclosed hb hmark⟩
    · obtain ⟨c, rest, rfl⟩ := List.exists_cons_of_ne_nil hnil
      obtain ⟨lexemes, hscan⟩ := ih (some (.char c)) rest (Nat.lt_succ_self _)
      exact ⟨_, .char hbefore hb hscan⟩

theorem exists_scans (before : Option Lexeme) (cs : List Char) :
    ∃ lexemes, Scans before cs lexemes := by
  induction hn : cs.length using Nat.strongRecOn generalizing before cs with
  | _ n ih =>
    subst hn
    have hle := length_skipLayout_le cs
    obtain ⟨lexemes, hscan⟩ := scans_of_not_layout (skipLayoutFrom_not_layout false cs)
      fun before rest hlt => ih rest.length (Nat.lt_of_lt_of_le hlt hle) before rest rfl
    exact ⟨lexemes, .of_skipLayout hscan⟩

/-- **Every text is scanned in exactly one way**, by the scanner. -/
theorem scans_iff_lexemes {before : Option Lexeme} {cs : List Char} {lexemes : List Lexeme} :
    Scans before cs lexemes ↔ lexemes = Scanner.lexemes ⟨cs, Scanner.modeAfter before⟩ := by
  constructor
  · exact fun h => h.lexemes_eq.symm
  · rintro rfl
    obtain ⟨lexemes, h⟩ := exists_scans before cs
    rwa [h.lexemes_eq]

end Laoke
