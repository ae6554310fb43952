import Laoke.Proofs.Scanning

/-!
# Layout between lexemes

Blanks and comments can be put in wherever a scanner stands between two lexemes,
and nothing changes: not in the middle of an identifier or of a numeral, not right
after an opening quote, and not before the end of the text.

The proof cuts the text at that place.  What was read before it was read without
a look at what follows (`next?_of_append`), so it is read again when something
else follows, provided that no keyword runs over into that (`next?_append`); and
no keyword runs over into layout (`severed_of_layout`).  What follows the layout
is read as if it stood there alone (`lexemes_layout`).

* `Scanner.Passes.lexemes_insert`: the lexemes of a text stay when layout is put
  in between two of them.
* `tokenize_insert_layout`: so do its tokens.
* `tokenize_append_newline`: the tokens of a text and of what stands on the lines
  after it.
-/

namespace Laoke

/-! ### Layout -/

/-- A text that is only layout: blanks, and comments with the end of their line. -/
inductive IsLayout : List Char → Prop
  | nil : IsLayout []
  | blank {c : Char} {w : List Char} (hc : Text.isBlank c = true) (hw : IsLayout w) :
      IsLayout (c :: w)
  | comment {note w : List Char} (hnote : '\n' ∉ note) (hw : IsLayout w) :
      IsLayout (commentMark :: (note ++ '\n' :: w))

theorem skipLayout_append_of_isLayout {w : List Char} (hw : IsLayout w) (v : List Char) :
    skipLayout (w ++ v) = skipLayout v := by
  induction hw with
  | nil => rfl
  | blank hc _ ih => rw [List.cons_append, skipLayout_cons_of_isBlank hc, ih]
  | @comment note w hnote _ ih =>
    have hline : skipLayout (commentMark :: (note ++ '\n' :: (w ++ v))) =
        skipLayout ('\n' :: (w ++ v)) := skipLayout_comment hnote (by simp)
    rw [List.cons_append, List.append_assoc, List.cons_append, hline,
      skipLayout_cons_of_isBlank (by decide), ih]

/-- A text that is empty or starts with layout. -/
def OnLayout (cs : List Char) : Prop :=
  ∀ c ∈ cs.head?, Text.isBlank c = true ∨ c = commentMark

theorem IsLayout.onLayout_append {w : List Char} (hw : IsLayout w) (hne : w ≠ []) (v : List Char) :
    OnLayout (w ++ v) := by
  cases hw with
  | nil => exact absurd rfl hne
  | blank hc _ =>
    rintro _ ⟨⟩
    exact .inl hc
  | comment _ _ =>
    rintro _ ⟨⟩
    exact .inr rfl

theorem Keyword.not_layout_of_mem (k : Keyword) :
    ∀ c ∈ k.letters, Text.isBlank c = false ∧ c ≠ commentMark := by
  have hall : k.letters.all (fun c => !Text.isBlank c && c != commentMark) = true := by
    cases k <;> decide
  simpa using hall

/-- **No keyword runs over into layout.** -/
theorem Keyword.prefix_of_onLayout {k : Keyword} {u v : List Char} (hv : OnLayout v)
    (h : k.letters <+: u ++ v) : k.letters <+: u := by
  rcases Keyword.ends_or_runsOver h with h | ⟨c, hc, more, hmore⟩
  · exact h
  · obtain ⟨hblank, hmark⟩ := k.not_layout_of_mem c (by rw [hmore]; simp)
    rcases hv c hc with h | h
    · exact absurd (h.symm.trans hblank) (by decide)
    · exact absurd h hmark

theorem severed_of_layout {u v : List Char} (hv : OnLayout v) : Severed u v :=
  fun _ _ _ _ h => Keyword.prefix_of_onLayout hv h

namespace Scanner

/-- **Layout in front of a text changes none of its lexemes**, in whatever mode it is read. -/
theorem lexemes_layout {w : List Char} (hw : IsLayout w) (v : List Char) (mode : ScanMode) :
    lexemes ⟨w ++ v, mode⟩ = lexemes ⟨v, mode⟩ := by
  have hskip := skipLayout_append_of_isLayout hw v
  have hplain : next? ⟨w ++ v, .plain⟩ = next? ⟨v, .plain⟩ := by
    unfold next?
    dsimp only
    rw [hskip]
  cases mode with
  | plain => exact lexemes_congr hplain
  | opened =>
    apply lexemes_congr
    unfold next?
    dsimp only
    rw [hskip]
  | closing =>
    -- The closing quote was read with its string, so it comes before the layout.
    have hclose (cs : List Char) :
        next? ⟨cs, .closing⟩ = some (.keyword .closeQuote, ⟨cs, .plain⟩) := rfl
    rw [lexemes_of_some (hclose _), lexemes_of_some (hclose _), lexemes_congr hplain]

end Scanner

/-! ### Reading without a look at what follows -/

theorem Keyword.atStart?_of_append_some {u v : List Char} {k : Keyword}
    (h : Keyword.atStart? (u ++ v) = some k) (hle : k.letters.length ≤ u.length) :
    Keyword.atStart? u = some k := by
  have hlongest := Keyword.atStart?_eq_some_iff.1 h
  refine Keyword.atStart?_eq_some_iff.2 ⟨?_, fun k' hk' => ?_⟩
  · exact List.prefix_of_prefix_length_le hlongest.1 (List.prefix_append u v) hle
  · exact hlongest.2 k' (hk'.trans (List.prefix_append u v))

theorem Keyword.atStart?_of_append_none {u v : List Char} (h : Keyword.atStart? (u ++ v) = none) :
    Keyword.atStart? u = none := by
  refine Keyword.atStart?_eq_none_iff.2 fun k hk => ?_
  exact Keyword.atStart?_eq_none_iff.1 h k (hk.trans (List.prefix_append u v))

/-- A mark that is found before the second text is found without it. -/
theorem dropWhile_of_append {p : Char → Bool} {u u' v : List Char} {mark : Char}
    (h : (u ++ v).dropWhile p = mark :: (u' ++ v)) : u.dropWhile p = mark :: u' := by
  cases hdrop : u.dropWhile p with
  | nil =>
    rw [List.dropWhile_append, hdrop] at h
    have hle := (List.dropWhile_suffix (l := v) p).length_le
    have hv : v.dropWhile p = mark :: (u' ++ v) := h
    rw [hv, List.length_cons, List.length_append] at hle
    omega
  | cons c rest =>
    rw [(Scanner.takeWhile_dropWhile_append hdrop v).2] at h
    obtain ⟨rfl, hrest⟩ := List.cons.inj h
    rw [List.append_cancel_right hrest]

namespace Scanner

theorem lexemeAt?_of_append {afterQuote : Bool} {u u' v : List Char} {lexeme : Lexeme}
    {mode : ScanMode} (h : lexemeAt? afterQuote (u ++ v) = some (lexeme, ⟨u' ++ v, mode⟩))
    (he : Ended lexeme ⟨u' ++ v, mode⟩) : lexemeAt? afterQuote u = some (lexeme, ⟨u', mode⟩) := by
  have hlength : u'.length < u.length := by
    have hlt := size_lt_of_lexemeAt? h
    simp only [size, List.length_append] at hlt
    omega
  cases u with
  | nil => simp at hlength
  | cons c u =>
    rw [List.cons_append] at h
    simp only [lexemeAt?] at h ⊢
    cases hk : Keyword.atStart? (c :: (u ++ v)) with
    | some k =>
      rw [hk] at h
      simp only [Option.some.injEq, Prod.mk.injEq, Scanner.mk.injEq] at h
      obtain ⟨rfl, hrest, rfl⟩ := h
      have hle : k.letters.length ≤ (c :: u).length := by
        have hwhole := (Keyword.atStart?_eq_some_iff.1 hk).1.length_le
        have hleft := congrArg List.length hrest
        simp only [List.length_drop, List.length_append, List.length_cons] at hwhole hleft ⊢
        omega
      rw [← List.cons_append, List.drop_append_of_le_length hle] at hrest
      rw [Keyword.atStart?_of_append_some (u := c :: u) hk hle]
      dsimp only
      rw [List.append_cancel_right hrest]
    | none =>
      rw [hk] at h
      rw [Keyword.atStart?_of_append_none (u := c :: u) hk]
      dsimp only at h ⊢
      split_ifs at h ⊢ with hquote
      · split at h
        · -- A string without an end is not ended.
          simp only [Option.some.injEq, Prod.mk.injEq, Scanner.mk.injEq] at h
          obtain ⟨rfl, -, rfl⟩ := h
          exact absurd (he _ rfl) (by simp)
        · rename_i mark rest hdrop
          simp only [Option.some.injEq, Prod.mk.injEq, Scanner.mk.injEq] at h
          obtain ⟨rfl, rfl, rfl⟩ := h
          have hdrop' := dropWhile_of_append (u := c :: u) hdrop
          have htake := (takeWhile_dropWhile_append hdrop' v).1
          rw [List.cons_append] at htake
          rw [hdrop', htake]
      · simp only [Option.some.injEq, Prod.mk.injEq, Scanner.mk.injEq] at h
        obtain ⟨rfl, hrest, rfl⟩ := h
        rw [List.append_cancel_right hrest]

end Scanner

/-- What is left after layout to the very end lies in the text that follows. -/
theorem skipLayoutFrom_suffix_of_nil {inComment : Bool} {u : List Char}
    (h : skipLayoutFrom inComment u = []) (v : List Char) :
    skipLayoutFrom inComment (u ++ v) <:+ v := by
  induction u generalizing inComment with
  | nil => exact skipLayoutFrom_suffix inComment v
  | cons c u ih =>
    cases inComment with
    | true => exact ih h
    | false =>
      rw [List.cons_append]
      unfold skipLayoutFrom at h ⊢
      split_ifs at h ⊢
      · exact ih h
      · exact ih h

namespace Scanner

/-- **A lexeme is read without a look at what follows it**: it is the same when the text ends
there. -/
theorem next?_of_append {u u' v : List Char} {mode mode' : ScanMode} {lexeme : Lexeme}
    (h : next? ⟨u ++ v, mode⟩ = some (lexeme, ⟨u' ++ v, mode'⟩))
    (he : Ended lexeme ⟨u' ++ v, mode'⟩) : next? ⟨u, mode⟩ = some (lexeme, ⟨u', mode'⟩) := by
  have hlayout {afterQuote : Bool}
      (hat : lexemeAt? afterQuote (skipLayout (u ++ v)) = some (lexeme, ⟨u' ++ v, mode'⟩)) :
      lexemeAt? afterQuote (skipLayout u) = some (lexeme, ⟨u', mode'⟩) := by
    have hne : skipLayout u ≠ [] := by
      intro hnil
      have hle := (skipLayoutFrom_suffix_of_nil hnil v).length_le
      have hlt := size_lt_of_lexemeAt? hat
      simp only [size, List.length_append, skipLayout] at hlt
      omega
    have happend : skipLayout (u ++ v) = skipLayout u ++ v := skipLayoutFrom_append hne v
    rw [happend] at hat
    exact lexemeAt?_of_append hat he
  unfold next? at h ⊢
  cases mode with
  | closing =>
    simp only [Option.some.injEq, Prod.mk.injEq, Scanner.mk.injEq] at h
    obtain ⟨rfl, hrest, rfl⟩ := h
    rw [List.append_cancel_right hrest]
  | opened => exact hlayout h
  | plain => exact hlayout h

/-! ### From one place to the next -/

/-- Lexemes that are read one after the other, and the places before the first and after the last. -/
inductive Passes : Scanner → List Lexeme → Scanner → Prop
  | refl (s : Scanner) : Passes s [] s
  | step {s mid t : Scanner} {lexeme : Lexeme} {lexemes : List Lexeme}
      (h : s.next? = some (lexeme, mid)) (hmore : Passes mid lexemes t) :
      Passes s (lexeme :: lexemes) t

theorem suffix_of_next? {s t : Scanner} {lexeme : Lexeme} (h : s.next? = some (lexeme, t)) :
    t.rest <:+ s.rest := by
  by_cases he : Ended lexeme t
  · exact (next?_append (severed_of_layout (v := []) (by simp [OnLayout])) h he).2
  · -- A string that goes on takes all that is left.
    unfold Ended at he
    push Not at he
    obtain ⟨text, rfl, hmode⟩ := he
    rcases leaves_of_next? h with hclosing | rfl
    · exact absurd hclosing hmode
    · exact List.nil_suffix

theorem Passes.suffix {s t : Scanner} {lexemes : List Lexeme} (h : s.Passes lexemes t) :
    t.rest <:+ s.rest := by
  induction h with
  | refl s => exact List.suffix_refl _
  | step h _ ih => exact ih.trans (suffix_of_next? h)

/-- Only the last lexeme can be a string without an end. -/
theorem Passes.ended {s mid t : Scanner} {lexeme : Lexeme} {lexemes : List Lexeme}
    (h : s.next? = some (lexeme, mid)) (hmore : mid.Passes lexemes t)
    (he : ∀ last ∈ (lexeme :: lexemes).getLast?, Ended last t) : Ended lexeme mid := by
  cases hmore with
  | refl => exact he lexeme rfl
  | step hnext _ =>
    rintro text rfl
    rcases leaves_of_next? h with hclosing | rfl
    · exact hclosing
    · cases hnext

/-- **Layout between two lexemes changes none of them.** -/
theorem Passes.lexemes_insert {s t : Scanner} {lexemes : List Lexeme} (h : s.Passes lexemes t)
    (he : ∀ last ∈ lexemes.getLast?, Ended last t) {w : List Char} (hw : IsLayout w)
    {u : List Char} (hs : s.rest = u ++ t.rest) :
    Scanner.lexemes ⟨u ++ (w ++ t.rest), s.mode⟩ = s.lexemes := by
  by_cases hnil : w = []
  · subst hnil
    rw [List.nil_append, ← hs]
  induction h generalizing u with
  | refl s =>
    obtain rfl : u = [] := List.append_left_eq_self.1 hs.symm
    exact lexemes_layout hw s.rest s.mode
  | @step s mid t lexeme lexemes hnext hmore ih =>
    obtain ⟨u', hu'⟩ := hmore.suffix
    have hended : Ended lexeme mid := Passes.ended hnext hmore he
    have halone : next? ⟨u, s.mode⟩ = some (lexeme, ⟨u', mid.mode⟩) := by
      refine next?_of_append (v := t.rest) ?_ ?_
      · rw [← hs, hu']
        exact hnext
      · rw [hu']
        exact hended
    have hsevered : Severed u (w ++ t.rest) := severed_of_layout (hw.onLayout_append hnil t.rest)
    have hinsert := (next?_append hsevered halone hended).1
    rw [lexemes_of_some hinsert, lexemes_of_some hnext]
    exact congrArg _ (ih (fun last hlast => he last (List.mem_getLast?_cons hlast)) hu'.symm)

end Scanner

/-! ### Tokens -/

/-- **Layout does not matter between lexemes.**  Where a scanner stands after some lexemes, the last
of which is no string without an end, any layout can be put in. -/
theorem tokenize_insert_layout {u v w : String} {lexemes : List Lexeme} {place : Scanner}
    (hpass : (Scanner.ofText (u ++ v)).Passes lexemes place) (hrest : place.rest = v.toList)
    (hended : ∀ last ∈ lexemes.getLast?, Scanner.Ended last place) (hw : IsLayout w.toList) :
    tokenize (u ++ w ++ v) = tokenize (u ++ v) := by
  have hcut : (Scanner.ofText (u ++ v)).rest = u.toList ++ place.rest := by
    rw [hrest]
    exact String.toList_append
  have hlexemes := hpass.lexemes_insert hended hw hcut
  rw [tokenize_eq_tokensOf, tokenize_eq_tokensOf, ← hlexemes, hrest, Scanner.ofText,
    String.toList_append, String.toList_append, List.append_assoc]
  rfl

/-- A comment after a string, before its closing quote is handed out. -/
theorem tokenize_insert_layout_after_string :
    (Scanner.ofText ("“ a”" ++ "走走")).Passes [.keyword .openQuote, .string ['a']]
        ⟨['走', '走'], .closing⟩ ∧
      tokenize ("“ a”" ++ " #”\n" ++ "走走") = tokenize ("“ a”" ++ "走走") := by
  have hquote : (Scanner.ofText ("“ a”" ++ "走走")).next? =
      some (.keyword .openQuote, ⟨[' ', 'a', '”', '走', '走'], .opened⟩) := by
    decide +kernel
  have hstring : Scanner.next? ⟨[' ', 'a', '”', '走', '走'], .opened⟩ =
      some (.string ['a'], ⟨['走', '走'], .closing⟩) := by
    decide +kernel
  have hpass := Scanner.Passes.step hquote (.step hstring (.refl _))
  have hcomment : IsLayout (commentMark :: (['”'] ++ '\n' :: [])) := .comment (by decide) .nil
  have hlayout : IsLayout " #”\n".toList := .blank (c := ' ') (by decide) hcomment
  exact ⟨hpass, tokenize_insert_layout hpass rfl (fun _ _ _ _ => rfl) hlayout⟩

theorem tokenize_layout_append {w : String} (hw : IsLayout w.toList) (v : String) :
    tokenize (w ++ v) = tokenize v := by
  rw [tokenize_eq_tokensOf, tokenize_eq_tokensOf, Scanner.ofText, String.toList_append,
    Scanner.lexemes_layout hw]
  rfl

/-- **Texts on lines of their own.**  When the tokens of the first end as statements do, those of the
second follow them, or its error is the error of both. -/
theorem tokenize_append_newline {s t : String} {tokens : List Token} (h : tokenize s = .ok tokens)
    (hr : Rounded tokens) : tokenize (s ++ "\n" ++ t) = (tokenize t).map (tokens ++ ·) := by
  have hparted : Parted s.toList ("\n" ++ t).toList := .inr (.inr (by rw [String.toList_append]; rfl))
  have hbreak : IsLayout "\n".toList := .blank (c := '\n') (by decide) .nil
  have hline : tokenize ("\n" ++ t) = tokenize t := tokenize_layout_append hbreak t
  rw [String.append_assoc, tokenize_append hparted h hr, hline]

/-- A step before a comment that the line ends, and one on the next line: not the keyword `走走`. -/
theorem tokenize_append_newline_two_steps :
    tokenize "甲走# 注" = .ok [.identifier "甲", .keyword .incrementBy] ∧
      tokenize ("甲走# 注" ++ "\n" ++ "走。") =
        (tokenize "走。").map ([.identifier "甲", .keyword .incrementBy] ++ ·) := by
  have h : tokenize "甲走# 注" = .ok [.identifier "甲", .keyword .incrementBy] := by
    rw [tokenize_eq_tokensOf]
    decide +kernel
  have hr : Rounded [.identifier "甲", .keyword .incrementBy] :=
    rounded_append_cons [.identifier "甲"] (by decide) rounded_nil
  exact ⟨h, tokenize_append_newline h hr⟩

end Laoke
