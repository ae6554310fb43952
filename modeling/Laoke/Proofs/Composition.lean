import Laoke.Proofs.Simulation
import Laoke.Proofs.Succession

/-!
# Texts one after the other

A text that is a program, up to the end of a line, is read the same whatever
follows it: no keyword runs over the end of a line, and no comment goes on.

* `Scanner.lexemes_append`, `tokenize_append`: the lexemes and the tokens of the
  first text come first, then those of the second.
* `program_append`: so do the statements.
* `Plan.precedes_of_runAll`, `run_append`: and what is said only gets longer.
-/

namespace Laoke

/-! ### Layout -/

/-- Whether two texts meet at the end of a line. -/
def Parted (u v : List Char) : Prop :=
  u = [] ∨ u.getLast? = some '\n' ∨ v.head? = some '\n'

theorem Parted.of_suffix {u u' v : List Char} (h : Parted u v) (hs : u' <:+ u) : Parted u' v := by
  obtain ⟨front, rfl⟩ := hs
  by_cases hu : u' = []
  · exact .inl hu
  · rcases h with h | h | h
    · exact .inl (List.append_eq_nil_iff.1 h).2
    · exact .inr (.inl (by rwa [List.getLast?_append_of_ne_nil _ hu] at h))
    · exact .inr (.inr h)

theorem skipLayoutFrom_suffix (inComment : Bool) (cs : List Char) :
    skipLayoutFrom inComment cs <:+ cs := by
  induction cs generalizing inComment with
  | nil => cases inComment <;> exact List.suffix_refl _
  | cons c cs ih =>
    cases inComment with
    | true => exact (ih _).trans (List.suffix_cons _ _)
    | false =>
      unfold skipLayoutFrom
      split_ifs
      · exact (ih _).trans (List.suffix_cons _ _)
      · exact (ih _).trans (List.suffix_cons _ _)
      · exact List.suffix_refl _

theorem skipLayoutFrom_append {inComment : Bool} {u : List Char} (h : skipLayoutFrom inComment u ≠ [])
    (v : List Char) : skipLayoutFrom inComment (u ++ v) = skipLayoutFrom inComment u ++ v := by
  induction u generalizing inComment with
  | nil => cases inComment <;> exact absurd rfl h
  | cons c u ih =>
    cases inComment with
    | true => exact ih h
    | false =>
      rw [List.cons_append]
      unfold skipLayoutFrom at h ⊢
      split_ifs at h ⊢
      · exact ih h
      · exact ih h
      · rfl

/-- Layout that ends with its line leaves what follows as it is. -/
theorem skipLayoutFrom_append_of_nil {inComment : Bool} {u v : List Char}
    (h : skipLayoutFrom inComment u = [])
    (hp : (u = [] ∧ inComment = false) ∨ u.getLast? = some '\n' ∨ v.head? = some '\n') :
    skipLayoutFrom inComment (u ++ v) = skipLayout v := by
  induction u generalizing inComment with
  | nil =>
    rcases hp with ⟨-, rfl⟩ | hp | hp
    · rfl
    · simp at hp
    · obtain ⟨v, rfl⟩ := List.head?_eq_some_iff.1 hp
      cases inComment <;> rfl
  | cons c u ih =>
    -- What is left of the line ends it, or is nothing at all once the line is over.
    have hrest (b : Bool) (hb : c = '\n' → b = false) :
        (u = [] ∧ b = false) ∨ u.getLast? = some '\n' ∨ v.head? = some '\n' := by
      rcases hp with ⟨hp, -⟩ | hp | hp
      · simp at hp
      · cases u with
        | nil => exact .inl ⟨rfl, hb (by simpa using hp)⟩
        | cons d u => exact .inr (.inl (by simpa using hp))
      · exact .inr (.inr hp)
    cases inComment with
    | true => exact ih h (hrest _ (by rintro rfl; rfl))
    | false =>
      rw [List.cons_append]
      unfold skipLayoutFrom at h ⊢
      split_ifs at h ⊢ with hblank hmark
      · exact ih h (hrest _ fun _ => rfl)
      · refine ih h (hrest _ ?_)
        rintro rfl
        exact absurd hblank (by decide)

/-! ### Lexemes -/

theorem Keyword.newline_not_mem_letters (k : Keyword) : '\n' ∉ k.letters := by
  cases k <;> decide

/-- A keyword at the start of two texts ends in the first one, or runs over into the second. -/
theorem Keyword.ends_or_runsOver {k : Keyword} {u v : List Char} (h : k.letters <+: u ++ v) :
    k.letters <+: u ∨ ∃ c ∈ v.head?, ∃ more, k.letters = u ++ c :: more := by
  rcases List.prefix_or_prefix_of_prefix h (List.prefix_append u v) with h' | ⟨more, hmore⟩
  · exact .inl h'
  · cases more with
    | nil => exact .inl ⟨[], by rw [List.append_nil, ← hmore, List.append_nil]⟩
    | cons c more =>
      rw [← hmore] at h
      obtain ⟨tail, rfl⟩ := (List.prefix_append_right_inj u).1 h
      exact .inr ⟨c, rfl, more, hmore.symm⟩

/-- Whether no keyword runs over from a text, or from the last part of it, into another. -/
def Severed (u v : List Char) : Prop :=
  ∀ u' : List Char, u' <:+ u → u' ≠ [] → ∀ k : Keyword, k.letters <+: u' ++ v → k.letters <+: u'

theorem Severed.of_suffix {u u' v : List Char} (h : Severed u v) (hs : u' <:+ u) : Severed u' v :=
  fun part hpart => h part (hpart.trans hs)

/-- A keyword that runs over would have the end of the line in it. -/
theorem Parted.severed {u v : List Char} (hp : Parted u v) : Severed u v := by
  intro u' hs hu k hk
  rcases Keyword.ends_or_runsOver hk with h | ⟨c, hc, more, hmore⟩
  · exact h
  · have hnot := k.newline_not_mem_letters
    rw [hmore] at hnot
    rcases hp.of_suffix hs with hp | hp | hp
    · exact absurd hp hu
    · exact absurd (List.mem_append_left _ (List.mem_of_getLast? hp)) hnot
    · obtain rfl : c = '\n' := Option.some.inj (hc.symm.trans hp)
      exact absurd (by simp) hnot

theorem Keyword.atStart?_append {u v : List Char} (hu : u ≠ []) (hv : Severed u v) :
    Keyword.atStart? (u ++ v) = Keyword.atStart? u := by
  have hsame (k : Keyword) : k.letters.isPrefixOf (u ++ v) = k.letters.isPrefixOf u := by
    rw [Bool.eq_iff_iff, List.isPrefixOf_iff_prefix, List.isPrefixOf_iff_prefix]
    exact ⟨hv u (List.suffix_refl u) hu k, fun h => h.trans (List.prefix_append u v)⟩
  unfold Keyword.atStart?
  simp only [hsame]

namespace Scanner

/-- A lexeme that does not go on with the text after it. -/
def Ended (lexeme : Lexeme) (s : Scanner) : Prop :=
  ∀ text, lexeme = .string text → s.mode = .closing

theorem takeWhile_dropWhile_append {p : Char → Bool} {u rest : List Char} {mark : Char}
    (h : u.dropWhile p = mark :: rest) (v : List Char) :
    (u ++ v).takeWhile p = u.takeWhile p ∧ (u ++ v).dropWhile p = mark :: (rest ++ v) := by
  constructor
  · have hlength := congrArg List.length (List.takeWhile_append_dropWhile (p := p) (l := u))
    rw [h, List.length_append, List.length_cons] at hlength
    rw [List.takeWhile_append, if_neg (by omega)]
  · rw [List.dropWhile_append, h]
    rfl

theorem lexemeAt?_append {afterQuote : Bool} {u v : List Char} {lexeme : Lexeme} {s : Scanner}
    (hv : Severed u v) (h : lexemeAt? afterQuote u = some (lexeme, s)) (he : Ended lexeme s) :
    lexemeAt? afterQuote (u ++ v) = some (lexeme, ⟨s.rest ++ v, s.mode⟩) ∧ s.rest <:+ u := by
  cases u with
  | nil => simp [lexemeAt?] at h
  | cons c u =>
    have hstart := Keyword.atStart?_append (List.cons_ne_nil c u) hv
    rw [List.cons_append] at hstart ⊢
    simp only [lexemeAt?] at h ⊢
    rw [hstart]
    cases hk : Keyword.atStart? (c :: u) with
    | some k =>
      rw [hk] at h
      cases h
      have hle : k.letters.length ≤ (c :: u).length := by
        have hfind := List.find?_some hk
        exact (List.isPrefixOf_iff_prefix.1 hfind).length_le
      refine ⟨?_, List.drop_suffix _ _⟩
      dsimp only
      rw [← List.cons_append, List.drop_append_of_le_length hle]
    | none =>
      rw [hk] at h
      dsimp only at h ⊢
      split_ifs at h ⊢ with hq
      · -- The closing mark stands in the first text, or the string would go on.
        split at h
        · cases h
          exact absurd (he _ rfl) (by simp)
        · rename_i mark rest hdrop
          cases h
          obtain ⟨htake, hdrop'⟩ := takeWhile_dropWhile_append hdrop v
          rw [List.cons_append] at htake hdrop'
          rw [hdrop', htake]
          refine ⟨rfl, ?_⟩
          have hsuffix := List.dropWhile_suffix (l := c :: u) (· != closingMark)
          rw [hdrop] at hsuffix
          exact (List.suffix_cons _ _).trans hsuffix
      · cases h
        exact ⟨rfl, List.suffix_cons _ _⟩

/-- **A lexeme is read the same when more text follows**, if no keyword runs over into that. -/
theorem next?_append {s t : Scanner} {v : List Char} {lexeme : Lexeme} (hv : Severed s.rest v)
    (h : s.next? = some (lexeme, t)) (he : Ended lexeme t) :
    next? ⟨s.rest ++ v, s.mode⟩ = some (lexeme, ⟨t.rest ++ v, t.mode⟩) ∧ t.rest <:+ s.rest := by
  have hlayout : ∀ {afterQuote}, lexemeAt? afterQuote (skipLayout s.rest) = some (lexeme, t) →
      lexemeAt? afterQuote (skipLayout (s.rest ++ v)) = some (lexeme, ⟨t.rest ++ v, t.mode⟩) ∧
        t.rest <:+ s.rest := by
    intro afterQuote hat
    have hne : skipLayout s.rest ≠ [] := by
      intro hnil
      rw [hnil] at hat
      simp [lexemeAt?] at hat
    have hsuffix : skipLayout s.rest <:+ s.rest := skipLayoutFrom_suffix false s.rest
    obtain ⟨happend, hrest⟩ := lexemeAt?_append (hv.of_suffix hsuffix) hat he
    exact ⟨by rw [skipLayout, skipLayoutFrom_append hne]; exact happend, hrest.trans hsuffix⟩
  unfold next? at h ⊢
  cases hm : s.mode with
  | closing =>
    rw [hm] at h
    cases h
    exact ⟨rfl, List.suffix_refl _⟩
  | opened =>
    rw [hm] at h
    exact hlayout h
  | plain =>
    rw [hm] at h
    exact hlayout h

/-- Whether some lexemes, read in a given mode, have come to an end: nothing is open, and the last
one is no single character. -/
structure Settled (mode : ScanMode) (lexemes : List Lexeme) : Prop where
  mode : lexemes = [] → mode = .plain
  last : ∀ lexeme ∈ lexemes.getLast?, ∃ k, lexeme = .keyword k ∧ k ≠ .openQuote

/-- Where a lexeme leaves the scanner. -/
def Leaves (t : Scanner) : Lexeme → Prop
  | .keyword k => t.mode = if k = .openQuote then .opened else .plain
  | .string _ => t.mode = .closing ∨ t = ⟨[], .plain⟩
  | .char _ => t.mode = .plain

theorem leaves_of_lexemeAt? {afterQuote : Bool} {cs : List Char} {lexeme : Lexeme} {t : Scanner}
    (h : lexemeAt? afterQuote cs = some (lexeme, t)) : Leaves t lexeme := by
  cases cs with
  | nil => simp [lexemeAt?] at h
  | cons c cs =>
    simp only [lexemeAt?] at h
    split at h
    · cases h
      exact rfl
    · split_ifs at h
      · split at h
        · cases h
          exact .inr rfl
        · cases h
          exact .inl rfl
      · cases h
        exact rfl

theorem leaves_of_next? {s t : Scanner} {lexeme : Lexeme} (h : s.next? = some (lexeme, t)) :
    Leaves t lexeme := by
  unfold next? at h
  split at h
  · cases h
    exact rfl
  · exact leaves_of_lexemeAt? h
  · exact leaves_of_lexemeAt? h

theorem ended_of_next? {s t : Scanner} {lexeme : Lexeme} (h : s.next? = some (lexeme, t))
    (hs : Settled s.mode (lexeme :: t.lexemes)) : Ended lexeme t := by
  rintro text rfl
  rcases leaves_of_next? h with hend | rfl
  · exact hend
  · rw [lexemes_of_none rfl] at hs
    obtain ⟨k, hk, -⟩ := hs.last _ rfl
    cases hk

theorem Settled.tail {s t : Scanner} {lexeme : Lexeme} (h : s.next? = some (lexeme, t))
    (hs : Settled s.mode (lexeme :: t.lexemes)) : Settled t.mode t.lexemes := by
  constructor
  · intro hl
    rw [hl] at hs
    obtain ⟨k, rfl, hk⟩ := hs.last _ rfl
    exact (leaves_of_next? h).trans (if_neg hk)
  · intro last hlast
    exact hs.last last (List.mem_getLast?_cons hlast)

theorem lexemes_congr {s t : Scanner} (h : s.next? = t.next?) : s.lexemes = t.lexemes := by
  cases ht : t.next? with
  | none => rw [lexemes_of_none ht, lexemes_of_none (h.trans ht)]
  | some r => rw [lexemes_of_some ht, lexemes_of_some (h.trans ht)]

theorem next?_append_of_none {s : Scanner} {v : List Char} (hp : Parted s.rest v)
    (h : s.next? = none) (hm : s.mode = .plain) :
    next? ⟨s.rest ++ v, .plain⟩ = next? ⟨v, .plain⟩ := by
  have hnil : skipLayout s.rest = [] := by
    unfold next? at h
    rw [hm] at h
    dsimp only at h
    cases hskip : skipLayout s.rest with
    | nil => rfl
    | cons c cs =>
      rw [hskip] at h
      simp only [lexemeAt?] at h
      split at h
      · cases h
      · cases h
  unfold next?
  dsimp only
  rw [show skipLayout (s.rest ++ v) = skipLayout v from
    skipLayoutFrom_append_of_nil hnil (hp.imp_left fun hs => ⟨hs, rfl⟩)]

/-- **The lexemes of two texts are those of the first and then those of the second.** -/
theorem lexemes_append {s : Scanner} {v : List Char} (hp : Parted s.rest v)
    (hs : Settled s.mode s.lexemes) :
    lexemes ⟨s.rest ++ v, s.mode⟩ = s.lexemes ++ lexemes ⟨v, .plain⟩ := by
  induction hn : s.size using Nat.strongRecOn generalizing s with
  | _ n ih =>
    subst hn
    cases hnext : s.next? with
    | none =>
      rw [lexemes_of_none hnext] at hs ⊢
      have hm := hs.mode rfl
      rw [hm]
      exact lexemes_congr (next?_append_of_none hp hnext hm)
    | some r =>
      obtain ⟨lexeme, t⟩ := r
      rw [lexemes_of_some hnext] at hs ⊢
      obtain ⟨happend, hsuffix⟩ := next?_append hp.severed hnext (ended_of_next? hnext hs)
      rw [lexemes_of_some happend,
        ih t.size (size_lt_of_next? hnext) (hp.of_suffix hsuffix) (Settled.tail hnext hs) rfl]
      rfl

end Scanner

/-! ### Tokens -/

/-- Whether some tokens end as statements do, with a keyword that opens nothing. -/
def Rounded (tokens : List Token) : Prop :=
  ∀ t ∈ tokens.getLast?, ∃ k, t = .keyword k ∧ k ≠ .openQuote

theorem rounded_nil : Rounded [] := by simp [Rounded]

theorem Rounded.of_append_cons {front tokens : List Token} {b : Token}
    (h : Rounded (front ++ b :: tokens)) : Rounded tokens := by
  intro t ht
  refine h t ?_
  rw [List.getLast?_append, List.mem_getLast?_cons ht]
  rfl

theorem rounded_append_cons {k : Keyword} {rest : List Token} (front : List Token)
    (hk : k ≠ .openQuote) (h : Rounded rest) : Rounded (front ++ .keyword k :: rest) := by
  intro t ht
  rw [List.getLast?_append_of_ne_nil _ (List.cons_ne_nil _ _)] at ht
  cases rest with
  | nil => exact ⟨k, by simpa using ht.symm, hk⟩
  | cons u rest => exact h t (by rwa [List.getLast?_cons_cons] at ht)

theorem Spells.rounded {tokens : List Token} {p : List Statement} (h : Spells tokens p) :
    Rounded tokens := by
  have hperiod : Keyword.period ≠ .openQuote := by decide
  have hstep : Keyword.step ≠ .openQuote := by decide
  induction h with
  | nil => exact rounded_nil
  | say _ _ ih => exact rounded_append_cons (_ :: _ :: Expression.spelling _) hperiod ih
  | declare _ ih => exact rounded_append_cons [_, _] hperiod ih
  | assign _ _ ih => exact rounded_append_cons (_ :: _ :: Expression.spelling _) hperiod ih
  | increment _ ih => exact rounded_append_cons [_, _] hperiod ih
  | increase _ _ ih =>
    exact rounded_append_cons (_ :: _ :: Expression.spelling _) hstep
      (rounded_append_cons [] hperiod ih)
  | decrement _ ih => exact rounded_append_cons [_, _] hperiod ih
  | decrease _ _ ih =>
    exact rounded_append_cons (_ :: _ :: Expression.spelling _) hstep
      (rounded_append_cons [] hperiod ih)
  | loop _ _ _ _ _ ih =>
    refine rounded_append_cons (_ :: _ :: Expression.spelling _) (by decide) ?_
    refine rounded_append_cons _ (by decide) ?_
    exact rounded_append_cons _ (by decide) ih

theorem eq_of_leadingNumeral {cs rest : List Char} (h : leadingNumeral cs = .ok (none, rest)) :
    rest = cs := by
  rcases leadingNumeral_cases h with ⟨_, _, -, -, hn, -⟩ | ⟨_, _, -, -, hn⟩ | ⟨-, hrest, -⟩
  · cases hn
  · cases hn
  · exact hrest

theorem eq_nil_of_runTokens_nil {run : List Char} (h : runTokens run = .ok []) : run = [] := by
  unfold runTokens at h
  split at h
  · cases h
  · rename_i value? rest hn
    simp only [Except.ok.injEq, List.append_eq_nil_iff] at h
    cases value? with
    | some n => simp at h
    | none =>
      rw [← eq_of_leadingNumeral hn]
      simpa using h.2

/-- A run of characters ends with no keyword, so only the empty one is rounded. -/
theorem eq_nil_of_runTokens {run : List Char} {tokens : List Token} (h : runTokens run = .ok tokens)
    (hr : Rounded tokens) : run = [] := by
  obtain ⟨value?, name?, rfl, -⟩ := exists_of_runTokens h
  cases name? with
  | some x =>
    obtain ⟨k, hk, -⟩ := hr (.identifier x) (by simp)
    cases hk
  | none =>
    cases value? with
    | some n =>
      obtain ⟨k, hk, -⟩ := hr (.integer n) rfl
      cases hk
    | none => exact eq_nil_of_runTokens_nil h

theorem closeRun_append {run : List Char} {b : Token} {front more : List Token}
    {after : Except LexicalError (List Token)} (h : runTokens run = .ok front) :
    closeRun run b (after.map (more ++ ·)) = after.map ((front ++ b :: more) ++ ·) := by
  unfold closeRun
  rw [h]
  cases after with
  | error e => rfl
  | ok last => simp [Except.map]

/-- **The tokens of lexemes one after the other**, when the first tokens are rounded. -/
theorem tokensOf_append {run : List Char} {lexemes more : List Lexeme} {tokens : List Token}
    (h : tokensOf run lexemes = .ok tokens) (hr : Rounded tokens) :
    tokensOf run (lexemes ++ more) = (tokensOf [] more).map (tokens ++ ·) := by
  induction lexemes generalizing run tokens with
  | nil =>
    obtain rfl := eq_nil_of_runTokens h hr
    cases h
    rw [List.nil_append]
    cases tokensOf [] more <;> rfl
  | cons lexeme rest ih =>
    cases lexeme with
    | char c => exact ih h hr
    | keyword k =>
      obtain ⟨front, after, hfront, hafter, rfl⟩ := exists_of_closeRun h
      rw [List.cons_append, tokensOf, ih hafter hr.of_append_cons, closeRun_append hfront]
    | string text =>
      obtain ⟨front, after, hfront, hafter, rfl⟩ := exists_of_closeRun h
      rw [List.cons_append, tokensOf, ih hafter hr.of_append_cons, closeRun_append hfront]

/-- Tokens that are rounded come from lexemes that have come to an end. -/
theorem last_of_tokensOf {run : List Char} {lexemes : List Lexeme} {tokens : List Token}
    (h : tokensOf run lexemes = .ok tokens) (hr : Rounded tokens) :
    ∀ lexeme ∈ lexemes.getLast?, ∃ k, lexeme = .keyword k ∧ k ≠ .openQuote := by
  induction lexemes generalizing run tokens with
  | nil => exact fun lexeme hmem => nomatch hmem
  | cons lexeme rest ih =>
    intro last hlast
    cases rest with
    | cons next rest =>
      rw [List.getLast?_cons_cons] at hlast
      cases lexeme with
      | char c => exact ih h hr last hlast
      | keyword k =>
        obtain ⟨_, _, _, hafter, rfl⟩ := exists_of_closeRun h
        exact ih hafter hr.of_append_cons last hlast
      | string text =>
        obtain ⟨_, _, _, hafter, rfl⟩ := exists_of_closeRun h
        exact ih hafter hr.of_append_cons last hlast
    | nil =>
      cases hlast
      cases lexeme with
      | char c => exact absurd (eq_nil_of_runTokens h hr) (by simp)
      | keyword k =>
        obtain ⟨front, _, _, hafter, rfl⟩ := exists_of_closeRun h
        cases hafter
        obtain ⟨_, hk, hne⟩ := hr (.keyword k) (by simp)
        cases hk
        exact ⟨k, rfl, hne⟩
      | string text =>
        obtain ⟨front, _, _, hafter, rfl⟩ := exists_of_closeRun h
        cases hafter
        obtain ⟨_, hk, -⟩ := hr (.string (String.ofList text)) (by simp)
        cases hk

/-- **The tokens of two texts are those of the first and then those of the second**, when the first
ends its line as statements do. -/
theorem tokenize_append {u v : String} {tokens : List Token} (hp : Parted u.toList v.toList)
    (h : tokenize u = .ok tokens) (hr : Rounded tokens) :
    tokenize (u ++ v) = (tokenize v).map (tokens ++ ·) := by
  rw [tokenize_eq_tokensOf] at h ⊢
  rw [tokenize_eq_tokensOf v]
  unfold Scanner.ofText at h ⊢
  have hs : Scanner.Settled .plain (Scanner.lexemes ⟨u.toList, .plain⟩) :=
    ⟨fun _ => rfl, last_of_tokensOf h hr⟩
  rw [String.toList_append, Scanner.lexemes_append (s := ⟨u.toList, .plain⟩) hp hs]
  exact tokensOf_append h hr

/-! ### Statements -/

theorem Program.ofTokens_append {tokens more : List Token} {p whole : Program} (h : Spells tokens p)
    (hw : Program.ofTokens (tokens ++ more) = .ok whole) : ∃ q, whole = p ++ q := by
  rw [h.ofTokens_append more] at hw
  cases hq : Program.ofTokens more with
  | error e =>
    rw [hq] at hw
    cases hw
  | ok q =>
    rw [hq] at hw
    cases hw
    exact ⟨q, rfl⟩

/-- **A text that is a program begins every longer one**, when it ends its line. -/
theorem program_append {o : ScriptOptions} {u v : String} {c whole : Compiled}
    (hp : Parted u.toList v.toList) (hc : compile o u = .ok c) (hw : compile o (u ++ v) = .ok whole) :
    ∃ q, whole.program = c.program ++ q := by
  obtain ⟨htokens, -⟩ := compile_eq_ok hc
  obtain ⟨htokens', hprogram', -⟩ := compile_eq_ok hw
  have hspells := (wellmade_of_compile hc).spells
  rw [tokenize_append hp htokens hspells.rounded] at htokens'
  cases hv : tokenize v with
  | error e => simp [hv, Except.map] at htokens'
  | ok more =>
    rw [hv] at htokens'
    obtain hmore : c.tokens ++ more = whole.tokens := Except.ok.inj htokens'
    rw [← hmore] at hprogram'
    exact Program.ofTokens_append hspells hprogram'

/-! ### What was said -/

/-- A later scene: what was said before is still there. -/
def Scene.Precedes (σ τ : Scene) : Prop :=
  ∃ more, τ.said = σ.said ++ more

namespace Scene.Precedes

theorem refl (σ : Scene) : σ.Precedes σ := ⟨"", by simp⟩

theorem trans {ρ σ τ : Scene} (h : ρ.Precedes σ) (h' : σ.Precedes τ) : ρ.Precedes τ := by
  obtain ⟨first, hfirst⟩ := h
  obtain ⟨second, hsecond⟩ := h'
  exact ⟨first ++ second, by rw [hsecond, hfirst, String.append_assoc]⟩

theorem of_iterate {step : Int → Scene → Except Fault Scene}
    (hstep : ∀ i σ τ, step i σ = .ok τ → σ.Precedes τ) {n : Nat} {i : Int} {σ τ : Scene}
    (h : Scene.iterate step i n σ = .ok τ) : σ.Precedes τ := by
  induction n generalizing i σ with
  | zero =>
    cases h
    exact refl _
  | succ n ih =>
    obtain ⟨mid, hmid, h⟩ := except_bind_eq_ok.1 h
    exact (hstep i σ mid hmid).trans (ih h)

end Scene.Precedes

mutual

theorem Plan.precedes_of_run : ∀ (step : Plan) {σ τ : Scene}, step.run σ = .ok τ → σ.Precedes τ
  | .say none, _, _, h => nomatch h
  | .say (some f), σ, τ, h => by
    obtain ⟨v, -, hτ⟩ := except_bind_eq_ok.1 h
    cases hτ
    exact ⟨v.display ++ "\n", String.append_assoc ..⟩
  | .declare x, σ, τ, h => by
    cases h
    exact .refl σ
  | .assign x op f, σ, τ, h => by
    obtain ⟨v, -, hτ⟩ := except_bind_eq_ok.1 h
    cases hτ
    exact .refl σ
  | .loop x first bound body, σ, τ, h => by
    obtain ⟨start, stop, -, -, hrounds⟩ := Plan.run_loop_eq_ok h
    refine .of_iterate (fun i ρ τ hround => ?_) hrounds
    have hbody : (ρ.set x (.int i)).Precedes τ := Plan.precedes_of_runAll body hround
    exact hbody

/-- **Nothing that was said is taken back.** -/
theorem Plan.precedes_of_runAll : ∀ (plan : List Plan) {σ τ : Scene},
    Plan.runAll plan σ = .ok τ → σ.Precedes τ
  | [], σ, τ, h => by
    cases h
    exact .refl σ
  | step :: plan, σ, τ, h => by
    obtain ⟨mid, hmid, h⟩ := except_bind_eq_ok.1 h
    exact (Plan.precedes_of_run step hmid).trans (Plan.precedes_of_runAll plan h)

end

theorem Plan.output_append {plan more : List Plan} {out out' : String}
    (h : Plan.output plan = .ok out) (h' : Plan.output (plan ++ more) = .ok out') :
    ∃ rest, out' = out ++ rest := by
  obtain ⟨τ, hτ, hout⟩ := exists_of_output h
  obtain ⟨τ', hτ', hout'⟩ := exists_of_output h'
  rw [Plan.runAll_append, hτ] at hτ'
  obtain ⟨rest, hrest⟩ := Plan.precedes_of_runAll more hτ'
  exact ⟨rest, by rw [← hout', ← hout, hrest]⟩

theorem Reads.of_append {p q : List Statement} {plan : List Plan} (h : Reads (p ++ q) plan) :
    ∃ first second, plan = first ++ second ∧ Reads p first := by
  induction p generalizing plan with
  | nil => exact ⟨[], plan, rfl, .nil⟩
  | cons s p ih =>
    obtain ⟨step, rest, hstep, hrest, rfl⟩ := reads_cons_iff.1 h
    obtain ⟨first, second, rfl, hfirst⟩ := ih hrest
    exact ⟨step :: first, second, rfl, reads_cons_iff.2 ⟨step, first, hstep, hfirst, rfl⟩⟩

/-- **A text says first what any beginning of it says**, when that ends its line and runs. -/
theorem run_append {o : ScriptOptions} (ho : o.Valid) {u v out out' : String}
    (hp : Parted u.toList v.toList) (h : run o u = .ok out) (h' : run o (u ++ v) = .ok out') :
    ∃ rest, out' = out ++ rest := by
  obtain ⟨c, _, hc, -, -⟩ := exists_reads_of_run ho h
  obtain ⟨whole, plan, hw, hplan, hout'⟩ := exists_reads_of_run ho h'
  obtain ⟨q, hq⟩ := program_append hp hc hw
  rw [hq] at hplan
  obtain ⟨first, second, rfl, hfirst⟩ := hplan.of_append
  have hout : Plan.output first = .ok out := by
    rw [run_of_reads ho hc hfirst] at h
    cases hrun : Plan.output first with
    | error fault => simp [hrun, Except.mapError] at h
    | ok text => simpa [hrun, Except.mapError] using h
  exact Plan.output_append hout hout'

end Laoke
