import Laoke.Proofs.Scanning
import Mathlib

/-!
# The shape of a token stream

Not every list of tokens is the tokens of a text.  `Token.Fits before after` says
what a token is like, given the tokens right before and right after it, and
`Shaped` says it of every token of a list.

The proof follows the rules of scanning.  Between two keywords there is at most one
run of characters, which was read after the first of them; `Between` keeps track of
the run and of that keyword, and no rule breaks it.

* `Scans.shapedAfter`: what is scanned from such a place on has the shape.
* `shaped_of_tokenize`: so have the tokens of a whole text.
-/

namespace Laoke

/-! ### The shape -/

/-- A character that an identifier can hold: no layout, and no keyword by itself. -/
structure IsLetter (c : Char) : Prop where
  not_blank : Text.isBlank c = false
  not_comment : c ≠ commentMark
  not_keyword : ∀ k : Keyword, k.letters ≠ [c]

/-- An integer stands after no integer, no identifier and no opening quote. -/
structure IntegerFits (before : Option Token) (n : Int) : Prop where
  natural : Natural n
  not_integer : ∀ m, before ≠ some (.integer m)
  not_identifier : ∀ x, before ≠ some (.identifier x)
  not_quote : before ≠ some (.keyword .openQuote)

/-- An identifier stands after no identifier and no opening quote.  It starts like a numeral only
right after an integer, and with a digit only if that integer can be a Chinese one. -/
structure IdentifierFits (before : Option Token) (x : String) : Prop where
  ne_nil : x.toList ≠ []
  letters : ∀ c ∈ x.toList, IsLetter c
  not_identifier : ∀ y, before ≠ some (.identifier y)
  not_quote : before ≠ some (.keyword .openQuote)
  numeral : ∀ c ∈ x.toList.head?, c.isDigit = true ∨ (chineseDigit? c).isSome = true →
    ∃ n, before = some (.integer n) ∧ (c.isDigit = true → n ≤ 10)

/-- A string stands right after an opening quote, and before a closing one or at the end.  It starts
with something that neither layout nor a keyword takes away, and holds no closing quote. -/
structure StringFits (before after : Option Token) (s : String) : Prop where
  bare : Bare s.toList
  not_closed : closingMark ∉ s.toList
  opened : before = some (.keyword .openQuote)
  closed : after = none ∨ after = some (.keyword .closeQuote)

/-- A token that can stand between its neighbours. -/
def Token.Fits (before after : Option Token) : Token → Prop
  | .keyword _ => True
  | .integer n => IntegerFits before n
  | .identifier x => IdentifierFits before x
  | .string s => StringFits before after s

/-- Tokens that all stand where they can. -/
def Shaped (tokens : List Token) : Prop :=
  ∀ front t back, tokens = front ++ t :: back → t.Fits front.getLast? back.head?

/-- The same from the first token on, given the token before it. -/
def ShapedAfter : Option Token → List Token → Prop
  | _, [] => True
  | before, t :: tokens => t.Fits before tokens.head? ∧ ShapedAfter (some t) tokens

theorem ShapedAfter.fits {before : Option Token} {front back : List Token} {t : Token}
    (h : ShapedAfter before (front ++ t :: back)) :
    t.Fits (front.getLast?.or before) back.head? := by
  induction front generalizing before with
  | nil => exact h.1
  | cons u front ih =>
    have hfits := ih h.2
    cases front with
    | nil => exact hfits
    | cons v front =>
      rw [List.getLast?_cons_cons]
      rw [List.getLast?_cons] at hfits ⊢
      exact hfits

theorem ShapedAfter.shaped {tokens : List Token} (h : ShapedAfter none tokens) : Shaped tokens := by
  rintro front t back rfl
  simpa using h.fits

/-! ### Runs of characters -/

/-- A boundary of a run: the start of the text, or a keyword. -/
def AtBoundary (before : Option Token) : Prop :=
  ∀ t ∈ before, ∃ k, t = .keyword k

theorem AtBoundary.not_integer {before : Option Token} (h : AtBoundary before) (n : Int) :
    before ≠ some (.integer n) := by
  rintro rfl
  obtain ⟨k, hk⟩ := h _ rfl
  cases hk

theorem AtBoundary.not_identifier {before : Option Token} (h : AtBoundary before) (x : String) :
    before ≠ some (.identifier x) := by
  rintro rfl
  obtain ⟨k, hk⟩ := h _ rfl
  cases hk

theorem suffix_of_leadingNumeral {cs rest : List Char} {value? : Option Int}
    (h : leadingNumeral cs = .ok (value?, rest)) : rest <:+ cs := by
  rcases leadingNumeral_cases h with ⟨_, _, -, -, -, rfl⟩ | ⟨_, _, rfl, -, -⟩ | ⟨-, rfl, -⟩
  · exact List.dropWhile_suffix _
  · exact List.suffix_cons _ _
  · exact List.suffix_refl _

/-- After a numeral there is a digit only if the numeral is a Chinese one. -/
theorem le_ten_of_leadingNumeral {cs rest : List Char} {n : Int}
    (h : leadingNumeral cs = .ok (some n, rest)) :
    ∀ c ∈ rest.head?, c.isDigit = true → n ≤ 10 := by
  intro c hc hdigit
  rcases leadingNumeral_cases h with ⟨_, _, -, -, -, rfl⟩ | ⟨_, m, -, hm, hn⟩ | ⟨hn, -⟩
  · have hnot := List.head?_dropWhile_not Char.isDigit cs
    rw [Option.mem_def.1 hc] at hnot
    exact absurd (hdigit.symm.trans hnot) (by decide)
  · cases hn
    have := chineseDigit?_le hm
    omega
  · cases hn

/-- Without a leading numeral the whole run is left. -/
theorem head_of_leadingNumeral {cs rest : List Char} (h : leadingNumeral cs = .ok (none, rest)) :
    rest = cs ∧ ∀ c ∈ rest.head?, c.isDigit = false ∧ chineseDigit? c = none := by
  rcases leadingNumeral_cases h with ⟨_, _, -, -, hn, -⟩ | ⟨_, _, -, -, hn⟩ | ⟨-, rfl, hhead⟩
  · cases hn
  · cases hn
  · exact ⟨rfl, hhead⟩

/-- What is left of a run is one identifier, if it is anything. -/
theorem shapedAfter_word {word : List Char} {rest : List Token} {before : Option Token}
    (hword : word ≠ [] → IdentifierFits before (String.ofList word))
    (hrest : ∀ before, ShapedAfter before rest) :
    ShapedAfter before ((if word.isEmpty then [] else [.identifier (String.ofList word)]) ++ rest) := by
  by_cases hempty : word.isEmpty = true
  · rw [if_pos hempty]
    exact hrest before
  · rw [if_neg hempty]
    exact ⟨hword (by simpa using hempty), hrest _⟩

/-- **The tokens of a run fit** after a boundary, which is no opening quote if there is a run. -/
theorem shapedAfter_run {run : List Char} {tokens rest : List Token} {before : Option Token}
    (h : runTokens run = .ok tokens) (hl : ∀ c ∈ run, IsLetter c) (hb : AtBoundary before)
    (hq : run ≠ [] → before ≠ some (.keyword .openQuote))
    (hrest : ∀ before, ShapedAfter before rest) : ShapedAfter before (tokens ++ rest) := by
  unfold runTokens at h
  split at h
  · cases h
  · rename_i value? word hn
    cases h
    have hletters : ∀ c ∈ (String.ofList word).toList, IsLetter c := by
      rw [String.toList_ofList]
      exact fun c hc => hl c ((suffix_of_leadingNumeral hn).subset hc)
    cases value? with
    | none =>
      obtain ⟨rfl, hhead⟩ := head_of_leadingNumeral hn
      refine shapedAfter_word (fun hne => ?_) hrest
      refine ⟨by simpa using hne, hletters, hb.not_identifier, hq hne, ?_⟩
      rw [String.toList_ofList]
      intro c hc hnumeral
      obtain ⟨hdigit, hchinese⟩ := hhead c hc
      rw [hdigit, hchinese] at hnumeral
      exact absurd hnumeral (by decide)
    | some n =>
      have hrun : run ≠ [] := by
        rintro rfl
        cases hn
      refine ⟨⟨natural_of_leadingNumeral hn, hb.not_integer, hb.not_identifier, hq hrun⟩, ?_⟩
      refine shapedAfter_word (fun hne => ?_) hrest
      refine ⟨by simpa using hne, hletters, by simp, by simp, fun c hc _ => ⟨n, rfl, ?_⟩⟩
      rw [String.toList_ofList] at hc
      exact le_ten_of_leadingNumeral hn c hc

/-! ### Along the rules -/

theorem isLetter_of_bare {c : Char} {cs : List Char} (h : Bare (c :: cs)) : IsLetter c where
  not_blank := (h.not_layout c rfl).1
  not_comment := (h.not_layout c rfl).2
  not_keyword := by
    intro k hk
    refine h.not_keyword k ?_
    rw [hk]
    exact ⟨cs, rfl⟩

/-- The text of a string starts like all that follows its opening quote. -/
theorem Bare.of_append_closingMark {text cs : List Char} (h : Bare (text ++ closingMark :: cs)) :
    Bare text := by
  cases text with
  | nil => exact absurd ⟨cs, rfl⟩ (h.not_keyword .closeQuote)
  | cons c text =>
    exact ⟨List.cons_ne_nil _ _, h.not_layout, fun k hk => h.not_keyword k (hk.trans ⟨_, rfl⟩)⟩

/-- A place between two keywords: the lexeme before it, the characters read since the last keyword,
and that keyword. -/
structure Between (last : Option Lexeme) (run : List Char) (before : Option Token) : Prop where
  letters : ∀ c ∈ run, IsLetter c
  boundary : AtBoundary before
  quote : before = some (.keyword .openQuote) ↔ last = some (.keyword .openQuote)
  fresh : last = some (.keyword .openQuote) → run = []

namespace Between

theorem start : Between none [] none :=
  ⟨by simp, by simp [AtBoundary], by simp, fun _ => rfl⟩

theorem keyword (k : Keyword) : Between (some (.keyword k)) [] (some (.keyword k)) :=
  ⟨by simp, by simp [AtBoundary], by simp, fun _ => rfl⟩

theorem char {last : Option Lexeme} {run : List Char} {before : Option Token} {c : Char}
    (h : Between last run before) (hlast : last ≠ some (.keyword .openQuote)) (hc : IsLetter c) :
    Between (some (.char c)) (run ++ [c]) before where
  letters := List.forall_mem_append.2 ⟨h.letters, by simpa using hc⟩
  boundary := h.boundary
  quote := by simpa using fun hb => hlast (h.quote.1 hb)
  fresh := by simp

theorem not_quote {last : Option Lexeme} {run : List Char} {before : Option Token}
    (h : Between last run before) (hrun : run ≠ []) : before ≠ some (.keyword .openQuote) :=
  fun hb => hrun (h.fresh (h.quote.1 hb))

end Between

/-- **What is scanned from a place between two keywords on has the shape.** -/
theorem Scans.shapedAfter {last : Option Lexeme} {cs : List Char} {lexemes : List Lexeme}
    (h : Scans last cs lexemes) {run : List Char} {before : Option Token} {tokens : List Token}
    (hp : Between last run before) (ht : tokensOf run lexemes = .ok tokens) :
    ShapedAfter before tokens := by
  induction h generalizing run before tokens with
  | done =>
    rw [← List.append_nil tokens]
    exact shapedAfter_run ht hp.letters hp.boundary hp.not_quote fun _ => trivial
  | blank _ _ ih => exact ih hp ht
  | comment _ _ _ ih => exact ih hp ht
  | @keyword _ k _ _ _ _ ih =>
    obtain ⟨front, more, hf, hm, rfl⟩ := exists_of_closeRun ht
    have hmore := ih (Between.keyword k) hm
    exact shapedAfter_run hf hp.letters hp.boundary hp.not_quote fun _ => ⟨trivial, hmore⟩
  | @string text _ _ hb htext _ ih =>
    obtain rfl := hp.fresh rfl
    obtain ⟨front, more, hf, hm, rfl⟩ := exists_of_closeRun ht
    obtain ⟨front', more', hf', hm', rfl⟩ := exists_of_closeRun hm
    cases hf
    cases hf'
    refine ⟨⟨?_, ?_, hp.quote.2 rfl, .inr rfl⟩, trivial, ih (Between.keyword .closeQuote) hm'⟩
    · rw [String.toList_ofList]
      exact hb.of_append_closingMark
    · rwa [String.toList_ofList]
  | @unclosed text hb htext =>
    obtain rfl := hp.fresh rfl
    obtain ⟨front, more, hf, hm, rfl⟩ := exists_of_closeRun ht
    cases hf
    cases hm
    refine ⟨⟨?_, ?_, hp.quote.2 rfl, .inl rfl⟩, trivial⟩
    · rwa [String.toList_ofList]
    · rwa [String.toList_ofList]
  | char hlast hb _ ih => exact ih (hp.char hlast (isLetter_of_bare hb)) ht

/-- **The tokens of a text have the shape.** -/
theorem shaped_of_tokenize {source : String} {tokens : List Token}
    (h : tokenize source = .ok tokens) : Shaped tokens := by
  have hscan : Scans none source.toList (Scanner.ofText source).lexemes :=
    scans_iff_lexemes.2 rfl
  exact (hscan.shapedAfter Between.start (tokenize_eq_tokensOf source ▸ h)).shaped

/-- A digit after a Chinese ten, and a string that is never closed. -/
theorem shaped_of_tokenize_unclosed :
    tokenize "十5老 张装 007。唠唠：“你 好”“# 注\na" =
        .ok [.integer 10, .identifier "5老张", .keyword .become, .integer 7, .keyword .period,
          .keyword .say, .keyword .colon, .keyword .openQuote, .string "你 好", .keyword .closeQuote,
          .keyword .openQuote, .string "a"] ∧
      Shaped [.integer 10, .identifier "5老张", .keyword .become, .integer 7, .keyword .period,
          .keyword .say, .keyword .colon, .keyword .openQuote, .string "你 好", .keyword .closeQuote,
          .keyword .openQuote, .string "a"] := by
  have h : tokenize "十5老 张装 007。唠唠：“你 好”“# 注\na" =
      .ok [.integer 10, .identifier "5老张", .keyword .become, .integer 7, .keyword .period,
        .keyword .say, .keyword .colon, .keyword .openQuote, .string "你 好", .keyword .closeQuote,
        .keyword .openQuote, .string "a"] := by
    rw [tokenize_eq_tokensOf]
    cbv
  exact ⟨h, shaped_of_tokenize h⟩

end Laoke
