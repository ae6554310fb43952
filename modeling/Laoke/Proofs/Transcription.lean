import Laoke.Proofs.Shape
import Laoke.Proofs.Spacing
import Laoke.Proofs.Streaming

/-!
# Tokens written down and read back

Tokens that have the shape of a token stream are the tokens of a text, and this
file writes the text.  Neighbours have a blank between them, the characters of an
identifier too, and small integers are written with a Chinese digit, so that no
numeral goes on with the digits after it.  Only a string and its closing quote
stand side by side.  Two may be written in two ways, so `writings` lists all the
texts.

Reading such a text back leaves a run of characters open at times: an integer is
not finished before it is known what follows it.  `Pending` says where reading
stands after a token, and what is read of the tokens so far.

* `runTokens_numeral`: an integer and the identifier after it share one run.
* `readsBack_keyword`, `readsBack_integer`, `readsBack_identifier`,
  `readsBack_string`: one more token in front.
* `tokenize_of_mem_writings`: every text that writes shaped tokens down is read back
  as these tokens.
-/

namespace Laoke

/-! ### Writing -/

/-- The Chinese digits that stand for a number. -/
def digitsFor (n : Int) : List Char :=
  (chineseDigits.filter fun d => d.2 = n).map Prod.fst

/-- All ways to write a token. -/
def Token.writings : Token → List (List Char)
  | .keyword k => [k.letters]
  | .integer n => if n ≤ 10 then (digitsFor n).map fun c => [c] else [n.repr.toList]
  | .identifier x => [x.toList.intersperse ' ']
  | .string s => [s.toList]

/-- What stands between a token and those after it: a blank, but nothing between a string and its
closing quote. -/
def gap (t : Token) : List Token → List Char
  | [] => []
  | u :: _ => if t.kind = .string ∧ u = .keyword .closeQuote then [] else [' ']

/-- All ways to write some tokens. -/
def writings : List Token → List (List Char)
  | [] => [[]]
  | t :: rest =>
    t.writings.flatMap fun cs => (writings rest).map fun more => cs ++ (gap t rest ++ more)

theorem mem_writings_cons {t : Token} {rest : List Token} {text : List Char} :
    text ∈ writings (t :: rest) ↔
      ∃ cs ∈ t.writings, ∃ more ∈ writings rest, text = cs ++ (gap t rest ++ more) := by
  simp only [writings, List.mem_flatMap, List.mem_map, eq_comm]

theorem isLayout_gap (t : Token) (rest : List Token) : IsLayout (gap t rest) := by
  have hspace : IsLayout [' '] := .blank (by decide) .nil
  cases rest with
  | nil => exact .nil
  | cons u rest =>
    rw [gap]
    split_ifs
    · exact .nil
    · exact hspace

/-- Whatever follows a token starts with a blank, unless the token is a string. -/
theorem onLayout_gap_append {t : Token} {rest : List Token} {more : List Char}
    (ht : t.kind ≠ .string) (hmore : more ∈ writings rest) : OnLayout (gap t rest ++ more) := by
  cases rest with
  | nil =>
    obtain rfl : more = [] := List.mem_singleton.1 hmore
    intro c hc
    cases hc
  | cons u rest =>
    rw [gap, if_neg fun h => ht h.1]
    rintro _ ⟨⟩
    exact .inl (by decide)

/-! ### Numerals -/

theorem mem_digitsFor {n : Int} {c : Char} (h : c ∈ digitsFor n) :
    c.isDigit = false ∧ ∃ m : Nat, chineseDigit? c = some m ∧ (m : Int) = n := by
  have hall : ∀ d ∈ chineseDigits, d.1.isDigit = false ∧ chineseDigit? d.1 = some d.2 := by decide
  obtain ⟨d, hd, rfl⟩ := List.mem_map.1 h
  obtain ⟨hmem, hvalue⟩ := List.mem_filter.1 hd
  obtain ⟨hdigit, hchinese⟩ := hall d hmem
  exact ⟨hdigit, d.2, hchinese, of_decide_eq_true hvalue⟩

/-- There is a Chinese digit for every small number. -/
theorem digitsFor_ne_nil {n : Int} (hlow : 0 ≤ n) (hhigh : n ≤ 10) : digitsFor n ≠ [] := by
  have hall : ∀ m ≤ 10, digitsFor (m : Nat) ≠ [] := by decide
  obtain ⟨m, rfl⟩ := Int.eq_ofNat_of_zero_le hlow
  exact hall m (by omega)

theorem runTokens_of_split {run word : List Char} {value? : Option Nat}
    (hlarge : tooLarge? run = none) (hsplit : splitNumeral run = (value?, word)) :
    runTokens run = .ok ((value?.map fun n => Token.integer n).toList ++
      if word = [] then [] else [.identifier (String.ofList word)]) := by
  rw [runTokens_eq, hlarge]
  simp only [wordTokens, hsplit]

/-- A run that opens with no numeral is an identifier. -/
theorem runTokens_word {word : List Char} (hne : word ≠ [])
    (h : ∀ c ∈ word.head?, c.isDigit = false ∧ chineseDigit? c = none) :
    runTokens word = .ok [.identifier (String.ofList word)] := by
  obtain ⟨hdigits, hlarge⟩ := tooLarge?_of_not_digit fun c hc => (h c hc).1
  have hchinese : word.head?.bind chineseDigit? = none := by
    cases word with
    | nil => rfl
    | cons c word => exact (h c rfl).2
  have hsplit : splitNumeral word = (none, word) := by
    rw [splitNumeral, if_neg (not_not.2 hdigits), hchinese]
  rw [runTokens_of_split hlarge hsplit, if_neg hne]
  rfl

/-- **An integer and what follows it share one run**, and are told apart again: digits follow only a
Chinese digit. -/
theorem runTokens_numeral {n : Int} {cs : List Char} (hn : Natural n)
    (hcs : cs ∈ (Token.integer n).writings) (word : List Char)
    (hword : ∀ c ∈ word.head?, c.isDigit = true → n ≤ 10) :
    runTokens (cs ++ word) =
      .ok (.integer n :: if word = [] then [] else [.identifier (String.ofList word)]) := by
  simp only [Token.writings] at hcs
  split_ifs at hcs with hsmall
  · obtain ⟨c, hc, rfl⟩ := List.mem_map.1 hcs
    obtain ⟨hdigit, m, hm, rfl⟩ := mem_digitsFor hc
    have hhead : ∀ d ∈ ([c] ++ word).head?, d.isDigit = false := by
      rintro _ ⟨⟩
      exact hdigit
    obtain ⟨hdigits, hlarge⟩ := tooLarge?_of_not_digit hhead
    have hsplit : splitNumeral ([c] ++ word) = (some m, word) := by
      rw [splitNumeral, if_neg (not_not.2 hdigits)]
      simp [hm]
    rw [runTokens_of_split hlarge hsplit]
    rfl
  · obtain rfl := List.mem_singleton.1 hcs
    rw [Script.toList_repr_of_natural hn]
    have hall : ∀ c ∈ Nat.toDigits 10 n.toNat, c.isDigit = true :=
      fun c hc => Nat.isDigit_of_mem_toDigits (by decide) (by decide) hc
    have hstop : ∀ c ∈ word.head?, c.isDigit = false := by
      intro c hc
      rw [← Bool.not_eq_true]
      exact fun hdigit => hsmall (hword c hc hdigit)
    obtain ⟨htake, hdrop⟩ := Script.takeWhile_append_of_head hall hstop
    have hvalue : decimalValue (Nat.toDigits 10 n.toNat) = n.toNat := Nat.ofDigitChars_ten_toDigits
    have hlarge : tooLarge? (Nat.toDigits 10 n.toNat ++ word) = none := by
      rw [tooLarge?, leadingDigits, htake, hvalue, Int.toNat_of_nonneg hn.1,
        if_neg (Int.not_lt.2 hn.2)]
    have hsplit : splitNumeral (Nat.toDigits 10 n.toNat ++ word) = (some n.toNat, word) := by
      rw [splitNumeral, leadingDigits, htake, hvalue, hdrop, if_pos Nat.toDigits_ne_nil]
    rw [runTokens_of_split hlarge hsplit]
    simp [Int.toNat_of_nonneg hn.1]

/-! ### Lexemes of what is written -/

/-- A character of a numeral. -/
def IsNumeral (c : Char) : Prop :=
  c.isDigit = true ∨ (chineseDigit? c).isSome = true

theorem isNumeral_of_mem_writings {n : Int} {cs : List Char} (hn : Natural n)
    (hcs : cs ∈ (Token.integer n).writings) : ∀ c ∈ cs, IsNumeral c := by
  intro c hc
  simp only [Token.writings] at hcs
  split_ifs at hcs with hsmall
  · obtain ⟨d, hd, rfl⟩ := List.mem_map.1 hcs
    obtain rfl := List.mem_singleton.1 hc
    obtain ⟨-, m, hm, -⟩ := mem_digitsFor hd
    exact .inr (by rw [hm]; rfl)
  · obtain rfl := List.mem_singleton.1 hcs
    rw [Script.toList_repr_of_natural hn] at hc
    exact .inl (Nat.isDigit_of_mem_toDigits (by decide) (by decide) hc)

/-- No keyword starts like a numeral. -/
theorem Keyword.letters_not_numeral (k : Keyword) :
    ∃ c cs, k.letters = c :: cs ∧ c.isDigit = false ∧ chineseDigit? c = none := by
  cases k <;> exact ⟨_, _, rfl, by decide, by decide⟩

theorem IsNumeral.bare {c : Char} (h : IsNumeral c) (cs : List Char) : Bare (c :: cs) where
  ne_nil := List.cons_ne_nil _ _
  not_layout := by
    rintro _ ⟨⟩
    rcases h with hdigit | hchinese
    · refine ⟨Script.isBlank_of_isDigit hdigit, ?_⟩
      rintro rfl
      exact absurd hdigit (by decide)
    · have hall : ∀ d ∈ chineseDigits, Text.isBlank d.1 = false ∧ d.1 ≠ commentMark := by decide
      obtain ⟨m, hm⟩ := Option.isSome_iff_exists.1 hchinese
      obtain ⟨front, back, hsplit, -⟩ := List.lookup_eq_some_iff.1 hm
      exact hall (c, m) (by rw [hsplit]; simp)
  not_keyword := by
    intro k hk
    obtain ⟨d, letters, hletters, hdigit, hchinese⟩ := k.letters_not_numeral
    rw [hletters] at hk
    obtain ⟨rfl, -⟩ := List.cons_prefix_cons.1 hk
    rcases h with h | h
    · exact absurd (h.symm.trans hdigit) (by decide)
    · rw [hchinese] at h
      cases h

/-- A letter is not the start of a keyword when layout follows it. -/
theorem IsLetter.bare {c : Char} (h : IsLetter c) {cs : List Char} (hcs : OnLayout cs) :
    Bare (c :: cs) where
  ne_nil := List.cons_ne_nil _ _
  not_layout := by
    rintro _ ⟨⟩
    exact ⟨h.not_blank, h.not_comment⟩
  not_keyword := by
    intro k hk
    have hshort : k.letters <+: [c] := Keyword.prefix_of_onLayout (u := [c]) hcs hk
    have hpos := k.length_letters_pos
    exact h.not_keyword k (hshort.eq_of_length (Nat.le_antisymm hshort.length_le hpos))

/-- The text of a string still starts with no keyword when its closing quote follows. -/
theorem Bare.append_closingMark {text : List Char} (h : Bare text) (cs : List Char) :
    Bare (text ++ closingMark :: cs) where
  ne_nil := by simp
  not_layout := by
    obtain ⟨c, rest, rfl⟩ := List.exists_cons_of_ne_nil h.ne_nil
    exact h.not_layout
  not_keyword := by
    have hmark : ∀ k : Keyword, closingMark ∈ k.letters → k.letters = [closingMark] := by
      intro k
      cases k <;> decide
    intro k hk
    rcases Keyword.ends_or_runsOver hk with hk | ⟨c, hc, more, hmore⟩
    · exact h.not_keyword k hk
    · cases hc
      -- It has the closing quote in it, and something before that.
      rw [hmark k (by rw [hmore]; simp)] at hmore
      obtain ⟨d, rest, rfl⟩ := List.exists_cons_of_ne_nil h.ne_nil
      have hlength := congrArg List.length hmore
      simp at hlength

namespace Scanner

theorem lexemes_keyword {k : Keyword} {cs : List Char} {mode : ScanMode} (hmode : mode ≠ .closing)
    (hcs : OnLayout cs) :
    lexemes ⟨k.letters ++ cs, mode⟩ =
      .keyword k :: lexemes ⟨cs, modeAfter (some (.keyword k))⟩ := by
  have hlongest : k.Longest (k.letters ++ cs) := by
    refine ⟨List.prefix_append _ _, fun k' hk' => ?_⟩
    exact (Keyword.prefix_of_onLayout hcs hk').length_le
  obtain ⟨more, hmore⟩ := exists_scans (some (.keyword k)) cs
  rw [hmore.lexemes_eq]
  cases mode with
  | plain =>
    have hall : Scans none (k.letters ++ cs) (.keyword k :: more) := .keyword hlongest hmore
    exact hall.lexemes_eq
  | opened =>
    have hall : Scans (some (.keyword .openQuote)) (k.letters ++ cs) (.keyword k :: more) :=
      .keyword hlongest hmore
    exact hall.lexemes_eq
  | closing => exact absurd rfl hmode

theorem lexemes_char {c : Char} {cs : List Char} (hb : Bare (c :: cs)) :
    lexemes ⟨c :: cs, .plain⟩ = .char c :: lexemes ⟨cs, .plain⟩ := by
  obtain ⟨more, hmore⟩ := exists_scans (some (.char c)) cs
  have hall : Scans none (c :: cs) (.char c :: more) := .char (by simp) hb hmore
  exact hall.lexemes_eq.trans (congrArg _ hmore.lexemes_eq.symm)

/-- A numeral is one run of characters, whatever follows it. -/
theorem lexemes_numeral {cs : List Char} (h : ∀ c ∈ cs, IsNumeral c) (rest : List Char) :
    lexemes ⟨cs ++ rest, .plain⟩ = cs.map .char ++ lexemes ⟨rest, .plain⟩ := by
  induction cs with
  | nil => rfl
  | cons c cs ih =>
    obtain ⟨hc, hcs⟩ := List.forall_mem_cons.1 h
    rw [List.cons_append, lexemes_char (hc.bare _), ih hcs]
    rfl

/-- Blanks between the characters of an identifier are skipped. -/
theorem lexemes_spaced {word rest : List Char} (h : ∀ c ∈ word, IsLetter c) (hrest : OnLayout rest) :
    lexemes ⟨word.intersperse ' ' ++ rest, .plain⟩ =
      word.map .char ++ lexemes ⟨rest, .plain⟩ := by
  induction word with
  | nil => rfl
  | cons c word ih =>
    obtain ⟨hc, hword⟩ := List.forall_mem_cons.1 h
    cases word with
    | nil => exact lexemes_char (hc.bare hrest)
    | cons d word =>
      have hspace : IsLayout [' '] := .blank (by decide) .nil
      have hnext : OnLayout ([' '] ++ ((d :: word).intersperse ' ' ++ rest)) :=
        hspace.onLayout_append (by simp) _
      rw [List.intersperse_cons_cons, List.cons_append, List.cons_append]
      have hchar := lexemes_char (hc.bare hnext)
      have hskip := lexemes_layout hspace ((d :: word).intersperse ' ' ++ rest) .plain
      exact hchar.trans (congrArg _ (hskip.trans (ih hword)))

theorem lexemes_string {text : List Char} (hb : Bare text) (htext : closingMark ∉ text)
    (cs : List Char) :
    lexemes ⟨text ++ closingMark :: cs, .opened⟩ =
      .string text :: .keyword .closeQuote :: lexemes ⟨cs, .plain⟩ := by
  obtain ⟨more, hmore⟩ := exists_scans (some (.keyword .closeQuote)) cs
  have hall := Scans.string (hb.append_closingMark cs) htext hmore
  exact hall.lexemes_eq.trans (congrArg _ (congrArg _ hmore.lexemes_eq.symm))

end Scanner

/-! ### Reading back -/

theorem tokensOf_chars (run cs : List Char) (rest : List Lexeme) :
    tokensOf run (cs.map .char ++ rest) = tokensOf (run ++ cs) rest := by
  induction cs generalizing run with
  | nil => rw [List.append_nil, List.map_nil, List.nil_append]
  | cons c cs ih =>
    have hstep := ih (run ++ [c])
    rw [List.append_assoc] at hstep
    exact hstep

/-- Where reading stands after a token: its mode, the run of characters that is still open, and the
tokens in that run. -/
inductive Pending : Option Token → ScanMode → List Char → List Token → Prop
  | start : Pending none .plain [] []
  | keyword (k : Keyword) :
      Pending (some (.keyword k)) (Scanner.modeAfter (some (.keyword k))) [] []
  | integer {n : Int} {cs : List Char} (hn : Natural n) (hcs : cs ∈ (Token.integer n).writings) :
      Pending (some (.integer n)) .plain cs [.integer n]
  | identifier {x : String} {run : List Char} {front : List Token}
      (h : runTokens run = .ok front) : Pending (some (.identifier x)) .plain run front

namespace Pending

variable {before : Option Token} {mode : ScanMode} {run : List Char} {front : List Token}

theorem runTokens_eq (h : Pending before mode run front) : runTokens run = .ok front := by
  cases h with
  | start => rfl
  | keyword k => rfl
  | integer hn hcs =>
    have hrun := runTokens_numeral hn hcs [] (by simp)
    rwa [List.append_nil] at hrun
  | identifier h => exact h

theorem mode_ne_closing (h : Pending before mode run front) : mode ≠ .closing := by
  cases h with
  | start | integer _ _ | identifier _ => simp
  | keyword k =>
    unfold Scanner.modeAfter
    split <;> simp

theorem mode_eq_plain (h : Pending before mode run front)
    (hquote : before ≠ some (.keyword .openQuote)) : mode = .plain := by
  cases h with
  | start | integer _ _ | identifier _ => rfl
  | keyword k =>
    have hk : k ≠ .openQuote := by
      rintro rfl
      exact hquote rfl
    exact if_neg (by simpa using hk)

/-- An integer starts a run. -/
theorem of_integerFits (h : Pending before mode run front) {n : Int} (hn : IntegerFits before n) :
    run = [] ∧ front = [] := by
  cases h with
  | start | keyword k => exact ⟨rfl, rfl⟩
  | integer _ _ => exact absurd rfl (hn.not_integer _)
  | identifier _ => exact absurd rfl (hn.not_identifier _)

/-- An identifier starts a run or goes on with that of an integer. -/
theorem of_identifierFits (h : Pending before mode run front) {x : String}
    (hx : IdentifierFits before x) :
    runTokens (run ++ x.toList) = .ok (front ++ [.identifier x]) := by
  have hword (hb : ∀ n, before ≠ some (.integer n)) :
      runTokens x.toList = .ok [.identifier x] := by
    have hrun := runTokens_word hx.ne_nil fun c hc => by
      have hnot := mt (hx.numeral c hc) (by rintro ⟨n, hn, -⟩; exact hb n hn)
      simpa using hnot
    rwa [String.ofList_toList] at hrun
  cases h with
  | start | keyword k => exact hword (by simp)
  | @integer n cs hn hcs =>
    have hrun := runTokens_numeral hn hcs x.toList fun c hc hdigit => by
      obtain ⟨m, hm, hle⟩ := hx.numeral c hc (.inl hdigit)
      cases hm
      exact hle hdigit
    rwa [if_neg hx.ne_nil, String.ofList_toList] at hrun
  | identifier _ => exact absurd rfl (hx.not_identifier _)

end Pending

/-- Tokens that are read back from every text that writes them down, wherever they can stand. -/
def ReadsBack (tokens : List Token) : Prop :=
  ∀ ⦃before : Option Token⦄ ⦃mode : ScanMode⦄ ⦃run : List Char⦄ ⦃front : List Token⦄
    ⦃text : List Char⦄, ShapedAfter before tokens → Pending before mode run front →
    text ∈ writings tokens →
      tokensOf run (Scanner.lexemes ⟨text, mode⟩) = .ok (front ++ tokens)

theorem readsBack_nil : ReadsBack [] := by
  intro before mode run front text _ hp htext
  obtain rfl : text = [] := List.mem_singleton.1 htext
  have hend : Scanner.next? ⟨[], mode⟩ = none := by
    cases mode with
    | plain | opened => rfl
    | closing => exact absurd rfl hp.mode_ne_closing
  rw [Scanner.lexemes_of_none hend, tokensOf, hp.runTokens_eq, List.append_nil]

/-- A keyword closes the run. -/
theorem readsBack_keyword {k : Keyword} {rest : List Token} (ih : ReadsBack rest) :
    ReadsBack (.keyword k :: rest) := by
  intro before mode run front text hs hp htext
  obtain ⟨cs, hcs, more, hmore, rfl⟩ := mem_writings_cons.1 htext
  obtain rfl : cs = k.letters := List.mem_singleton.1 hcs
  have hnext := onLayout_gap_append (t := .keyword k) (by simp [Token.kind]) hmore
  rw [Scanner.lexemes_keyword hp.mode_ne_closing hnext, tokensOf,
    Scanner.lexemes_layout (isLayout_gap _ _), ih hs.2 (.keyword k) hmore, closeRun,
    hp.runTokens_eq]
  rfl

/-- An integer leaves its run open. -/
theorem readsBack_integer {n : Int} {rest : List Token} (ih : ReadsBack rest) :
    ReadsBack (.integer n :: rest) := by
  intro before mode run front text hs hp htext
  obtain ⟨cs, hcs, more, hmore, rfl⟩ := mem_writings_cons.1 htext
  have hn : Natural n := hs.1.natural
  obtain rfl := hp.mode_eq_plain hs.1.not_quote
  obtain ⟨rfl, rfl⟩ := hp.of_integerFits hs.1
  rw [Scanner.lexemes_numeral (isNumeral_of_mem_writings hn hcs), tokensOf_chars,
    Scanner.lexemes_layout (isLayout_gap _ _), List.nil_append, ih hs.2 (.integer hn hcs) hmore]
  rfl

/-- So does an identifier, which nothing goes on with. -/
theorem readsBack_identifier {x : String} {rest : List Token} (ih : ReadsBack rest) :
    ReadsBack (.identifier x :: rest) := by
  intro before mode run front text hs hp htext
  obtain ⟨cs, hcs, more, hmore, rfl⟩ := mem_writings_cons.1 htext
  obtain rfl : cs = x.toList.intersperse ' ' := List.mem_singleton.1 hcs
  obtain rfl := hp.mode_eq_plain hs.1.not_quote
  have hrun := hp.of_identifierFits hs.1
  have hnext := onLayout_gap_append (t := .identifier x) (by simp [Token.kind]) hmore
  rw [Scanner.lexemes_spaced hs.1.letters hnext, tokensOf_chars,
    Scanner.lexemes_layout (isLayout_gap _ _), ih hs.2 (.identifier hrun) hmore,
    List.append_assoc]
  rfl

/-- A string is read together with its closing quote. -/
theorem readsBack_string {s : String} {rest : List Token}
    (ih : ∀ back, rest = .keyword .closeQuote :: back → ReadsBack back) :
    ReadsBack (.string s :: rest) := by
  intro before mode run front text hs hp htext
  obtain ⟨cs, hcs, more, hmore, rfl⟩ := mem_writings_cons.1 htext
  obtain rfl : cs = s.toList := List.mem_singleton.1 hcs
  obtain ⟨hb, hmark, rfl, hclosed⟩ := hs.1
  cases hp
  rcases hclosed with hend | hquote
  · obtain rfl := List.head?_eq_none_iff.1 hend
    obtain rfl : more = [] := List.mem_singleton.1 hmore
    have hstring : Scanner.lexemes ⟨s.toList, .opened⟩ = [.string s.toList] :=
      (Scans.unclosed hb hmark).lexemes_eq
    have hmode : Scanner.modeAfter (some (.keyword .openQuote)) = .opened := rfl
    rw [gap, List.append_nil, List.append_nil, hmode, hstring, tokensOf, tokensOf,
      String.ofList_toList]
    rfl
  · obtain ⟨back, rfl⟩ := List.head?_eq_some_iff.1 hquote
    obtain ⟨mark, hcs, last, hlast, rfl⟩ := mem_writings_cons.1 hmore
    obtain rfl : mark = [closingMark] := List.mem_singleton.1 hcs
    have hafter := ih back rfl hs.2.2 (.keyword .closeQuote) hlast
    have hstring := Scanner.lexemes_string hb hmark (gap (.keyword .closeQuote) back ++ last)
    rw [Scanner.lexemes_layout (isLayout_gap _ _)] at hstring
    have hgap : gap (.string s) (.keyword .closeQuote :: back) = [] := rfl
    have hmode : Scanner.modeAfter (some (.keyword .openQuote)) = .opened := rfl
    have hmode' : Scanner.modeAfter (some (.keyword .closeQuote)) = .plain := rfl
    rw [hmode'] at hafter
    rw [hgap, hmode, List.nil_append, List.singleton_append, hstring, tokensOf, tokensOf, hafter,
      String.ofList_toList]
    rfl

theorem readsBack (tokens : List Token) : ReadsBack tokens := by
  induction hn : tokens.length using Nat.strongRecOn generalizing tokens with
  | _ n ih =>
    subst hn
    cases tokens with
    | nil => exact readsBack_nil
    | cons t rest =>
      have hrest : ReadsBack rest := ih rest.length (Nat.lt_succ_self _) rest rfl
      cases t with
      | keyword k => exact readsBack_keyword hrest
      | integer n => exact readsBack_integer hrest
      | identifier x => exact readsBack_identifier hrest
      | string s =>
        refine readsBack_string fun back hback => ?_
        refine ih back.length ?_ back rfl
        rw [hback, List.length_cons, List.length_cons]
        omega

/-! ### Shaped tokens -/

theorem shapedAfter_of_fits {tokens : List Token} {before : Option Token}
    (h : ∀ front t back, tokens = front ++ t :: back →
      t.Fits (front.getLast?.or before) back.head?) : ShapedAfter before tokens := by
  induction tokens generalizing before with
  | nil => trivial
  | cons t tokens ih =>
    refine ⟨h [] t tokens rfl, ih fun front u back hsplit => ?_⟩
    have hfits := h (t :: front) u back (by rw [hsplit]; rfl)
    rw [List.getLast?_cons] at hfits
    cases hlast : front.getLast? with
    | none =>
      rw [hlast] at hfits
      exact hfits
    | some v =>
      rw [hlast] at hfits
      exact hfits

theorem Token.Fits.writings_ne_nil {before after : Option Token} {t : Token}
    (h : t.Fits before after) : t.writings ≠ [] := by
  cases t with
  | keyword k | identifier x | string s => exact List.cons_ne_nil _ _
  | integer n =>
    rw [Token.writings]
    split_ifs with hsmall
    · have hdigits := digitsFor_ne_nil h.natural.1 hsmall
      simpa using hdigits
    · exact List.cons_ne_nil _ _

theorem ShapedAfter.exists_writing {tokens : List Token} {before : Option Token}
    (h : ShapedAfter before tokens) : ∃ text, text ∈ writings tokens := by
  induction tokens generalizing before with
  | nil => exact ⟨[], List.mem_singleton.2 rfl⟩
  | cons t tokens ih =>
    obtain ⟨cs, hcs⟩ := List.exists_mem_of_ne_nil _ h.1.writings_ne_nil
    obtain ⟨more, hmore⟩ := ih h.2
    exact ⟨_, mem_writings_cons.2 ⟨cs, hcs, more, hmore, rfl⟩⟩

/-- **Tokens can be written down and read back.**  Tokens that have the shape of a token stream can
be written, and whatever text they are written as, they are the tokens of that text. -/
theorem tokenize_of_mem_writings {tokens : List Token} (h : Shaped tokens) :
    (∃ text, text ∈ writings tokens) ∧
      ∀ text ∈ writings tokens, tokenize (String.ofList text) = .ok tokens := by
  have hafter : ShapedAfter none tokens :=
    shapedAfter_of_fits fun front t back hsplit => by simpa using h front t back hsplit
  refine ⟨hafter.exists_writing, fun text htext => ?_⟩
  rw [tokenize_eq_tokensOf, Scanner.ofText, String.toList_ofList]
  exact readsBack tokens hafter .start htext

/-- A string, a two that can be written in two ways, and an identifier that starts with a digit. -/
theorem tokenize_of_mem_writings_two :
    Shaped [.keyword .openQuote, .string "a ", .keyword .closeQuote, .integer 2,
        .identifier "5唠唠", .keyword .incrementBy, .keyword .incrementBy, .integer 42] ∧
      tokenize "“ a ” 两 5 唠 唠 走 走 42" =
        .ok [.keyword .openQuote, .string "a ", .keyword .closeQuote, .integer 2,
          .identifier "5唠唠", .keyword .incrementBy, .keyword .incrementBy, .integer 42] := by
  have hread : tokensOf [] (Scanner.ofText "“a ”二5唠\n唠走#\n走42").lexemes =
      .ok [.keyword .openQuote, .string "a ", .keyword .closeQuote, .integer 2,
        .identifier "5唠唠", .keyword .incrementBy, .keyword .incrementBy, .integer 42] := by
    decide +kernel
  have hscan : Scans none "“a ”二5唠\n唠走#\n走42".toList _ := scans_iff_lexemes.2 rfl
  have hshaped := (hscan.shapedAfter .start hread).shaped
  exact ⟨hshaped, (tokenize_of_mem_writings hshaped).2 "“ a ” 两 5 唠 唠 走 走 42".toList
    (by decide +kernel)⟩

end Laoke
