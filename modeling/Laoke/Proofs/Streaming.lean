import Laoke.Proofs.Scanning
import Mathlib.Data.List.SplitBy
import Mathlib.Logic.Function.Iterate

/-!
# A stream of tokens in two passes

A token stream keeps a queue and a flag, and reads no further than it must.  What
it hands out is said here in two passes over the whole text.  The first gives its
lexemes (`Scans`).  The second cuts these into `stretches`, the longest runs of
characters and the keywords and strings between them, and takes the tokens of one
stretch after the other, up to the first numeral that is too large (`itemsOf`).

* `runTokens_eq`: a run is its numeral and its identifier, unless the numeral is
  too large.
* `TokenStream.items_eq_itemsOf`: a stream hands out the stretches of what it has
  not read yet.
* `stream_eq_two_passes`: the answers of a stream, however often it is asked.
-/

namespace Laoke

/-! ### Stretches of lexemes -/

namespace Lexeme

/-- The character that a lexeme is. -/
def char? : Lexeme → Option Char
  | char c => some c
  | _ => none

/-- The token that a keyword or a string is. -/
def token? : Lexeme → Option Token
  | keyword k => some (.keyword k)
  | string text => some (.string (String.ofList text))
  | char _ => none

end Lexeme

/-- Lexemes cut into the longest runs of characters, with keywords and strings one by one. -/
def stretches (lexemes : List Lexeme) : List (List Lexeme) :=
  lexemes.splitBy fun a b => a.char?.isSome && b.char?.isSome

/-- The characters among some lexemes. -/
def lettersOf (stretch : List Lexeme) : List Char :=
  stretch.filterMap Lexeme.char?

/-- The decimal digits that a run of characters starts with. -/
def leadingDigits (run : List Char) : List Char :=
  run.takeWhile Char.isDigit

/-- The leading digits of a run, if they denote a number beyond the greatest integer. -/
def tooLarge? (run : List Char) : Option (List Char) :=
  if greatestInteger < decimalValue (leadingDigits run) then some (leadingDigits run) else none

/-- The numeral at the start of a run, if there is one, and the rest: all decimal digits there, or
else one Chinese digit. -/
def splitNumeral (run : List Char) : Option Nat × List Char :=
  if leadingDigits run ≠ [] then
    (some (decimalValue (leadingDigits run)), run.dropWhile Char.isDigit)
  else
    match run.head?.bind chineseDigit? with
    | some n => (some n, run.tail)
    | none => (none, run)

/-- The tokens of a run: its numeral, and what follows that as an identifier. -/
def wordTokens (run : List Char) : List Token :=
  ((splitNumeral run).1.map fun n => Token.integer n).toList ++
    if (splitNumeral run).2 = [] then [] else [.identifier (String.ofList (splitNumeral run).2)]

/-- The tokens of a stretch, which is a run of characters or one keyword or string. -/
def stretchTokens (stretch : List Lexeme) : List Token :=
  wordTokens (lettersOf stretch) ++ stretch.filterMap Lexeme.token?

/-- The tokens of the stretches before the first numeral that is too large, and then that error. -/
def itemsOf (stretches : List (List Lexeme)) : List (Except LexicalError Token) :=
  ((stretches.takeWhile fun stretch => (tooLarge? (lettersOf stretch)).isNone).flatMap
      stretchTokens).map .ok ++
    (stretches.findSome? fun stretch => tooLarge? (lettersOf stretch)).toList.map
      fun digits => .error (.integerOverflow (String.ofList digits))

/-! ### Runs of characters -/

theorem inBounds_natCast (n : Nat) : inBounds n = true ↔ ¬ greatestInteger < n := by
  have hleast : leastInteger ≤ (n : Int) := Int.le_trans (by decide) (Int.natCast_nonneg n)
  rw [inBounds, Bool.and_eq_true, decide_eq_true_eq, decide_eq_true_eq, Int.not_lt]
  exact and_iff_right hleast

/-- A run that starts with no digit has no number that is too large. -/
theorem tooLarge?_of_not_digit {run : List Char} (h : ∀ c ∈ run.head?, c.isDigit = false) :
    leadingDigits run = [] ∧ tooLarge? run = none := by
  have hnone : leadingDigits run = [] := by
    cases run with
    | nil => rfl
    | cons c run => rw [leadingDigits, List.takeWhile_cons, if_neg (by simp [h c rfl])]
  refine ⟨hnone, ?_⟩
  rw [tooLarge?, hnone, if_neg (by decide)]

theorem leadingNumeral_eq (run : List Char) :
    leadingNumeral run =
      match tooLarge? run with
      | some digits => .error (.integerOverflow (String.ofList digits))
      | none => .ok ((splitNumeral run).1.map fun n => (n : Int), (splitNumeral run).2) := by
  cases run with
  | nil => rfl
  | cons c rest =>
    by_cases hc : c.isDigit = true
    · have hne : leadingDigits (c :: rest) ≠ [] := by
        rw [leadingDigits, List.takeWhile_cons, if_pos hc]
        exact List.cons_ne_nil _ _
      have hread : leadingNumeral (c :: rest) =
          if inBounds (decimalValue (leadingDigits (c :: rest))) then
            .ok (some (decimalValue (leadingDigits (c :: rest))), (c :: rest).dropWhile Char.isDigit)
          else .error (.integerOverflow (String.ofList (leadingDigits (c :: rest)))) := by
        rw [leadingNumeral, if_pos hc]
        rfl
      rw [hread, tooLarge?, splitNumeral, if_pos hne]
      by_cases hlarge : greatestInteger < decimalValue (leadingDigits (c :: rest))
      · rw [if_neg fun h => (inBounds_natCast _).1 h hlarge, if_pos hlarge]
      · rw [if_pos ((inBounds_natCast _).2 hlarge), if_neg hlarge]
        rfl
    · have hhead : ∀ d ∈ (c :: rest).head?, d.isDigit = false := by simpa using hc
      obtain ⟨hnil, hsmall⟩ := tooLarge?_of_not_digit hhead
      rw [leadingNumeral, if_neg hc, hsmall, splitNumeral, if_neg (not_not.2 hnil)]
      dsimp only [List.head?_cons, Option.bind_some, List.tail_cons]
      cases chineseDigit? c <;> rfl

/-- **A run is its numeral and its identifier**, unless the numeral is too large. -/
theorem runTokens_eq (run : List Char) :
    runTokens run =
      match tooLarge? run with
      | some digits => .error (.integerOverflow (String.ofList digits))
      | none => .ok (wordTokens run) := by
  rw [runTokens, leadingNumeral_eq]
  cases tooLarge? run with
  | some digits => rfl
  | none =>
    dsimp only
    rw [wordTokens, Option.map_map]
    simp only [List.isEmpty_iff]
    rfl

theorem itemsOf_cons (stretch : List Lexeme) (more : List (List Lexeme)) :
    itemsOf (stretch :: more) =
      runItems (lettersOf stretch) ((stretch.filterMap Lexeme.token?).map .ok ++ itemsOf more) := by
  rw [runItems, runTokens_eq, itemsOf, List.takeWhile_cons, List.findSome?_cons]
  cases tooLarge? (lettersOf stretch) with
  | some digits => rfl
  | none => simp [itemsOf, stretchTokens]

/-! ### Stretches of a run -/

theorem lettersOf_map_char (run : List Char) : lettersOf (run.map .char) = run := by
  rw [lettersOf, List.filterMap_map]
  exact List.filterMap_some

theorem filterMap_token?_map_char (run : List Char) :
    (run.map Lexeme.char).filterMap Lexeme.token? = [] := by
  rw [List.filterMap_map, List.filterMap_eq_nil_iff]
  exact fun _ _ => rfl

theorem char?_eq_none_of_token? {b : Lexeme} {t : Token} (h : b.token? = some t) :
    b.char? = none := by
  cases b with
  | keyword k | string text => rfl
  | char c => cases h

theorem stretches_run {run : List Char} (h : run ≠ []) :
    stretches (run.map .char) = [run.map .char] := by
  refine List.splitBy_of_isChain (by simpa using h) ((List.isChain_map _).2 ?_)
  exact (List.pairwise_of_forall fun _ _ => rfl).isChain

/-- A keyword or a string is a stretch by itself. -/
theorem stretches_boundary {b : Lexeme} {t : Token} (hb : b.token? = some t) (run : List Char)
    (rest : List Lexeme) :
    stretches (run.map .char ++ b :: rest) = stretches (run.map .char) ++ [b] :: stretches rest := by
  have hchar := char?_eq_none_of_token? hb
  unfold stretches
  rw [List.splitBy_append_cons rest (by simp [hchar]), ← List.singleton_append,
    List.splitBy_append (by simp [hchar])]
  rfl

theorem itemsOf_run_append (run : List Char) (more : List (List Lexeme)) :
    itemsOf (stretches (run.map .char) ++ more) = runItems run (itemsOf more) := by
  by_cases hrun : run = []
  · subst hrun
    rfl
  · rw [stretches_run hrun, List.singleton_append, itemsOf_cons, lettersOf_map_char,
      filterMap_token?_map_char]
    rfl

/-- At the end of the text, a run hands out its tokens. -/
theorem itemsOf_run (run : List Char) : itemsOf (stretches (run.map .char)) = runItems run [] := by
  have h := itemsOf_run_append run []
  rwa [List.append_nil] at h

/-- A run hands out its tokens, then the keyword or the string after it. -/
theorem itemsOf_boundary {b : Lexeme} {t : Token} (hb : b.token? = some t) (run : List Char)
    (rest : List Lexeme) :
    itemsOf (stretches (run.map .char ++ b :: rest)) =
      runItems run (.ok t :: itemsOf (stretches rest)) := by
  have hletters : lettersOf [b] = [] := by simp [lettersOf, char?_eq_none_of_token? hb]
  rw [stretches_boundary hb, itemsOf_run_append, itemsOf_cons, hletters]
  simp [runItems, runTokens, leadingNumeral, hb]

/-! ### The stream -/

/-- Where a run of characters ends, the lexemes of a text are cut. -/
theorem Scanner.lexemes_eq_readRun (s : Scanner) :
    (s.readRun.boundary? = none ∧ s.lexemes = s.readRun.letters.map .char) ∨
      ∃ b t, Lexeme.token? b = some t ∧ s.readRun.boundary? = some t ∧
        s.lexemes = s.readRun.letters.map .char ++ b :: s.readRun.after.lexemes := by
  fun_induction readRun s with
  | case1 s h => exact .inl ⟨rfl, lexemes_of_none h⟩
  | case2 s c t h hlt run ih =>
    rw [lexemes_of_some h]
    rcases ih with ⟨hb, hall⟩ | ⟨b, u, hu, hb, hall⟩
    · exact .inl ⟨hb, congrArg _ hall⟩
    · exact .inr ⟨b, u, hu, hb, congrArg _ hall⟩
  | case3 s k t h => exact .inr ⟨_, _, rfl, rfl, lexemes_of_some h⟩
  | case4 s text t h => exact .inr ⟨_, _, rfl, rfl, lexemes_of_some h⟩

namespace TokenStream

/-- **A stream with an empty queue hands out the stretches of what it has not read.** -/
theorem items_eq_itemsOf (scanner : Scanner) :
    items ⟨scanner, [], false⟩ = itemsOf (stretches scanner.lexemes) := by
  induction hn : scanner.size using Nat.strongRecOn generalizing scanner with
  | _ n ih =>
    subst hn
    rw [items_eq_runItems]
    rcases scanner.lexemes_eq_readRun with ⟨hb, hall⟩ | ⟨b, t, ht, hb, hall⟩
    · rw [hall, hb, itemsOf_run, items_of_finished rfl rfl]
      rfl
    · have hafter := ih _ (Scanner.size_readRun_lt (by simp [hb])) scanner.readRun.after rfl
      rw [hall, hb, itemsOf_boundary ht, ← hafter]
      rfl

theorem ready_eq_nil_of_next? {s : TokenStream} (h : s.next? = none) : s.ready = [] := by
  cases hready : s.ready with
  | nil => rfl
  | cons t ready =>
    rw [next?, hready] at h
    cases h

/-- **Asked again and again, a stream hands out its items**, and nothing after them. -/
theorem next?_advance (s : TokenStream) (n : Nat) :
    (advance^[n] s).next?.map Prod.fst = s.items[n]? := by
  induction n generalizing s with
  | zero =>
    cases h : s.next? with
    | none => simp [items_of_none h, h]
    | some r => simp [items_of_some h, h]
  | succ n ih =>
    rw [Function.iterate_succ_apply, ih]
    cases h : s.next? with
    | none =>
      have hready : s.ready = [] := ready_eq_nil_of_next? h
      have hend : items { s with finished := true } = [] := items_of_finished hready rfl
      simp [advance, h, hend, items_of_none h]
    | some r => simp [advance, h, items_of_some h]

end TokenStream

/-! ### All tokens -/

/-- Tokens are gathered if there is no error, which can only be the last item. -/
theorem gather_itemsOf (ss : List (List Lexeme)) :
    (∀ tokens, gather (itemsOf ss) = .ok tokens ↔ itemsOf ss = tokens.map .ok) ∧
      ∀ e, gather (itemsOf ss) = .error e ↔ .error e ∈ itemsOf ss := by
  unfold itemsOf
  rw [gather_map_ok_append]
  cases ss.findSome? fun stretch => tooLarge? (lettersOf stretch) with
  | none =>
    simp only [Option.toList_none, List.map_nil, List.append_nil, gather, Except.map]
    constructor
    · intro tokens
      rw [(List.map_injective_iff.2 fun _ _ => Except.ok.inj).eq_iff, Except.ok.injEq]
    · intro e
      simp
  | some digits =>
    simp only [Option.toList_some, List.map_cons, List.map_nil, gather, Except.map]
    constructor
    · intro tokens
      constructor
      · intro h
        cases h
      · intro h
        have hmem : Except.error (.integerOverflow (String.ofList digits)) ∈
            tokens.map (Except.ok : Token → Except LexicalError Token) := by
          rw [← h]
          simp
        simp at hmem
    · intro e
      simp [eq_comm]

/-- **A stream in two passes.**  There is one way to scan a text by the rules.  However often a
stream is asked, it hands out the items of the stretches that were scanned, one after the other, and
then nothing; and all tokens of the text are those items, or the error among them. -/
theorem stream_eq_two_passes (source : String) :
    ∃ lexemes, (∀ found, Scans none source.toList found ↔ found = lexemes) ∧
      (∀ n, (TokenStream.advance^[n] (.ofText source)).next?.map Prod.fst =
        (itemsOf (stretches lexemes))[n]?) ∧
      (∀ tokens, tokenize source = .ok tokens ↔ itemsOf (stretches lexemes) = tokens.map .ok) ∧
      ∀ e, tokenize source = .error e ↔ .error e ∈ itemsOf (stretches lexemes) := by
  have hitems : (TokenStream.ofText source).items =
      itemsOf (stretches (Scanner.ofText source).lexemes) := TokenStream.items_eq_itemsOf _
  refine ⟨(Scanner.ofText source).lexemes, fun _ => scans_iff_lexemes, fun n => ?_, ?_⟩
  · rw [TokenStream.next?_advance, hitems]
  · rw [tokenize, hitems]
    exact gather_itemsOf _

end Laoke
