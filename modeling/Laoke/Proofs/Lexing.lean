import Laoke.TokenStream
import Mathlib.Data.List.Chain

/-!
# Tokens by way of lexemes

A token stream reads lazily, with a queue and a flag.  This file reads the same
text in two passes: `Scanner.lexemes` cuts all of it into lexemes, and
`tokensOf` turns every run of single characters into its tokens.

* `tokenize_eq_tokensOf`: the two readings agree.
* `apart_of_tokenize`: what stands side by side in the tokens of a text never
  runs together when it is written without blanks.
* `naturals_of_tokenize`: the integers of a text are those that can be written.
-/

namespace Laoke

/-! ### All lexemes of a text -/

/-- The lexemes from a position on. -/
def Scanner.lexemes (s : Scanner) : List Lexeme :=
  match h : s.next? with
  | none => []
  | some (lexeme, t) =>
    have := size_lt_of_next? h
    lexeme :: lexemes t
termination_by s.size

namespace Scanner

theorem lexemes_of_none {s : Scanner} (h : s.next? = none) : s.lexemes = [] := by
  rw [lexemes]
  split
  · rfl
  · rename_i h'
    rw [h] at h'
    simp at h'

theorem lexemes_of_some {s t : Scanner} {lexeme : Lexeme} (h : s.next? = some (lexeme, t)) :
    s.lexemes = lexeme :: t.lexemes := by
  rw [lexemes]
  split
  · rename_i h'
    rw [h] at h'
    simp at h'
  · rename_i h'
    rw [h] at h'
    simp only [Option.some.injEq, Prod.mk.injEq] at h'
    rw [h'.1, h'.2]

end Scanner

/-- The tokens of a run that ends at a keyword or a string, given those that follow it. -/
def closeRun (run : List Char) (boundary : Token) (after : Except LexicalError (List Token)) :
    Except LexicalError (List Token) :=
  match runTokens run with
  | .error e => .error e
  | .ok front => after.map fun more => front ++ boundary :: more

/-- The tokens of some lexemes, after a run of single characters that is still open. -/
def tokensOf (run : List Char) : List Lexeme → Except LexicalError (List Token)
  | [] => runTokens run
  | .char c :: rest => tokensOf (run ++ [c]) rest
  | .keyword k :: rest => closeRun run (.keyword k) (tokensOf [] rest)
  | .string text :: rest => closeRun run (.string (String.ofList text)) (tokensOf [] rest)

theorem exists_of_closeRun {run : List Char} {b : Token} {tokens : List Token}
    {after : Except LexicalError (List Token)} (h : closeRun run b after = .ok tokens) :
    ∃ front more, runTokens run = .ok front ∧ after = .ok more ∧ tokens = front ++ b :: more := by
  unfold closeRun at h
  cases hf : runTokens run with
  | error e => simp [hf] at h
  | ok front =>
    cases after with
    | error e => simp [hf, Except.map] at h
    | ok more => exact ⟨front, more, rfl, rfl, by simpa [hf, Except.map] using h.symm⟩

/-- The tokens of a run and of all that follows it. -/
def Run.tokens (run : Run) : Except LexicalError (List Token) :=
  match run.boundary? with
  | none => runTokens run.letters
  | some b => closeRun run.letters b (tokensOf [] run.after.lexemes)

theorem tokensOf_lexemes (s : Scanner) (open' : List Char) :
    tokensOf open' s.lexemes =
      Run.tokens { s.readRun with letters := open' ++ s.readRun.letters } := by
  fun_induction Scanner.readRun s generalizing open' with
  | case1 s h =>
    rw [Scanner.lexemes_of_none h]
    simp only [tokensOf, Run.tokens, List.append_nil]
  | case2 s c t h hlt run ih =>
    rw [Scanner.lexemes_of_some h, tokensOf, ih]
    simp [run]
  | case3 s k t h =>
    rw [Scanner.lexemes_of_some h]
    simp only [tokensOf, Run.tokens, List.append_nil]
  | case4 s text t h =>
    rw [Scanner.lexemes_of_some h]
    simp only [tokensOf, Run.tokens, List.append_nil]

/-! ### The lazy reading agrees -/

theorem gather_ok_cons {ε α : Type} (a : α) (rest : List (Except ε α)) :
    gather (.ok a :: rest) = (gather rest).map (a :: ·) := by
  rw [gather]
  cases gather rest <;> rfl

theorem gather_map_ok_append {ε α : Type} (front : List α) (rest : List (Except ε α)) :
    gather (front.map .ok ++ rest) = (gather rest).map (front ++ ·) := by
  induction front with
  | nil =>
    rw [List.map_nil, List.nil_append]
    cases gather rest <;> rfl
  | cons a front ih =>
    rw [List.map_cons, List.cons_append, gather_ok_cons, ih]
    cases gather rest <;> rfl

/-- What a run hands out, given what follows it. -/
def runItems (run : List Char) (rest : List (Except LexicalError Token)) :
    List (Except LexicalError Token) :=
  match runTokens run with
  | .error e => [.error e]
  | .ok tokens => tokens.map .ok ++ rest

namespace TokenStream

theorem items_of_none {s : TokenStream} (h : s.next? = none) : s.items = [] := by
  rw [items]
  split
  · rfl
  · rename_i h'
    rw [h] at h'
    simp at h'

theorem items_of_some {s t : TokenStream} {item : Except LexicalError Token}
    (h : s.next? = some (item, t)) : s.items = item :: t.items := by
  rw [items]
  split
  · rename_i h'
    rw [h] at h'
    simp at h'
  · rename_i h'
    rw [h] at h'
    simp only [Option.some.injEq, Prod.mk.injEq] at h'
    rw [h'.1, h'.2]

theorem items_of_finished {s : TokenStream} (hready : s.ready = []) (hf : s.finished = true) :
    s.items = [] :=
  items_of_none (by simp [next?, hready, hf])

/-- The queue is handed out first. -/
theorem items_eq_ready_append (scanner : Scanner) (ready : List Token) (finished : Bool) :
    items ⟨scanner, ready, finished⟩ = ready.map .ok ++ items ⟨scanner, [], finished⟩ := by
  induction ready with
  | nil => rfl
  | cons t ready ih =>
    have hnext : next? ⟨scanner, t :: ready, finished⟩ = some (.ok t, ⟨scanner, ready, finished⟩) := rfl
    rw [items_of_some hnext, ih]
    rfl

theorem next?_of_empty (scanner : Scanner) :
    next? ⟨scanner, [], false⟩ = match runTokens scanner.readRun.letters with
      | .error e => some (.error e, ⟨scanner.readRun.after, [], true⟩)
      | .ok front =>
        match front ++ scanner.readRun.boundary?.toList with
        | [] => none
        | t :: ready =>
          some (.ok t, ⟨scanner.readRun.after, ready, scanner.readRun.boundary?.isNone⟩) :=
  rfl

/-- **With an empty queue, a run is handed out**, its boundary, and then what follows. -/
theorem items_eq_runItems (scanner : Scanner) :
    items ⟨scanner, [], false⟩ = runItems scanner.readRun.letters
      (scanner.readRun.boundary?.toList.map .ok ++
        items ⟨scanner.readRun.after, [], scanner.readRun.boundary?.isNone⟩) := by
  have hnext := next?_of_empty scanner
  unfold runItems
  cases hrun : runTokens scanner.readRun.letters with
  | error e =>
    rw [hrun] at hnext
    rw [items_of_some hnext, items_of_finished rfl rfl]
  | ok front =>
    rw [hrun] at hnext
    dsimp only at hnext ⊢
    rw [← List.append_assoc, ← List.map_append]
    cases hlist : front ++ scanner.readRun.boundary?.toList with
    | nil =>
      rw [hlist] at hnext
      have hb := Option.toList_eq_nil_iff.1 (List.append_eq_nil_iff.1 hlist).2
      rw [items_of_none hnext, items_of_finished rfl (by rw [hb]; rfl)]
      rfl
    | cons t ready =>
      rw [hlist] at hnext
      rw [items_of_some hnext, items_eq_ready_append]
      rfl

theorem gather_unread (scanner : Scanner) :
    gather (items ⟨scanner, [], false⟩) = tokensOf [] scanner.lexemes := by
  induction hn : scanner.size using Nat.strongRecOn generalizing scanner with
  | _ n ih =>
    subst hn
    rw [items_eq_runItems, tokensOf_lexemes, List.nil_append, Run.tokens, runItems]
    cases hb : scanner.readRun.boundary? with
    | none =>
      rw [items_of_finished rfl rfl]
      cases runTokens scanner.readRun.letters with
      | error e => rfl
      | ok front =>
        dsimp only
        rw [gather_map_ok_append]
        simp [gather, Except.map]
    | some b =>
      have hafter := ih _ (Scanner.size_readRun_lt (by simp [hb])) scanner.readRun.after rfl
      dsimp only [closeRun]
      cases runTokens scanner.readRun.letters with
      | error e => rfl
      | ok front =>
        dsimp only [Option.toList_some, Option.isNone_some]
        rw [gather_map_ok_append, gather_map_ok_append, hafter]
        cases tokensOf [] scanner.readRun.after.lexemes <;> rfl

/-- What a stream still has to hand out. -/
def pending (s : TokenStream) : Except LexicalError (List Token) :=
  if s.finished then .ok s.ready else (tokensOf [] s.scanner.lexemes).map (s.ready ++ ·)

theorem gather_items (s : TokenStream) : gather s.items = s.pending := by
  obtain ⟨scanner, ready, finished⟩ := s
  rw [items_eq_ready_append, gather_map_ok_append]
  cases finished with
  | true =>
    rw [items_of_finished rfl rfl]
    simp [gather, Except.map, pending]
  | false =>
    rw [gather_unread]
    rfl

end TokenStream

/-- **Two passes read the same tokens**: cut the text into lexemes, then break its runs. -/
theorem tokenize_eq_tokensOf (source : String) :
    tokenize source = tokensOf [] (Scanner.ofText source).lexemes := by
  rw [tokenize, TokenStream.gather_items, TokenStream.pending, TokenStream.ofText]
  simp only [Bool.false_eq_true, ↓reduceIte, List.nil_append]
  cases tokensOf [] (Scanner.ofText source).lexemes <;> rfl

/-! ### Neighbours -/

/-- Whether two tokens, written with nothing in between, run together into one. -/
def Token.joins : Token → Token → Bool
  | .identifier _, .identifier _ => true
  | .identifier _, .integer _ => true
  | .integer _, .integer _ => true
  | _, _ => false

/-- Tokens that can be written next to one another. -/
def Apart (tokens : List Token) : Prop :=
  tokens.IsChain fun a b => a.joins b = false

/-- An integer that is written with digits alone. -/
def Natural (n : Int) : Prop :=
  0 ≤ n ∧ n ≤ greatestInteger

/-- Every integer among some tokens is written with digits alone. -/
def Naturals (tokens : List Token) : Prop :=
  ∀ n, .integer n ∈ tokens → Natural n

theorem chineseDigit?_le {c : Char} {n : Nat} (h : chineseDigit? c = some n) : n ≤ 10 := by
  have hle : ∀ d ∈ chineseDigits, d.2 ≤ 10 := by decide
  obtain ⟨l₁, l₂, hl, -⟩ := List.lookup_eq_some_iff.1 h
  exact hle (c, n) (by rw [hl]; simp)

/-- A run opens with decimal digits, with a Chinese digit, or with no numeral. -/
theorem leadingNumeral_cases {cs rest : List Char} {value? : Option Int}
    (h : leadingNumeral cs = .ok (value?, rest)) :
    (∃ c tail, cs = c :: tail ∧ inBounds (decimalValue (cs.takeWhile Char.isDigit)) = true ∧
        value? = some (decimalValue (cs.takeWhile Char.isDigit) : Int) ∧
        rest = cs.dropWhile Char.isDigit) ∨
      (∃ c n, cs = c :: rest ∧ chineseDigit? c = some n ∧ value? = some (n : Int)) ∨
      (value? = none ∧ rest = cs ∧ ∀ c ∈ cs.head?, c.isDigit = false ∧ chineseDigit? c = none) := by
  unfold leadingNumeral at h
  split at h
  · cases h
    exact .inr (.inr ⟨rfl, rfl, by simp⟩)
  · rename_i c tail
    by_cases hc : c.isDigit = true
    · rw [if_pos hc] at h
      dsimp only at h
      by_cases hb : inBounds (decimalValue ((c :: tail).takeWhile Char.isDigit)) = true
      · rw [if_pos hb] at h
        cases h
        exact .inl ⟨c, tail, rfl, hb, rfl, rfl⟩
      · rw [if_neg hb] at h
        cases h
    · rw [if_neg hc] at h
      cases hn : chineseDigit? c with
      | some n =>
        rw [hn] at h
        cases h
        exact .inr (.inl ⟨c, n, rfl, hn, rfl⟩)
      | none =>
        rw [hn] at h
        cases h
        refine .inr (.inr ⟨rfl, rfl, ?_⟩)
        rintro _ ⟨⟩
        exact ⟨by simpa using hc, hn⟩

theorem natural_of_leadingNumeral {cs rest : List Char} {n : Int}
    (h : leadingNumeral cs = .ok (some n, rest)) : Natural n := by
  rcases leadingNumeral_cases h with ⟨_, _, -, hb, hn, -⟩ | ⟨_, m, -, hm, hn⟩ | ⟨hn, -⟩
  · cases hn
    simp only [inBounds, Bool.and_eq_true, decide_eq_true_eq] at hb
    exact ⟨Int.natCast_nonneg _, hb.2⟩
  · cases hn
    have := chineseDigit?_le hm
    simp only [Natural, greatestInteger]
    omega
  · cases hn

/-- A run is at most one integer and then at most one identifier. -/
theorem exists_of_runTokens {cs : List Char} {tokens : List Token} (h : runTokens cs = .ok tokens) :
    ∃ (value? : Option Int) (name? : Option String),
      tokens = (value?.map Token.integer).toList ++ (name?.map Token.identifier).toList ∧
        ∀ n ∈ value?, Natural n := by
  unfold runTokens at h
  split at h
  · simp at h
  · rename_i value? rest hn
    simp only [Except.ok.injEq] at h
    refine ⟨value?, if rest.isEmpty then none else some (String.ofList rest), ?_, ?_⟩
    · rw [← h]
      by_cases hr : rest.isEmpty <;> simp [hr]
    · rintro n rfl
      exact natural_of_leadingNumeral hn

theorem apart_of_runTokens {cs : List Char} {tokens : List Token}
    (h : runTokens cs = .ok tokens) : Apart tokens := by
  obtain ⟨value?, name?, rfl, -⟩ := exists_of_runTokens h
  cases value? <;> cases name? <;> simp [Apart, Token.joins]

theorem naturals_of_runTokens {cs : List Char} {tokens : List Token}
    (h : runTokens cs = .ok tokens) : Naturals tokens := by
  obtain ⟨value?, name?, rfl, hn⟩ := exists_of_runTokens h
  intro n hmem
  apply hn
  cases value? <;> cases name? <;> simp_all

/-- A boundary joins neither what stands before it nor what stands after it. -/
theorem apart_append_cons {front more : List Token} {b : Token} (hl : ∀ t : Token, t.joins b = false)
    (hr : ∀ t, b.joins t = false) (hf : Apart front) (hm : Apart more) :
    Apart (front ++ b :: more) := by
  refine List.isChain_append.2 ⟨hf, List.isChain_cons.2 ⟨fun t _ => hr t, hm⟩, ?_⟩
  intro t _ u hu
  cases hu
  exact hl t

theorem joins_keyword (t : Token) (k : Keyword) : t.joins (.keyword k) = false := by
  cases t <;> rfl

theorem joins_string (t : Token) (s : String) : t.joins (.string s) = false := by
  cases t <;> rfl

theorem apart_of_tokensOf {run : List Char} {lexemes : List Lexeme} {tokens : List Token}
    (h : tokensOf run lexemes = .ok tokens) : Apart tokens := by
  induction lexemes generalizing run tokens with
  | nil => exact apart_of_runTokens h
  | cons lexeme rest ih =>
    cases lexeme with
    | char c => exact ih h
    | keyword k =>
      obtain ⟨front, more, hf, hm, rfl⟩ := exists_of_closeRun h
      exact apart_append_cons (joins_keyword · k) (fun _ => rfl) (apart_of_runTokens hf) (ih hm)
    | string text =>
      obtain ⟨front, more, hf, hm, rfl⟩ := exists_of_closeRun h
      exact apart_append_cons (joins_string · _) (fun _ => rfl) (apart_of_runTokens hf) (ih hm)

theorem naturals_of_tokensOf {run : List Char} {lexemes : List Lexeme} {tokens : List Token}
    (h : tokensOf run lexemes = .ok tokens) : Naturals tokens := by
  induction lexemes generalizing run tokens with
  | nil => exact naturals_of_runTokens h
  | cons lexeme rest ih =>
    cases lexeme with
    | char c => exact ih h
    | keyword k | string text =>
      obtain ⟨front, more, hf, hm, rfl⟩ := exists_of_closeRun h
      intro n hn
      rcases List.mem_append.1 hn with hn | hn
      · exact naturals_of_runTokens hf n hn
      · exact ih hm n (by simpa using hn)

theorem apart_of_tokenize {source : String} {tokens : List Token}
    (h : tokenize source = .ok tokens) : Apart tokens :=
  apart_of_tokensOf (tokenize_eq_tokensOf source ▸ h)

theorem naturals_of_tokenize {source : String} {tokens : List Token}
    (h : tokenize source = .ok tokens) : Naturals tokens :=
  naturals_of_tokensOf (tokenize_eq_tokensOf source ▸ h)

end Laoke
