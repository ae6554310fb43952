import Laoke.Lexeme
import Laoke.Numeral

/-!
# The tokens of a text, one at a time

A token stream reads no further than it must.  Each step gathers a run of
single characters up to the next keyword or string, breaks the run into tokens,
and hands these out before that keyword or string.  A numeral that is too large
ends the stream with an error.
-/

namespace Laoke

/-- A run of single characters and what ends it. -/
structure Run where
  letters : List Char
  /-- The keyword or string after the run; nothing if the text ends there. -/
  boundary? : Option Token
  /-- The position after the boundary. -/
  after : Scanner
  deriving DecidableEq, Repr

namespace Scanner

/-- Reads a run of single characters and the keyword or string after it, if there is one. -/
def readRun (s : Scanner) : Run :=
  match h : s.next? with
  | none => ⟨[], none, s⟩
  | some (.char c, t) =>
    have := size_lt_of_next? h
    let run := readRun t
    { run with letters := c :: run.letters }
  | some (.keyword k, t) => ⟨[], some (.keyword k), t⟩
  | some (.string text, t) => ⟨[], some (.string (String.ofList text)), t⟩
termination_by s.size

theorem size_readRun_le (s : Scanner) : s.readRun.after.size ≤ s.size := by
  fun_induction readRun s with
  | case1 s h => exact Nat.le_refl _
  | case2 s c t h hlt run ih => exact Nat.le_trans ih (Nat.le_of_lt hlt)
  | case3 s k t h => exact Nat.le_of_lt (size_lt_of_next? h)
  | case4 s text t h => exact Nat.le_of_lt (size_lt_of_next? h)

theorem size_readRun_lt {s : Scanner} (hb : s.readRun.boundary?.isSome) :
    s.readRun.after.size < s.size := by
  fun_induction readRun s with
  | case1 s h => simp at hb
  | case2 s c t h hlt run ih => exact Nat.lt_trans (ih hb) hlt
  | case3 s k t h => exact size_lt_of_next? h
  | case4 s text t h => exact size_lt_of_next? h

end Scanner

/-- A text being read into tokens. -/
structure TokenStream where
  scanner : Scanner
  /-- Tokens read and not yet handed out. -/
  ready : List Token := []
  /-- Whether nothing follows the tokens that are ready. -/
  finished : Bool := false
  deriving DecidableEq, Repr

namespace TokenStream

/-- The tokens of a text. -/
def ofText (source : String) : TokenStream :=
  { scanner := .ofText source }

/-- The next token, or the error that ends the stream. -/
def next? (s : TokenStream) : Option (Except LexicalError Token × TokenStream) :=
  match s.ready with
  | t :: ready => some (.ok t, { s with ready })
  | [] =>
    if s.finished then none
    else
      let run := s.scanner.readRun
      match runTokens run.letters with
      | .error e => some (.error e, { scanner := run.after, ready := [], finished := true })
      | .ok tokens =>
        match tokens ++ run.boundary?.toList with
        | [] => none
        | t :: ready =>
          some (.ok t, { scanner := run.after, ready, finished := run.boundary?.isNone })

/-- The stream after it was asked once more.  Once it has nothing to hand out, it is finished. -/
def advance (s : TokenStream) : TokenStream :=
  match s.next? with
  | some (_, t) => t
  | none => { s with finished := true }

/-- A measure of how much is still to be read and handed out. -/
def size (s : TokenStream) : Nat :=
  4 * s.scanner.size + s.ready.length + if s.finished then 0 else 2

end TokenStream

theorem length_runTokens_le {cs : List Char} {tokens : List Token} (h : runTokens cs = .ok tokens) :
    tokens.length ≤ 2 := by
  unfold runTokens at h
  split at h
  · exact absurd h (by simp)
  · rename_i value? rest _
    simp only [Except.ok.injEq] at h
    rw [← h]
    cases value? <;> by_cases hr : rest.isEmpty <;> simp [hr]

namespace TokenStream

/-- **Every item makes progress.** -/
theorem size_lt_of_next? {s t : TokenStream} {item : Except LexicalError Token}
    (h : s.next? = some (item, t)) : t.size < s.size := by
  unfold next? at h
  split at h
  · rename_i u ready hr
    simp only [Option.some.injEq, Prod.mk.injEq] at h
    rw [← h.2]
    simp [size, hr]
  · rename_i hr
    split at h
    · exact absurd h (by simp)
    · rename_i hf
      have hle := s.scanner.size_readRun_le
      have hlt := @Scanner.size_readRun_lt s.scanner
      dsimp only at h
      split at h
      · simp only [Option.some.injEq, Prod.mk.injEq] at h
        rw [← h.2]
        simp only [size, hr, hf, List.length_nil, Bool.false_eq_true, ↓reduceIte]
        omega
      · rename_i tokens htokens
        have htwo := length_runTokens_le htokens
        split at h
        · exact absurd h (by simp)
        · rename_i u ready hready
          have hlen := congrArg List.length hready
          simp only [Option.some.injEq, Prod.mk.injEq] at h
          rw [← h.2]
          cases hb : s.scanner.readRun.boundary? with
          | none =>
            simp only [hb, Option.toList_none, List.append_nil, List.length_cons] at hlen
            simp only [size, hr, hf, Option.isNone_none, List.length_nil, Bool.false_eq_true,
              ↓reduceIte]
            omega
          | some b =>
            have := hlt (by simp [hb])
            simp only [hb, Option.toList_some, List.length_append, List.length_cons,
              List.length_nil] at hlen
            simp only [size, hr, hf, Option.isNone_some, List.length_nil, Bool.false_eq_true,
              ↓reduceIte]
            omega

/-- Everything a stream hands out: its tokens, and last the error that ends it, if one does. -/
def items (s : TokenStream) : List (Except LexicalError Token) :=
  match h : s.next? with
  | none => []
  | some (item, t) =>
    have := size_lt_of_next? h
    item :: items t
termination_by s.size

end TokenStream

/-- The values of a list of results, or the first error in it. -/
def gather {ε α : Type} : List (Except ε α) → Except ε (List α)
  | [] => .ok []
  | .error e :: _ => .error e
  | .ok a :: rest =>
    match gather rest with
    | .ok as => .ok (a :: as)
    | .error e => .error e

/-- All tokens of a text. -/
def tokenize (source : String) : Except LexicalError (List Token) :=
  gather (TokenStream.ofText source).items

end Laoke
