import Laoke.Keyword
import Laoke.Text.Blank

/-!
# Lexemes

The smallest pieces of a program text: a keyword, the text of a string, or one
character that belongs to neither.  Blanks and comments between them are
skipped.  Keywords are looked for everywhere, even inside words; only right
after an opening quote is a text that starts with no keyword taken whole, up to
the closing quote.

`Scanner.next?` reads one lexeme and `Scanner.size` goes down with each, which is
what lets later readers recurse on it.
-/

namespace Laoke

/-- A piece of a program text. -/
inductive Lexeme where
  | keyword (word : Keyword)
  | string (text : List Char)
  | char (c : Char)
  deriving DecidableEq, Repr

/-- The mark that opens a comment. -/
def commentMark : Char := '#'

/-- The mark that closes a string. -/
def closingMark : Char := '”'

/-- What is left of a text after its layout; the flag says that a comment is still open.
A comment runs to the end of its line. -/
def skipLayoutFrom : Bool → List Char → List Char
  | _, [] => []
  | true, c :: cs => skipLayoutFrom (c != '\n') cs
  | false, c :: cs =>
    if Text.isBlank c then skipLayoutFrom false cs
    else if c = commentMark then skipLayoutFrom true cs
    else c :: cs

/-- What is left of a text after the blanks and comments at its start. -/
def skipLayout (cs : List Char) : List Char :=
  skipLayoutFrom false cs

/-- What the lexeme before means for the next one. -/
inductive ScanMode where
  /-- Nothing in particular. -/
  | plain
  /-- It was an opening quote: a string may follow. -/
  | opened
  /-- It was a string cut before its closing quote, which comes next. -/
  | closing
  deriving DecidableEq, Repr

/-- A position in a program text. -/
structure Scanner where
  rest : List Char
  mode : ScanMode := .plain
  deriving DecidableEq, Repr

namespace Scanner

/-- The start of a text. -/
def ofText (source : String) : Scanner :=
  ⟨source.toList, .plain⟩

/-- The lexeme at the start of a text that does not start with layout.  The flag says
that an opening quote stands before it. -/
def lexemeAt? (afterQuote : Bool) : List Char → Option (Lexeme × Scanner)
  | [] => none
  | c :: cs =>
    match Keyword.atStart? (c :: cs) with
    | some k =>
      some (.keyword k,
        ⟨(c :: cs).drop k.letters.length, if k = .openQuote then .opened else .plain⟩)
    | none =>
      if afterQuote then
        let text := (c :: cs).takeWhile (· != closingMark)
        match (c :: cs).dropWhile (· != closingMark) with
        | [] => some (.string text, ⟨[], .plain⟩)
        | _ :: rest => some (.string text, ⟨rest, .closing⟩)
      else
        some (.char c, ⟨cs, .plain⟩)

/-- The next lexeme and the position after it, or nothing at the end of the text. -/
def next? (s : Scanner) : Option (Lexeme × Scanner) :=
  match s.mode with
  | .closing => some (.keyword .closeQuote, ⟨s.rest, .plain⟩)
  | .opened => lexemeAt? true (skipLayout s.rest)
  | .plain => lexemeAt? false (skipLayout s.rest)

/-- A measure of how much is still to be read. -/
def size (s : Scanner) : Nat :=
  2 * s.rest.length + if s.mode = .closing then 1 else 0

end Scanner

theorem length_skipLayoutFrom_le (inComment : Bool) (cs : List Char) :
    (skipLayoutFrom inComment cs).length ≤ cs.length := by
  induction cs generalizing inComment with
  | nil => cases inComment <;> simp [skipLayoutFrom]
  | cons c cs ih =>
    cases inComment with
    | true => exact Nat.le_succ_of_le (ih _)
    | false =>
      unfold skipLayoutFrom
      split
      · exact Nat.le_succ_of_le (ih _)
      · split
        · exact Nat.le_succ_of_le (ih _)
        · exact Nat.le_refl _

theorem length_skipLayout_le (cs : List Char) : (skipLayout cs).length ≤ cs.length :=
  length_skipLayoutFrom_le false cs

theorem Keyword.length_letters_pos (k : Keyword) : 0 < k.letters.length := by
  cases k <;> decide

namespace Scanner

theorem size_lt_of_lexemeAt? {afterQuote : Bool} {cs : List Char} {lexeme : Lexeme} {s : Scanner}
    (h : lexemeAt? afterQuote cs = some (lexeme, s)) : s.size < 2 * cs.length := by
  cases cs with
  | nil => simp [lexemeAt?] at h
  | cons c cs =>
    simp only [lexemeAt?] at h
    split at h
    · rename_i k _
      have := k.length_letters_pos
      simp only [Option.some.injEq, Prod.mk.injEq] at h
      rw [← h.2]
      have hm : (if k = .openQuote then ScanMode.opened else .plain) ≠ .closing := by
        split <;> simp
      simp only [size, hm, ↓reduceIte, List.length_drop, List.length_cons]
      omega
    · split at h
      · split at h
        · simp only [Option.some.injEq, Prod.mk.injEq] at h
          rw [← h.2]
          simp [size]
        · rename_i d rest hd
          have hle := (List.dropWhile_sublist (l := c :: cs) (· != closingMark)).length_le
          rw [hd] at hle
          simp only [Option.some.injEq, Prod.mk.injEq] at h
          rw [← h.2]
          simp only [size, List.length_cons, ↓reduceIte] at *
          omega
      · simp only [Option.some.injEq, Prod.mk.injEq] at h
        rw [← h.2]
        simp [size]

/-- **Every lexeme makes progress.** -/
theorem size_lt_of_next? {s t : Scanner} {lexeme : Lexeme} (h : s.next? = some (lexeme, t)) :
    t.size < s.size := by
  have hle := length_skipLayout_le s.rest
  unfold next? at h
  split at h <;> rename_i hm
  · simp only [Option.some.injEq, Prod.mk.injEq] at h
    rw [← h.2]
    simp [size, hm]
  · have := size_lt_of_lexemeAt? h
    simp only [size] at *
    omega
  · have := size_lt_of_lexemeAt? h
    simp only [size] at *
    omega

end Scanner

end Laoke
