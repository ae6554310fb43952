import Laoke.Proofs.Lexing
import Laoke.Script.Line

/-!
# Script tokens written down and read back

A token of a script is written as its name, its digits, its quoted text or its
mark.  Reading takes as much as it can, so a token is read back when the text
behind it does not go on with it (`Token.Ends`).

* `tokenizeLine_spelling`: one token is read back and the rest is read after it.
* `Written ts cs`: the characters `cs` are the tokens `ts`, with blanks between
  some of them; `Written.tokenizeLine` reads them back.
-/

namespace Laoke.Script

/-! ### Classes of characters -/

theorem isBlank_cases {c : Char} (h : Text.isBlank c = true) :
    c.toNat ∈ [0x9, 0xA, 0xB, 0xC, 0xD, 0x20, 0x85, 0xA0, 0x1680, 0x2000, 0x2001, 0x2002, 0x2003,
      0x2004, 0x2005, 0x2006, 0x2007, 0x2008, 0x2009, 0x200A, 0x2028, 0x2029, 0x202F, 0x205F,
      0x3000] := by
  simp only [Text.isBlank, Text.blankRanges, Text.inRanges] at h
  simp only [List.mem_cons, List.not_mem_nil, or_false]
  simp only [Bool.if_false_left, Bool.and_eq_true, Bool.not_eq_true', decide_eq_false_iff_not,
    Bool.or_eq_true, decide_eq_true_eq, Bool.or_false] at h
  omega

/-- No name starts with a blank. -/
theorem isBlank_of_isNameStart {c : Char} (h : isNameStart c = true) : Text.isBlank c = false := by
  cases hb : Text.isBlank c with
  | false => rfl
  | true =>
    have hblanks : ∀ n ∈ [0x9, 0xA, 0xB, 0xC, 0xD, 0x20, 0x85, 0xA0, 0x1680, 0x2000, 0x2001, 0x2002,
        0x2003, 0x2004, 0x2005, 0x2006, 0x2007, 0x2008, 0x2009, 0x200A, 0x2028, 0x2029, 0x202F,
        0x205F, 0x3000], Text.inRanges Text.letterRanges n = false := by
      decide +kernel
    have hletter := hblanks _ (isBlank_cases hb)
    simp only [isNameStart, Text.isLetter, hletter, Bool.false_or, decide_eq_true_eq] at h
    rw [h] at hb
    exact absurd hb (by decide)

theorem le_toNat_of_isNameStart {c : Char} (h : isNameStart c = true) : 0x41 ≤ c.toNat := by
  simp only [isNameStart, Bool.or_eq_true, decide_eq_true_eq] at h
  rcases h with h | rfl
  · have hrange : ∀ rest : List (Nat × Nat), Text.inRanges ((0x41, 0x5A) :: rest) c.toNat = true →
        0x41 ≤ c.toNat := by
      intro rest hr
      by_contra hlt
      rw [Text.inRanges, if_pos (by omega)] at hr
      exact absurd hr (by simp)
    exact hrange _ h
  · decide

theorem isDigit_iff {c : Char} : c.isDigit = true ↔ 0x30 ≤ c.toNat ∧ c.toNat ≤ 0x39 :=
  Char.isDigit_iff_toNat

theorem isDigit_of_isNameStart {c : Char} (h : isNameStart c = true) : c.isDigit = false := by
  have hle := le_toNat_of_isNameStart h
  rw [← Bool.not_eq_true, isDigit_iff]
  omega

theorem isBlank_of_isDigit {c : Char} (h : c.isDigit = true) : Text.isBlank c = false := by
  obtain ⟨hlo, hhi⟩ := isDigit_iff.1 h
  cases hb : Text.isBlank c with
  | false => rfl
  | true =>
    have hcases := isBlank_cases hb
    simp only [List.mem_cons, List.not_mem_nil, or_false] at hcases
    omega

theorem ne_of_toNat_ne {c d : Char} (h : c.toNat ≠ d.toNat) : c ≠ d := fun he => h (he ▸ rfl)

theorem isNamePart_of_isDigit {c : Char} (h : c.isDigit = true) : isNamePart c = true := by
  obtain ⟨hlo, hhi⟩ := isDigit_iff.1 h
  have hrange : ∀ rest : List (Nat × Nat), Text.inRanges ((0x30, 0x39) :: rest) c.toNat = true := by
    intro rest
    rw [Text.inRanges, if_neg (by omega)]
    simp [hhi]
  have hnumber : Text.isNumber c = true := hrange _
  simp [isNamePart, hnumber]

theorem isNamePart_of_isNameStart {c : Char} (h : isNameStart c = true) : isNamePart c = true := by
  simp only [isNameStart, Bool.or_eq_true] at h
  rcases h with h | h <;> simp [isNamePart, h]

/-! ### Writing a token -/

/-- The characters of a token. -/
def Token.spelling : Token → List Char
  | .name x => x.toList
  | .int n => n.repr.toList
  | .str s => literalChars s.toList
  | .plus => ['+']
  | .minus => ['-']
  | .star => ['*']
  | .slash => ['/']
  | .leftParen => ['(']
  | .rightParen => [')']
  | .comma => [',']
  | .colon => [':']
  | .equal => ['=']
  | .plusEqual => ['+', '=']
  | .minusEqual => ['-', '=']

/-- Whether a token has a spelling that reads back: names are names and integers need no sign. -/
def Token.Spellable : Token → Prop
  | .name x => isName x.toList = true
  | .int n => Natural n
  | _ => True

/-- Whether a token ends where it does, given the characters after it. -/
def Token.Ends (rest : List Char) : Token → Prop
  | .name _ => ∀ c ∈ rest.head?, isNamePart c = false
  | .int _ => ∀ c ∈ rest.head?, c.isDigit = false
  | .plus => rest.head? ≠ some '='
  | .minus => rest.head? ≠ some '='
  | _ => True

/-! ### Reading it back -/

theorem tokenizeLine_nil (n : Nat) : tokenizeLine n [] = .ok [] := by
  rw [tokenizeLine]

theorem tokenizeLine_of_isBlank (n : Nat) {c : Char} (h : Text.isBlank c = true) (rest : List Char) :
    tokenizeLine n (c :: rest) = tokenizeLine n rest := by
  rw [tokenizeLine, if_pos h]

theorem tokenizeLine_of_tokenAt {n : Nat} {c : Char} {rest after : List Char} {t : Token}
    (hb : Text.isBlank c = false) (hc : c ≠ '#') (h : tokenAt n c rest = .ok (t, after)) :
    tokenizeLine n (c :: rest) = (tokenizeLine n after).map (t :: ·) := by
  rw [tokenizeLine, if_neg (by simp [hb]), if_neg hc]
  split
  · rename_i h'
    rw [h] at h'
    simp at h'
  · rename_i h'
    rw [h] at h'
    cases h'
    cases tokenizeLine n after <;> rfl

theorem takeWhile_append_of_head {p : Char → Bool} {cs rest : List Char} (hcs : ∀ c ∈ cs, p c = true)
    (hrest : ∀ c ∈ rest.head?, p c = false) :
    (cs ++ rest).takeWhile p = cs ∧ (cs ++ rest).dropWhile p = rest := by
  rw [List.takeWhile_append_of_pos hcs, List.dropWhile_append_of_pos hcs]
  cases rest with
  | nil => simp
  | cons c rest =>
    have hc := hrest c rfl
    simp [hc]

theorem readLiteral_of_unescape? {c d : Char} (h : unescape? c = some d) (cs : List Char) :
    readLiteral ('\\' :: c :: cs) = (readLiteral cs).map fun r => (d :: r.1, r.2) := by
  rw [readLiteral, h]
  cases readLiteral cs <;> rfl

theorem readLiteral_of_ne {c : Char} (hq : c ≠ '"') (hb : c ≠ '\\') (cs : List Char) :
    readLiteral (c :: cs) = (readLiteral cs).map fun r => (c :: r.1, r.2) := by
  rw [readLiteral.eq_def]
  split
  · rename_i h
    simp at h
  · rename_i h
    exact absurd (List.cons.inj h).1 hq
  · rename_i h
    exact absurd (List.cons.inj h).1 hb
  · rename_i h
    exact absurd (List.cons.inj h).1 hb
  · rename_i h
    obtain ⟨rfl, rfl⟩ := List.cons.inj h
    cases readLiteral cs <;> rfl

theorem readLiteral_escapeChar (c : Char) (cs : List Char) :
    readLiteral (escapeChar c ++ cs) = (readLiteral cs).map fun r => (c :: r.1, r.2) := by
  unfold escapeChar
  split_ifs with hq hb hn hr ht
  · rw [hq]; exact readLiteral_of_unescape? rfl cs
  · rw [hb]; exact readLiteral_of_unescape? rfl cs
  · rw [hn]; exact readLiteral_of_unescape? rfl cs
  · rw [hr]; exact readLiteral_of_unescape? rfl cs
  · rw [ht]; exact readLiteral_of_unescape? rfl cs
  · exact readLiteral_of_ne hq hb cs

/-- **A quoted text reads back**, whatever characters it has. -/
theorem readLiteral_escaped (cs rest : List Char) :
    readLiteral (cs.flatMap escapeChar ++ '"' :: rest) = .ok (cs, rest) := by
  induction cs with
  | nil => rfl
  | cons c cs ih =>
    rw [List.flatMap_cons, List.append_assoc, readLiteral_escapeChar, ih]
    rfl

theorem toList_repr_of_natural {n : Int} (h : Natural n) :
    n.repr.toList = Nat.toDigits 10 n.toNat := by
  obtain ⟨m, rfl⟩ := Int.eq_ofNat_of_zero_le h.1
  exact Nat.toList_repr

theorem tokenAt_name {x : String} {c : Char} {cs rest : List Char} (n : Nat)
    (hx : x.toList = c :: cs) (hn : isName x.toList = true)
    (hrest : ∀ d ∈ rest.head?, isNamePart d = false) :
    tokenAt n c (cs ++ rest) = .ok (.name x, rest) := by
  rw [hx, isName, Bool.and_eq_true, List.all_eq_true] at hn
  obtain ⟨ht, hd⟩ := takeWhile_append_of_head hn.2 hrest
  have hquote : c ≠ '"' := ne_of_toNat_ne (by have := le_toNat_of_isNameStart hn.1; simp; omega)
  unfold tokenAt
  rw [if_neg (by simp [isDigit_of_isNameStart hn.1]), if_neg hquote, if_pos hn.1, ht, hd, ← hx,
    String.ofList_toList]

theorem tokenAt_int {n : Int} {c : Char} {cs rest : List Char} (line : Nat) (h : Natural n)
    (hn : n.repr.toList = c :: cs) (hrest : ∀ d ∈ rest.head?, d.isDigit = false) :
    tokenAt line c (cs ++ rest) = .ok (.int n, rest) := by
  have hdigits : ∀ d ∈ c :: cs, d.isDigit = true := by
    rw [← hn, toList_repr_of_natural h]
    exact fun d hd => Nat.isDigit_of_mem_toDigits (by decide) (by decide) hd
  have hvalue : (decimalValue (c :: cs) : Int) = n := by
    rw [← hn, toList_repr_of_natural h, decimalValue, Nat.ofDigitChars_ten_toDigits]
    exact Int.toNat_of_nonneg h.1
  have hbounds : inBounds n = true := by
    have hleast : leastInteger ≤ 0 := by decide
    simp only [inBounds, Bool.and_eq_true, decide_eq_true_eq]
    exact ⟨Int.le_trans hleast h.1, h.2⟩
  obtain ⟨ht, hd⟩ := takeWhile_append_of_head (fun d hd => hdigits d (List.mem_cons_of_mem _ hd)) hrest
  unfold tokenAt
  rw [if_pos (hdigits c List.mem_cons_self), ht, hd]
  simp only [hvalue, hbounds, ↓reduceIte]

theorem tokenAt_str (line : Nat) (s : String) (rest : List Char) :
    tokenAt line '"' (s.toList.flatMap escapeChar ++ '"' :: rest) = .ok (.str s, rest) := by
  unfold tokenAt
  rw [if_neg (by decide), if_pos rfl, readLiteral_escaped]
  simp only [String.ofList_toList]

theorem tokenAt_plus (line : Nat) {rest : List Char} (h : rest.head? ≠ some '=') :
    tokenAt line '+' rest = .ok (.plus, rest) := by
  unfold tokenAt
  rw [if_neg (by decide), if_neg (by decide), if_neg (by decide)]
  split <;> simp_all

theorem tokenAt_minus (line : Nat) {rest : List Char} (h : rest.head? ≠ some '=') :
    tokenAt line '-' rest = .ok (.minus, rest) := by
  unfold tokenAt
  rw [if_neg (by decide), if_neg (by decide), if_neg (by decide)]
  split <;> simp_all

theorem tokenizeLine_int {n : Int} (line : Nat) (h : Natural n) {rest : List Char}
    (hrest : ∀ d ∈ rest.head?, d.isDigit = false) :
    tokenizeLine line (n.repr.toList ++ rest) = (tokenizeLine line rest).map (.int n :: ·) := by
  cases hn : n.repr.toList with
  | nil => exact absurd (toList_repr_of_natural h ▸ hn) Nat.toDigits_ne_nil
  | cons c cs =>
    have hc : c.isDigit = true :=
      Nat.isDigit_of_mem_toDigits (b := 10) (n := n.toNat) (by decide) (by decide)
        (by rw [← toList_repr_of_natural h, hn]; exact List.mem_cons_self)
    have hash : c ≠ '#' := ne_of_toNat_ne (by have := isDigit_iff.1 hc; simp; omega)
    exact tokenizeLine_of_tokenAt (isBlank_of_isDigit hc) hash (tokenAt_int line h hn hrest)

theorem tokenizeLine_name {x : String} (line : Nat) (h : isName x.toList = true) {rest : List Char}
    (hrest : ∀ d ∈ rest.head?, isNamePart d = false) :
    tokenizeLine line (x.toList ++ rest) = (tokenizeLine line rest).map (.name x :: ·) := by
  cases hx : x.toList with
  | nil => simp [hx, isName] at h
  | cons c cs =>
    have hc : isNameStart c = true := by
      rw [hx, isName, Bool.and_eq_true] at h
      exact h.1
    have hash : c ≠ '#' := ne_of_toNat_ne (by have := le_toNat_of_isNameStart hc; simp; omega)
    exact tokenizeLine_of_tokenAt (isBlank_of_isNameStart hc) hash (tokenAt_name line hx h hrest)

/-- **A token is read back**, and what follows it is read after it. -/
theorem tokenizeLine_spelling (line : Nat) {t : Token} (h : t.Spellable) {rest : List Char}
    (hrest : t.Ends rest) :
    tokenizeLine line (t.spelling ++ rest) = (tokenizeLine line rest).map (t :: ·) := by
  cases t with
  | name x => exact tokenizeLine_name line h hrest
  | int n => exact tokenizeLine_int line h hrest
  | str s =>
    rw [Token.spelling, literalChars, List.append_assoc]
    exact tokenizeLine_of_tokenAt (by decide) (by decide) (tokenAt_str line s rest)
  | plus => exact tokenizeLine_of_tokenAt (by decide) (by decide) (tokenAt_plus line hrest)
  | minus => exact tokenizeLine_of_tokenAt (by decide) (by decide) (tokenAt_minus line hrest)
  | star | slash | leftParen | rightParen | comma | colon | equal | plusEqual | minusEqual =>
    exact tokenizeLine_of_tokenAt (by decide) (by decide) rfl

/-! ### Lines of tokens -/

/-- Characters that are some tokens, with spaces and tabs before them or between them. -/
inductive Written : List Token → List Char → Prop
  | nil : Written [] []
  | blank {c : Char} {ts : List Token} {cs : List Char} (hc : c = ' ' ∨ c = '\t')
      (h : Written ts cs) : Written ts (c :: cs)
  | token {t : Token} {ts : List Token} {cs : List Char} (ht : t.Spellable) (he : t.Ends cs)
      (h : Written ts cs) : Written (t :: ts) (t.spelling ++ cs)

theorem Written.space {ts : List Token} {cs : List Char} (h : Written ts cs) :
    Written ts (' ' :: cs) := .blank (.inl rfl) h

/-- **Tokens that are written down are read back.** -/
theorem Written.tokenizeLine {ts : List Token} {cs : List Char} (h : Written ts cs) (line : Nat) :
    tokenizeLine line cs = .ok ts := by
  induction h with
  | nil => exact tokenizeLine_nil line
  | blank hc _ ih =>
    rw [tokenizeLine_of_isBlank line (by rcases hc with rfl | rfl <;> decide), ih]
  | token ht he _ ih =>
    rw [tokenizeLine_spelling line ht he, ih]
    rfl

/-- A character that ends no line. -/
def Unbroken (c : Char) : Prop :=
  c ≠ '\n' ∧ c ≠ '\r'

theorem unbroken_of_isNamePart {c : Char} (h : isNamePart c = true) : Unbroken c := by
  constructor <;> rintro rfl <;> revert h <;> decide

theorem unbroken_of_mem_escapeChar {c d : Char} (h : d ∈ escapeChar c) : Unbroken d := by
  have two (e : Char) (he : Unbroken e) (h : d ∈ ['\\', e]) : Unbroken d := by
    rcases List.mem_cons.1 h with rfl | h
    · constructor <;> decide
    · rw [List.mem_singleton.1 h]
      exact he
  unfold escapeChar at h
  split_ifs at h with hq hb hn hr ht
  · exact two _ (by constructor <;> decide) h
  · exact two _ (by constructor <;> decide) h
  · exact two _ (by constructor <;> decide) h
  · exact two _ (by constructor <;> decide) h
  · exact two _ (by constructor <;> decide) h
  · rw [List.mem_singleton.1 h]
    exact ⟨hn, hr⟩

theorem isNamePart_of_mem_isName {cs : List Char} (h : isName cs = true) {c : Char} (hc : c ∈ cs) :
    isNamePart c = true := by
  cases cs with
  | nil => simp at hc
  | cons d cs =>
    rw [isName, Bool.and_eq_true, List.all_eq_true] at h
    rcases List.mem_cons.1 hc with rfl | hc
    · exact isNamePart_of_isNameStart h.1
    · exact h.2 c hc

theorem unbroken_of_mem_spelling {t : Token} (h : t.Spellable) {c : Char} (hc : c ∈ t.spelling) :
    Unbroken c := by
  cases t with
  | name x => exact unbroken_of_isNamePart (isNamePart_of_mem_isName h hc)
  | int n =>
    rw [Token.spelling, toList_repr_of_natural h] at hc
    exact unbroken_of_isNamePart
      (isNamePart_of_isDigit (Nat.isDigit_of_mem_toDigits (by decide) (by decide) hc))
  | str s =>
    rw [Token.spelling, literalChars, List.cons_append] at hc
    rcases List.mem_cons.1 hc with rfl | hc
    · constructor <;> decide
    · rcases List.mem_append.1 hc with hc | hc
      · obtain ⟨d, -, hd⟩ := List.mem_flatMap.1 hc
        exact unbroken_of_mem_escapeChar hd
      · rw [List.mem_singleton.1 hc]
        constructor <;> decide
  | plusEqual | minusEqual =>
    rcases List.mem_pair.1 hc with rfl | rfl <;> constructor <;> decide
  | plus | minus | star | slash | leftParen | rightParen | comma | colon | equal =>
    rw [List.mem_singleton.1 hc]
    constructor <;> decide

/-- A line of tokens is one line. -/
theorem Written.unbroken {ts : List Token} {cs : List Char} (h : Written ts cs) :
    ∀ c ∈ cs, Unbroken c := by
  induction h with
  | nil => simp
  | blank hc _ ih =>
    refine List.forall_mem_cons.2 ⟨?_, ih⟩
    rcases hc with rfl | rfl <;> constructor <;> decide
  | token ht _ _ ih =>
    intro c hc
    rcases List.mem_append.1 hc with hc | hc
    · exact unbroken_of_mem_spelling ht hc
    · exact ih c hc

end Laoke.Script
