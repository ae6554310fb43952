import Laoke.Text.Conjunct
import Laoke.Text.Mark
import Laoke.Text.Pictograph
import Laoke.Text.SpacingMark

/-!
# Clusters

What a reader takes for one character may be written with several: a letter with
its accents, a syllable of Hangul, a flag, a picture joined from others.  A text
falls into such clusters in one way.  Whether two neighbours belong together
follows from their classes and, for flags, joined pictures and conjuncts, from a
little of what stands before them; a `Seam` keeps just that.  These are the
extended grapheme clusters of Unicode.
-/

namespace Laoke.Text

/-- The classes of characters that the rules on clusters tell apart. -/
inductive BreakClass where
  | carriageReturn
  | lineFeed
  | control
  /-- Belongs to the character before it. -/
  | extend
  /-- Ties pictures together. -/
  | joiner
  /-- Half of a flag. -/
  | regional
  /-- Belongs to the character after it. -/
  | prepend
  | spacing
  | pictograph
  /-- A Hangul consonant that opens a syllable. -/
  | opening
  /-- A Hangul vowel. -/
  | vowel
  /-- A Hangul consonant that closes a syllable. -/
  | closing
  /-- A Hangul syllable without a closing consonant. -/
  | openSyllable
  /-- A Hangul syllable with a closing consonant. -/
  | closedSyllable
  | other
  deriving DecidableEq, Repr

/-- The code points of controls and of format characters that stand for themselves. -/
def controlRanges : List (Nat × Nat) :=
  [(0x0, 0x1F), (0x7F, 0x9F), (0xAD, 0xAD), (0x61C, 0x61C), (0x180E, 0x180E), (0x200B, 0x200B),
   (0x200E, 0x200F), (0x2028, 0x202E), (0x2060, 0x206F), (0xFEFF, 0xFEFF), (0xFFF0, 0xFFFB),
   (0x13430, 0x1343F), (0x1BCA0, 0x1BCA3), (0x1D173, 0x1D17A), (0xE0000, 0xE001F),
   (0xE0080, 0xE00FF), (0xE01F0, 0xE0FFF)]

/-- The code points of the characters that belong to the one after them. -/
def prependRanges : List (Nat × Nat) :=
  [(0x600, 0x605), (0x6DD, 0x6DD), (0x70F, 0x70F), (0x890, 0x891), (0x8E2, 0x8E2), (0xD4E, 0xD4E),
   (0x110BD, 0x110BD), (0x110CD, 0x110CD), (0x111C2, 0x111C3), (0x113D1, 0x113D1),
   (0x1193F, 0x1193F), (0x11941, 0x11941), (0x11A84, 0x11A89), (0x11D46, 0x11D46),
   (0x11F02, 0x11F02)]

/-- The code points of the characters that belong to the one before them and are no marks: the
non-joiner, the halfwidth sound marks, the shades of skin and the tags. -/
def extenderRanges : List (Nat × Nat) :=
  [(0x200C, 0x200C), (0xFF9E, 0xFF9F), (0x1F3FB, 0x1F3FF), (0xE0020, 0xE007F)]

/-- The code points of the Hangul consonants that open a syllable. -/
def openingRanges : List (Nat × Nat) :=
  [(0x1100, 0x115F), (0xA960, 0xA97C)]

/-- The code points of the Hangul vowels, and of vowel signs that combine like them. -/
def vowelRanges : List (Nat × Nat) :=
  [(0x1160, 0x11A7), (0xD7B0, 0xD7C6), (0x16D63, 0x16D63), (0x16D67, 0x16D6A)]

/-- The code points of the Hangul consonants that close a syllable. -/
def closingRanges : List (Nat × Nat) :=
  [(0x11A8, 0x11FF), (0xD7CB, 0xD7FB)]

/-- The joiner. -/
def joinerMark : Char := '\u200d'

/-- The mark that keeps characters from joining. -/
def nonJoinerMark : Char := '\u200c'

/-- The class of a character. -/
def breakClass (c : Char) : BreakClass :=
  let n := c.toNat
  if c = '\r' then .carriageReturn
  else if c = '\n' then .lineFeed
  else if c = joinerMark then .joiner
  else if inRanges controlRanges n then .control
  else if isMark c || inRanges extenderRanges n then .extend
  else if 0x1F1E6 ≤ n && n ≤ 0x1F1FF then .regional
  else if inRanges prependRanges n then .prepend
  else if isSpacingMark c then .spacing
  else if isPictograph c then .pictograph
  else if inRanges openingRanges n then .opening
  else if inRanges vowelRanges n then .vowel
  else if inRanges closingRanges n then .closing
  else if 0xAC00 ≤ n && n ≤ 0xD7A3 then
    if (n - 0xAC00) % 28 = 0 then .openSyllable else .closedSyllable
  else .other

/-- How far a text has come with two linked consonants. -/
inductive Conjunct where
  | none
  /-- A consonant, perhaps with marks. -/
  | begun
  /-- A consonant and a linking sign. -/
  | linked
  deriving DecidableEq, Repr

/-- What of a text decides whether the next character belongs to its last cluster. -/
structure Seam where
  /-- The class of the last character. -/
  last : BreakClass
  /-- Whether the text ends in a pictograph, marks on it, and perhaps a joiner. -/
  pictograph : Bool
  /-- Whether the text ends in an odd number of halves of flags. -/
  halfFlag : Bool
  conjunct : Conjunct
  deriving DecidableEq, Repr

namespace Seam

/-- The seam after the first character of a text. -/
def start (c : Char) : Seam where
  last := breakClass c
  pictograph := breakClass c = .pictograph
  halfFlag := breakClass c = .regional
  conjunct := if isConsonant c then .begun else .none

/-- The seam after one more character. -/
def next (s : Seam) (c : Char) : Seam :=
  let follows := breakClass c = .extend || breakClass c = .joiner
  { last := breakClass c
    pictograph :=
      breakClass c = .pictograph || (s.pictograph && s.last ≠ .joiner && follows)
    halfFlag := breakClass c = .regional && !s.halfFlag
    conjunct :=
      if isConsonant c then .begun
      else if s.conjunct = .none then .none
      else if isLinker c then .linked
      else if follows && c ≠ nonJoinerMark then s.conjunct
      else .none }

/-- Whether a character belongs to the last cluster of the text before it. -/
def joins (s : Seam) (c : Char) : Bool :=
  match s.last, breakClass c with
  | .carriageReturn, .lineFeed => true
  | .carriageReturn, _ | .lineFeed, _ | .control, _ => false
  | _, .carriageReturn | _, .lineFeed | _, .control => false
  | .opening, .opening | .opening, .vowel | .opening, .openSyllable
  | .opening, .closedSyllable => true
  | .openSyllable, .vowel | .openSyllable, .closing | .vowel, .vowel | .vowel, .closing => true
  | .closedSyllable, .closing | .closing, .closing => true
  | _, .extend | _, .joiner | _, .spacing | .prepend, _ => true
  | .joiner, .pictograph => s.pictograph
  | .regional, .regional => s.halfFlag
  | _, _ => s.conjunct = .linked && isConsonant c

end Seam

/-- What is left of the last cluster of the text before, and the clusters after it. -/
def clustersFrom (s : Seam) : List Char → List Char × List (List Char)
  | [] => ([], [])
  | c :: rest =>
    let (same, later) := clustersFrom (s.next c) rest
    if s.joins c then (c :: same, later) else ([], (c :: same) :: later)

/-- The clusters of a text. -/
def clusters : List Char → List (List Char)
  | [] => []
  | c :: rest =>
    let (same, later) := clustersFrom (.start c) rest
    (c :: same) :: later

theorem clustersFrom_flatten (s : Seam) (cs : List Char) :
    (clustersFrom s cs).1 ++ (clustersFrom s cs).2.flatten = cs := by
  induction cs generalizing s with
  | nil => rfl
  | cons c rest ih =>
    unfold clustersFrom
    dsimp only
    split
    · exact congrArg (c :: ·) (ih (s.next c))
    · exact congrArg (c :: ·) (ih (s.next c))

/-- **A text is the concatenation of its clusters.** -/
theorem clusters_flatten (cs : List Char) : (clusters cs).flatten = cs := by
  cases cs with
  | nil => rfl
  | cons c rest => exact congrArg (c :: ·) (clustersFrom_flatten (.start c) rest)

end Laoke.Text
