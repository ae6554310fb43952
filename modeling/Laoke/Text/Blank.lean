import Laoke.Text.Ranges

/-!
# White space

The characters with the Unicode property `White_Space`.  Program text and
script text skip the same blanks.
-/

namespace Laoke.Text

/-- The code points of the blank characters. -/
def blankRanges : List (Nat × Nat) :=
  [(0x9, 0xD), (0x20, 0x20), (0x85, 0x85), (0xA0, 0xA0), (0x1680, 0x1680), (0x2000, 0x200A),
   (0x2028, 0x2029), (0x202F, 0x202F), (0x205F, 0x205F), (0x3000, 0x3000)]

/-- Whether a character is white space. -/
def isBlank (c : Char) : Bool :=
  inRanges blankRanges c.toNat

/-- A text without the blanks at its start. -/
def trimStart (cs : List Char) : List Char :=
  cs.dropWhile isBlank

/-- A text without the blanks at its start and at its end. -/
def trim (cs : List Char) : List Char :=
  (trimStart (trimStart cs).reverse).reverse

end Laoke.Text
