/-!
# Texts counted in bytes
-/

namespace Laoke.Text

/-- The number of bytes of a text. -/
def byteSize (cs : List Char) : Nat :=
  (String.ofList cs).utf8ByteSize

/-- A text without its first `n` bytes, if these are whole characters. -/
def dropBytes? : Nat → List Char → Option (List Char)
  | 0, cs => some cs
  | _ + 1, [] => none
  | n + 1, c :: cs => if c.utf8Size ≤ n + 1 then dropBytes? (n + 1 - c.utf8Size) cs else none

end Laoke.Text
