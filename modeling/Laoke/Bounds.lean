/-!
# The range of the language's integers

Integers are exact and bounded: a value is a signed number of 64 bits, and a
result outside that range is an error rather than a wrapped number.  The length of
a text is bounded too.
-/

namespace Laoke

/-- The least integer of the language. -/
def leastInteger : Int := -9223372036854775808

/-- The greatest integer of the language. -/
def greatestInteger : Int := 9223372036854775807

/-- Whether a number is an integer of the language. -/
def inBounds (n : Int) : Bool :=
  leastInteger ≤ n && n ≤ greatestInteger

/-- The greatest length of a text, in bytes. -/
def greatestLength : Nat := 9223372036854775807

end Laoke
