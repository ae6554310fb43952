import Laoke.Text.Bytes
import Laoke.Text.Cluster

/-!
# Lines with backspaces

A backspace in a line takes back the cluster before it.  Clusters are those of
the line as it was typed, so a mark after a backspace stands by itself.
-/

namespace Laoke.Text

/-- A line being typed. -/
structure Typed where
  /-- The characters that stand, the last one first. -/
  backward : List Char := []
  /-- The bytes that each further backspace takes back, the next one first.  A count is kept in
  one byte. -/
  sizes : List UInt8 := []
  deriving DecidableEq, Repr

/-- The backspace. -/
def backspace : Char := '\x08'

/-- Types a cluster. -/
def Typed.type (t : Typed) (cluster : List Char) : Typed :=
  if cluster = [backspace] then
    match t.sizes with
    | [] => t
    | n :: sizes => ⟨(dropBytes? n.toNat t.backward).getD t.backward, sizes⟩
  else ⟨cluster.reverse ++ t.backward, (byteSize cluster).toUInt8 :: t.sizes⟩

/-- What stands in a line after all its backspaces. -/
def applyBackspaces (line : List Char) : List Char :=
  ((clusters line).foldl Typed.type {}).backward.reverse

end Laoke.Text
