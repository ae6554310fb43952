/-!
# Repeated text and lines
-/

namespace Laoke.Text

/-- A text written `n` times in a row.  The empty text needs no counting. -/
def repeated (s : String) (n : Nat) : String :=
  if s.isEmpty then "" else String.ofList (List.replicate n s.toList).flatten

theorem toList_repeated (s : String) (n : Nat) :
    (repeated s n).toList = (List.replicate n s.toList).flatten := by
  unfold repeated
  split
  · rename_i h
    rw [String.isEmpty_iff.1 h]
    simp
  · rw [String.toList_ofList]

theorem utf8ByteSize_repeated (s : String) (n : Nat) :
    (repeated s n).utf8ByteSize = s.utf8ByteSize * n := by
  induction n with
  | zero =>
    have hnone : repeated s 0 = "" := String.toList_inj.1 (toList_repeated s 0)
    rw [hnone]
    rfl
  | succ n ih =>
    have hmore : repeated s (n + 1) = s ++ repeated s n := by
      apply String.toList_inj.1
      rw [String.toList_append, toList_repeated, toList_repeated, List.replicate_succ,
        List.flatten_cons]
    rw [hmore, String.utf8ByteSize_append, ih, Nat.mul_succ, Nat.add_comm]

/-- Lines joined by line feeds, with none at the end. -/
def joinLines : List String → String
  | [] => ""
  | [line] => line
  | line :: more => line ++ "\n" ++ joinLines more

/-- The lines of a text.  A line ends at a line feed, and a carriage return right before that
belongs to the line end; a last line needs none. -/
def splitLines : List Char → List (List Char)
  | [] => []
  | '\n' :: rest => [] :: splitLines rest
  | '\r' :: '\n' :: rest => [] :: splitLines rest
  | c :: rest =>
    match splitLines rest with
    | [] => [[c]]
    | line :: lines => (c :: line) :: lines

end Laoke.Text
