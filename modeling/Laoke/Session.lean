import Laoke.Pipeline
import Laoke.Text.Bytes

/-!
# Sessions

A session grows a program line by line.  Each line is tried at the end of all
that was accepted before it, and only the output that was not shown yet is
reported.  A line that leaves a statement unfinished waits for the next one; a
line that fails is dropped together with those that waited for it.  A line whose
error is fatal is the last one of its session.
-/

namespace Laoke

/-- A program being entered. -/
structure Session where
  options : ScriptOptions := {}
  /-- The text accepted so far. -/
  source : String := ""
  /-- The lines of an unfinished statement. -/
  pending : String := ""
  /-- The length in bytes of the output shown so far. -/
  shown : Nat := 0
  deriving DecidableEq, Repr

/-- The answer to a line. -/
inductive Reply where
  /-- The line was accepted, with this new output. -/
  | output (text : String)
  /-- The line is part of an unfinished statement. -/
  | incomplete
  /-- The line was dropped. -/
  | rejected (e : Error)
  deriving DecidableEq, Repr

namespace Session

/-- Whether a statement waits for more lines. -/
def isPending (s : Session) : Bool :=
  !s.pending.isEmpty

/-- What is left of an output after the part that was shown. -/
def unseen (s : Session) (output : String) : String :=
  String.ofList ((Text.dropBytes? s.shown output.toList).getD [])

/-- Enters a line. -/
def eval (s : Session) (line : String) : Reply × Session :=
  let candidate := s.source ++ s.pending ++ line ++ "\n"
  match run s.options candidate with
  | .ok output =>
    (.output (s.unseen output),
      { s with source := candidate, pending := "", shown := output.utf8ByteSize })
  | .error (.parse (.unexpectedEnd _)) =>
    (.incomplete, { s with pending := s.pending ++ line ++ "\n" })
  | .error e => (.rejected e, { s with pending := "" })

/-- The script of the accepted text. -/
def code (s : Session) : Except Error String :=
  compileToScript s.options s.source

/-- The session with everything forgotten. -/
def reset (s : Session) : Session :=
  { options := s.options }

end Session

end Laoke
