import Laoke.Script.Expression
import Laoke.Script.Line

/-!
# Blocks of a script

The lines of a block are indented alike, and the body of a loop is the block of
deeper lines right after its header.  A block ends at the first line that is
indented less.
-/

namespace Laoke.Script

namespace LineReader

/-- Reads the header of a loop: its counter, its start and its end. -/
def loopHeader : LineReader (String × Expr × Expr) := do
  expectWord "for"
  let counter ← identifier
  expectWord "in"
  expectWord "range"
  expectToken .leftParen "("
  let start ← expr
  expectToken .comma ","
  let stop ← expr
  expectToken .rightParen ")"
  expectToken .colon ":"
  lineEnd
  return (counter, start, stop)

/-- Reads the operator of an assignment. -/
def assignOperator : LineReader AssignOp := fun tokens =>
  match tokens with
  | .equal :: rest => .ok .set rest
  | .plusEqual :: rest => .ok .add rest
  | .minusEqual :: rest => .ok .sub rest
  | _ => .error .assignment tokens

/-- Reads a statement that is one line. -/
def simpleStatement : LineReader Statement := fun tokens =>
  match tokens with
  | .name "pass" :: rest => (do
    lineEnd
    return .pass : LineReader Statement) rest
  | _ => (do
    let name ← identifier
    let op ← assignOperator
    let value ← expr
    lineEnd
    return .assign name op value : LineReader Statement) tokens

end LineReader

namespace Line

/-- Whether a line is the header of a loop. -/
def isLoop (line : Line) : Bool :=
  line.tokens.head? = some (.name "for")

/-- Runs a reader on the tokens of a line. -/
def read {α : Type} (line : Line) (reader : LineReader α) : Except Error α :=
  match reader line.tokens with
  | .ok value _ => .ok value
  | .error wanted rest => .error (.ofSyntax line.number (.unexpectedToken wanted rest.head?))

end Line

/-- How far the next line is indented, if that is more than `indent`. -/
def bodyIndent? (indent : Nat) (lines : List Line) : Option Nat :=
  match lines with
  | [] => none
  | next :: _ => if indent < next.indent then some next.indent else none

/-- The statements of the block at the front of some lines, and the lines after it. -/
def block (indent : Nat) (lines : List Line) : Except Error (List Statement × List Line) :=
  match lines with
  | [] => .ok ([], [])
  | line :: rest =>
    if line.indent < indent then .ok ([], lines)
    else if indent < line.indent then .error (.ofSyntax line.number .unexpectedIndent)
    else if line.isLoop then
      match line.read LineReader.loopHeader with
      | .error e => .error e
      | .ok (counter, start, stop) =>
        match bodyIndent? indent rest with
        | none => .error (.ofSyntax line.number .missingBlock)
        | some inner =>
          match block inner rest with
          | .error e => .error e
          | .ok (body, after) =>
            if after.length ≤ rest.length then
              match block indent after with
              | .error e => .error e
              | .ok (more, last) => .ok (.forRange counter start stop body :: more, last)
            else .ok ([.forRange counter start stop body], after)
    else
      match line.read LineReader.simpleStatement with
      | .error e => .error e
      | .ok s =>
        match block indent rest with
        | .error e => .error e
        | .ok (more, last) => .ok (s :: more, last)
termination_by lines.length

/-- The statements of a script. -/
def parse (code : String) : Except Error (List Statement) :=
  match readLines code with
  | .error e => .error e
  | .ok lines => (block 0 lines).map Prod.fst

end Laoke.Script
