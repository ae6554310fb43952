import Laoke.LogLevel
import Laoke.Pipeline

/-!
# The log of a run

What the stages report while they work, in order.  A stage that fails has
reported everything up to that point: the tokens before a numeral that is too
large, the statements completed before a token that does not fit, the loops
entered before an error.  All of it can be read off the stage's input, so the
stages themselves keep no log.
-/

namespace Laoke

/-- An entry of a log. -/
structure LogEntry where
  level : LogLevel
  message : String
  deriving DecidableEq, Repr

namespace LogEntry

/-- A character as a log shows it.  Controls that a terminal would obey are written out. -/
def shownChar (c : Char) : List Char :=
  if c = '\x1b' then ['\\', 'x', '1', 'b']
  else if c = '\x07' then ['\\', 'x', '0', '7']
  else if c = '\x08' then ['\\', 'x', '0', '8']
  else if c = '\x0c' then ['\\', 'x', '0', 'c']
  else if c = '\x7f' then ['\\', 'x', '7', 'f']
  else if 0x80 ≤ c.toNat && c.toNat ≤ 0x9F then Text.numberedChar c
  else [c]

/-- The line of an entry. -/
def line (entry : LogEntry) : String :=
  entry.level.tag ++ " " ++ String.ofList (entry.message.toList.flatMap shownChar) ++ "\n"

end LogEntry

/-- A log, in order. -/
abbrev Journal := List LogEntry

namespace Journal

/-- The lines of the entries that a log of the given level shows. -/
def shown (level : LogLevel) (journal : Journal) : String :=
  String.join ((journal.filter fun entry => level.shows entry.level).map LogEntry.line)

/-- The lines that a log of the given level shows of what the stages report.  They report nothing
above `debug`, so a log that starts higher is not worked out. -/
def stageLines (level : LogLevel) (journal : Unit → Journal) : String :=
  if level.shows .debug then (journal ()).shown level else ""

/-- What is reported of a token. -/
def tokenEntry : Token → LogEntry
  | .keyword k => ⟨.trace, "keyword " ++ k.spelling⟩
  | .identifier s => ⟨.trace, "identifier " ++ s⟩
  | .string s => ⟨.trace, "string " ++ Text.quoted s⟩
  | .integer n => ⟨.trace, "integer " ++ n.repr⟩

/-- The tokens of a stream up to its end or its error. -/
def readTokens : List (Except LexicalError Token) → List Token
  | .ok t :: more => t :: readTokens more
  | _ => []

/-- The log of reading a text into tokens. -/
def ofTokenize (source : String) : Journal :=
  let tokens := readTokens (TokenStream.ofText source).items
  [⟨.debug, "lexing " ++ source.utf8ByteSize.repr ++ " bytes"⟩] ++ tokens.map tokenEntry ++
  match tokenize source with
  | .ok tokens => [⟨.debug, "lexing complete, " ++ tokens.length.repr ++ " tokens"⟩]
  | .error _ => []

mutual

/-- The forms of a statement and of those inside it, in the order in which they are completed. -/
def completedIn : Statement → List String
  | .loop x first last body => completedInAll body ++ [(Statement.loop x first last body).label]
  | s => [s.label]

/-- The forms of statements in the order in which they are completed. -/
def completedInAll : List Statement → List String
  | [] => []
  | s :: more => completedIn s ++ completedInAll more

end

/-- The tokens of a loop's body, if a loop starts here whose header is well formed. -/
def loopBody? (tokens : List Token) : Option (List Token) :=
  match tokens with
  | .identifier _ :: .keyword .startingAt :: rest =>
    match (do
      let _ ← Reader.expression
      Reader.expect .upTo
      let _ ← Reader.expression
      Reader.expect .loop : Reader Unit) rest with
    | .ok () body => some body
    | .error _ _ => none
  | _ => none

/-- The forms of the statements completed before reading stops, in order. -/
def completed (tokens : List Token) : List String :=
  match Reader.statement tokens with
  | .ok (some s) rest =>
    if rest.length < tokens.length then completedIn s ++ completed rest else completedIn s
  | .ok none _ => []
  | .error _ _ =>
    match loopBody? tokens with
    | some body => if body.length < tokens.length then completed body else []
    | none => []
termination_by tokens.length

/-- The log of reading tokens as a program. -/
def ofParse (tokens : List Token) : Journal :=
  [⟨.debug, "parsing " ++ tokens.length.repr ++ " tokens"⟩] ++
  (completed tokens).map (fun label => ⟨.trace, "parsed " ++ label ++ " statement"⟩) ++
  match Program.ofTokens tokens with
  | .ok program => [⟨.debug, "parsing complete, " ++ program.length.repr ++ " statements"⟩]
  | .error _ => []

/-- The log of writing the script of a program. -/
def ofEmit (o : ScriptOptions) (program : Program) : Journal :=
  let symbols (draft : Draft) : Journal :=
    draft.table.entries.map fun (x, name) => ⟨.trace, "symbol " ++ x ++ " -> " ++ name⟩
  [⟨.debug, "generating host code for " ++ program.length.repr ++ " statements"⟩] ++
  match Emitter.program o program (.start o) with
  | .ok () draft => symbols draft ++
    [⟨.debug, "generated " ++ draft.lines.length.repr ++ " lines, " ++ draft.table.size.repr ++
      " symbols"⟩]
  | .error _ draft => symbols draft

/-- The log of compiling a text. -/
def ofCompile (o : ScriptOptions) (source : String) : Journal :=
  [⟨.debug, "Compiling source code (" ++ source.utf8ByteSize.repr ++ " bytes)"⟩] ++
  ofTokenize source ++
  match tokenize source with
  | .error _ => []
  | .ok tokens =>
    ofParse tokens ++
    match Program.ofTokens tokens with
    | .error _ => []
    | .ok program =>
      ofEmit o program ++
      match program.emit o with
      | .error _ => []
      | .ok draft =>
        [⟨.debug, "Translation complete, " ++ draft.table.size.repr ++ " symbols"⟩]

/-- The log of running a script. -/
def ofExecute (o : ScriptOptions) (code : String) : Journal :=
  [⟨.debug, "executing host script (" ++ code.utf8ByteSize.repr ++ " bytes)"⟩] ++
  match Script.parse code with
  | .error _ => []
  | .ok script =>
    let (result, machine) := Script.Machine.run o.accumulator script
    [⟨.debug, "executing " ++ script.length.repr ++ " host statements"⟩] ++
    machine.entered.reverse.map (fun range => ⟨.trace, "for " ++ range.counter ++ " in range(" ++
      range.start.repr ++ ", " ++ range.stop.repr ++ ")"⟩) ++
    match result with
    | .ok _ => [⟨.debug, "execution complete, " ++ machine.executed.repr ++ " statements"⟩]
    | .error _ => []

/-- The log of compiling and running a text. -/
def ofRun (o : ScriptOptions) (source : String) : Journal :=
  ofCompile o source ++
  match compileToScript o source with
  | .error _ => []
  | .ok code => ofExecute o code

end Journal

end Laoke
