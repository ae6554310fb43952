import Laoke.CommandLine.History
import Laoke.Journal
import Laoke.Session
import Laoke.Text.Blank

/-!
# The dialogue

Lines of program text are entered into a session one by one; lines that start
with a colon are commands about it.  Blank lines between statements are ignored.
A line whose error is fatal breaks the dialogue off.
-/

namespace Laoke

/-- The name of the language. -/
def languageName : String := "dongbei (东北话)"

/-- The version of the language. -/
def languageVersion : String := "0.3.0"

/-- A dialogue in progress. -/
structure Dialogue where
  session : Session
  history : History := {}
  /-- What was printed. -/
  output : String := ""
  /-- What was logged. -/
  log : String := ""
  /-- Whether a line broke the dialogue off. -/
  broken : Bool := false

namespace Dialogue

/-- The explanation of the commands. -/
def helpText : String :=
  Text.joinLines
    ["Available commands:",
     "  :quit, :q   - Exit the REPL",
     "  :help, :h   - Show this help message",
     "  :code       - Show the generated host script",
     "  :reset      - Forget the session program"]

/-- The lines that open a dialogue. -/
def greeting : String :=
  languageName ++ " REPL v" ++ languageVersion ++ "\n" ++
  "Type :help for available commands, :quit to exit.\n"

/-- Prints a text. -/
def print (d : Dialogue) (text : String) : Dialogue :=
  { d with output := d.output ++ text }

/-- Adds to the log. -/
def report (d : Dialogue) (text : String) : Dialogue :=
  { d with log := d.log ++ text }

/-- Notes that a line is about to be read. -/
def beforeLine (level : LogLevel) (d : Dialogue) : Dialogue :=
  d.report (Journal.stageLines level fun () => [⟨.debug, "stdin is not a tty"⟩])

/-- Enters a line of program text. -/
def enter (level : LogLevel) (d : Dialogue) (line : String) : Dialogue :=
  let s := d.session
  let (reply, session) := s.eval line
  let d := { d with session }.report (Journal.stageLines level fun () =>
    Journal.ofRun s.options (s.source ++ s.pending ++ line ++ "\n"))
  match reply with
  | .output text => d.print text
  | .incomplete => d
  | .rejected e =>
    if e.isFatal then { d with broken := true } else d.print ("Error: " ++ e.message ++ "\n")

/-- Obeys a command; the answer is nothing if it ends the dialogue. -/
def obey? (level : LogLevel) (d : Dialogue) (command : String) : Option Dialogue :=
  match command with
  | ":quit" | ":q" => none
  | ":help" | ":h" => some (d.print (helpText ++ "\n"))
  | ":code" =>
    let d := d.report (Journal.stageLines level fun () =>
      Journal.ofCompile d.session.options d.session.source)
    match d.session.code with
    | .ok code => some (d.print (code ++ "\n"))
    | .error e => some (d.print ("Error: " ++ e.message ++ "\n"))
  | ":reset" => some { d with session := d.session.reset }
  | _ => some (d.print ("Unknown command: " ++ command ++ "\n"))

/-- Takes in one line, and says whether the dialogue goes on after it. -/
def takeLine (level : LogLevel) (d : Dialogue) (line : List Char) : Dialogue × Bool :=
  if (Text.trim line).isEmpty && !d.session.isPending then (d, true)
  else
    let d := { d with history := d.history.add (String.ofList line) }
    if (Text.trimStart line).head? = some ':' then
      match d.obey? level (String.ofList (Text.trim line)) with
      | some d => (d, true)
      | none => (d, false)
    else
      let d := d.enter level (String.ofList line)
      (d, !d.broken)

/-- Holds a dialogue over all lines, or up to the line that ends it. -/
def hold (level : LogLevel) (d : Dialogue) : List (List Char) → Dialogue
  | [] => d.beforeLine level
  | line :: more =>
    match (d.beforeLine level).takeLine level line with
    | (d, true) => hold level d more
    | (d, false) => d

end Dialogue

end Laoke
