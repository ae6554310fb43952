import Laoke.CommandLine.Arguments
import Laoke.CommandLine.Dialogue
import Laoke.CommandLine.Files
import Laoke.Listing.Json
import Laoke.Listing.Outline
import Laoke.Settings
import Laoke.Text.Erasure

/-!
# The command line

What the program does with its arguments, the files it finds and the text on its
standard input: it ends with an exit code, prints two texts, and may save a file.
-/

namespace Laoke

/-- What a run of the program comes to. -/
structure Outcome where
  code : Nat
  stdout : String := ""
  stderr : String := ""
  /-- The path and the text of a file to be saved. -/
  saved : Option (String × String) := none
  deriving DecidableEq, Repr

/-- The files after a run. -/
def Outcome.leave (outcome : Outcome) (files : Files) : Files :=
  match outcome.saved with
  | some (path, text) => files.write path text
  | none => files

namespace CommandLine

/-- The name of the program. -/
def programName : String := "dongbei"

/-- The file that holds settings if no other is named. -/
def settingsFile : String := "dongbei.toml"

/-- The explanation of the command line. -/
def helpText : String :=
  Text.joinLines
    [languageName,
     "",
     "Usage: " ++ programName ++ " [OPTIONS] <COMMAND>",
     "",
     "Commands:",
     "  run        Run a source file",
     "  eval       Evaluate code from the command line",
     "  translate  Print the generated host script",
     "  tokens     Dump the token sequence",
     "  ast        Dump the parsed program",
     "  repl       Start an interactive session",
     "  version    Print version information",
     "  help       Print this message",
     "",
     "Options:",
     "  -v, --verbose            Enable verbose output",
     "      --log-level <LEVEL>  Log level (trace, debug, info, warn, error)",
     "  -c, --config <FILE>      Configuration file",
     "  -h, --help               Print help",
     "  -V, --version            Print version"]

/-- How a command ends. -/
inductive Ending where
  | done
  /-- It failed, for reasons that go from the outermost to the innermost. -/
  | failed (reasons : List String)
  /-- It broke off at a fatal error. -/
  | brokenOff
  deriving DecidableEq, Repr

/-- What a command comes to: what it prints and logs, how it ends, and the file it saves. -/
structure Report where
  stdout : String := ""
  log : String := ""
  ending : Ending := .done
  saved : Option (String × String) := none
  deriving DecidableEq, Repr

/-- The reasons why a stage failed, below what was being done. -/
def reasons (context : String) (e : Error) : List String :=
  [context, e.message, e.detail]

/-- The line between a script and the output of its run. -/
def divider : String :=
  "\x1b[2m" ++ String.ofList (List.replicate 20 '-') ++ "\x1b[0m\n"

/-- Reads the settings. -/
def loadSettings (files : Files) (path? : Option String) : Except (List String) Settings :=
  let context := "Failed to load configuration"
  let load (path : String) : Except (List String) Settings :=
    match files.read path with
    | .error fault => .error [context, "IO error: " ++ fault.message, fault.message]
    | .ok text =>
      match Settings.ofText text with
      | .ok settings => .ok settings
      | .error .malformed =>
        .error [context, "Config parse error: malformed settings", "malformed settings"]
      | .error (.invalid fault) => .error [context, invalidSettings fault]
  match path? with
  | some path => load path
  | none => if files.exists? settingsFile then load settingsFile else .ok {}

/-- Does something with the text of a file. -/
def withFile (files : Files) (level : LogLevel) (path : String) (act : String → Report) : Report :=
  let log := Journal.stageLines level fun () => [⟨.debug, "reading " ++ path⟩]
  match files.read path with
  | .error fault =>
    { log, ending := .failed ["Cannot read " ++ path ++ ": " ++ fault.message, fault.message] }
  | .ok text =>
    let report := act text
    { report with log := log ++ report.log }

/-- Prints the script of a text, and `ending` after it. -/
def printScript (o : ScriptOptions) (level : LogLevel) (path source ending : String) : Report :=
  let log := Journal.stageLines level fun () => Journal.ofCompile o source
  match compileToScript o source with
  | .ok code => { log, stdout := code ++ "\n" ++ ending }
  | .error e => { log, ending := .failed (reasons ("Failed to translate: " ++ path) e) }

/-- Runs a text. -/
def runText (o : ScriptOptions) (level : LogLevel) (context source : String) : Report :=
  let log := Journal.stageLines level fun () => Journal.ofRun o source
  match run o source with
  | .ok output => { log, stdout := output }
  | .error e => { log, ending := if e.isFatal then .brokenOff else .failed (reasons context e) }

/-- One command and then another, unless the first is not done. -/
def Report.andThen (first : Report) (second : Unit → Report) : Report :=
  match first.ending with
  | .done =>
    let next := second ()
    { next with stdout := first.stdout ++ next.stdout, log := first.log ++ next.log }
  | .failed _ | .brokenOff => first

/-- Lists the tokens of a text. -/
def listTokens (level : LogLevel) (path source : String) (json : Bool) : Report :=
  let log := Journal.stageLines level fun () => Journal.ofTokenize source
  match tokenize source with
  | .error e => { log, ending := .failed ["Failed to tokenize: " ++ path, e.message] }
  | .ok tokens =>
    if json then { log, stdout := Listing.tokensJson tokens ++ "\n" }
    else { log, stdout := String.join (tokens.map fun t => t.display ++ "\n") }

/-- Lists the program of a text. -/
def listProgram (level : LogLevel) (path source : String) (json : Bool) : Report :=
  let log := Journal.stageLines level fun () => Journal.ofTokenize source
  match tokenize source with
  | .error e => { log, ending := .failed ["Failed to tokenize: " ++ path, e.message] }
  | .ok tokens =>
    let log := log ++ Journal.stageLines level fun () => Journal.ofParse tokens
    match Program.ofTokens tokens with
    | .error e => { log, ending := .failed ["Failed to parse: " ++ path, e.message] }
    | .ok program =>
      if json then { log, stdout := Listing.programJson program ++ "\n" }
      else { log, stdout := Listing.programOutline program ++ "\n" }

/-- Holds a dialogue over the lines of a text and keeps its history. -/
def holdDialogue (files : Files) (o : ScriptOptions) (level : LogLevel) (path? : Option String)
    (stdin : String) : Report :=
  let old := (path?.bind fun path => (files.read path).toOption).getD ""
  let warnings : Journal := (History.badLines old).map fun line =>
    ⟨.warn, "bad escaped line: " ++ line⟩
  let opening : Dialogue := {
    session := { options := o }
    history := History.ofText old
    output := Dialogue.greeting
    log := warnings.shown level }
  let d := opening.hold level ((Text.splitLines stdin.toList).map Text.applyBackspaces)
  if d.broken then { stdout := d.output, log := d.log, ending := .brokenOff }
  else
    let saved := path?.bind fun path =>
      if d.history.isChanged then some (path, d.history.toText) else none
    { stdout := d.output, log := d.log, saved }

/-- Does what a command asks for. -/
def perform (files : Files) (settings : Settings) (level : LogLevel) (stdin : String) :
    Command → Report
  | .run path showCode =>
    withFile files level path fun source =>
      let run := fun () => runText settings.script level ("Failed to run: " ++ path) source
      if showCode || settings.showCode then
        (printScript settings.script level path source divider).andThen run
      else run ()
  | .eval code => runText settings.script level "Failed to evaluate code" code
  | .script path =>
    withFile files level path fun source => printScript settings.script level path source ""
  | .tokens path json =>
    withFile files level path fun source => listTokens level path source json
  | .tree path json =>
    withFile files level path fun source => listProgram level path source json
  | .repl history => holdDialogue files settings.script level history stdin
  | .version => { stdout := languageName ++ " " ++ languageVersion ++ "\n" }

/-- The line that says why the program failed. -/
def failureLine (reasons : List String) : String :=
  "\x1b[1m\x1b[31merror:\x1b[39m\x1b[0m " ++ ": ".intercalate reasons ++ "\n"

/-- How the program ends after a command.  What the system says about a program that broke off is
not part of it. -/
def Report.outcome (report : Report) : Outcome :=
  match report.ending with
  | .done => { code := 0, stdout := report.stdout, stderr := report.log, saved := report.saved }
  | .failed reasons =>
    { code := 1, stdout := report.stdout, stderr := report.log ++ failureLine reasons,
      saved := report.saved }
  | .brokenOff =>
    { code := 101, stdout := report.stdout, stderr := report.log, saved := report.saved }

/-- Does what well-formed arguments ask for. -/
def execute (invocation : Invocation) (files : Files) (stdin : String) : Report :=
  match loadSettings files invocation.config with
  | .error reasons => { ending := .failed reasons }
  | .ok settings =>
    let level := LogLevel.effective invocation.verbose invocation.level settings.level
    perform files settings level stdin invocation.command

/-- The paths that the program may read, given its arguments. -/
def pathsFor (args : List String) : List String :=
  match Arguments.parse args with
  | .error _ => []
  | .ok invocation =>
    invocation.config.getD settingsFile :: invocation.command.path?.toList

/-- Whether the program reads its standard input, given its arguments. -/
def readsInput (args : List String) : Bool :=
  match Arguments.parse args with
  | .ok { command := .repl _, .. } => true
  | _ => false

/-- Runs the program. -/
def run (args : List String) (files : Files) (stdin : String) : Outcome :=
  match Arguments.parse args with
  | .error .usage => { code := 2, stderr := helpText ++ "\n" }
  | .error .help => { code := 0, stdout := helpText ++ "\n" }
  | .error .version => { code := 0, stdout := programName ++ " " ++ languageVersion ++ "\n" }
  | .ok invocation => (execute invocation files stdin).outcome

end CommandLine

end Laoke
