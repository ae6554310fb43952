import Laoke.LogLevel

/-!
# Arguments

The options of the program stand before the name of a command, those of a
command after it.  Arguments are read from left to right, and the first that is
wrong, or that asks for help or the version, settles the matter.
-/

namespace Laoke

/-- What the program is asked to do. -/
inductive Command where
  | run (file : String) (showCode : Bool)
  | eval (code : String)
  | script (file : String)
  | tokens (file : String) (json : Bool)
  | tree (file : String) (json : Bool)
  | repl (history : Option String)
  | version
  deriving DecidableEq, Repr

/-- The path of the file that a command reads. -/
def Command.path? : Command → Option String
  | run file _ | script file | tokens file _ | tree file _ => some file
  | repl history => history
  | eval _ | version => none

/-- A well-formed command line. -/
structure Invocation where
  verbose : Bool := false
  level : Option LogLevel := none
  config : Option String := none
  command : Command
  deriving DecidableEq, Repr

/-- Why a command line asks for nothing to be done. -/
inductive Refusal where
  | usage
  | help
  | version
  deriving DecidableEq, Repr

namespace Arguments

/-- An option that a command line may hold. -/
structure Spec where
  long : String
  short : Option Char := none
  takesValue : Bool := false
  deriving DecidableEq, Repr

/-- The option that asks for help. -/
def helpSpec : Spec := { long := "help", short := some 'h' }

/-- The option that asks for the version. -/
def versionSpec : Spec := { long := "version", short := some 'V' }

/-- The options of the program. -/
def programSpecs : List Spec :=
  [{ long := "verbose", short := some 'v' }, { long := "log-level", takesValue := true },
   { long := "config", short := some 'c', takesValue := true }, helpSpec, versionSpec]

/-- What was read of a command line: options with their values, and other arguments. -/
structure Gathered where
  options : List (String × String) := []
  operands : List String := []
  deriving DecidableEq, Repr

/-- Whether an argument looks like an option.  A single dash does not. -/
def isOptionLike (arg : String) : Bool :=
  match arg.toList with
  | '-' :: _ :: _ => true
  | _ => false

/-- Whether a value suits an option. -/
def suits (spec : Spec) (value : String) : Bool :=
  if spec.long = "log-level" then
    match LogLevel.parse value with
    | .ok _ => true
    | .error _ => false
  else !value.isEmpty

/-- Notes an option.  No option may be given twice. -/
def Gathered.add (g : Gathered) (spec : Spec) (value : String) : Except Refusal Gathered :=
  if spec.long = helpSpec.long then .error .help
  else if spec.long = versionSpec.long then .error .version
  else if (g.options.lookup spec.long).isSome then .error .usage
  else .ok { g with options := g.options ++ [(spec.long, value)] }

/-- Notes an option with its value. -/
def Gathered.addValue (g : Gathered) (spec : Spec) (value : String) : Except Refusal Gathered :=
  if suits spec value then g.add spec value else .error .usage

/-- Reads the letters after a single dash: options without a value, and at the end perhaps one with
a value, which is what is left of the letters.  If nothing is left, that option is given back. -/
def readLetters (specs : List Spec) (g : Gathered) :
    List Char → Except Refusal (Gathered × Option Spec)
  | [] => .ok (g, none)
  | c :: rest =>
    match specs.find? fun spec => spec.short = some c with
    | none => .error .usage
    | some spec =>
      if spec.takesValue then
        match rest with
        | [] => .ok (g, some spec)
        | '=' :: value => (g.addValue spec (String.ofList value)).map fun g => (g, none)
        | value => (g.addValue spec (String.ofList value)).map fun g => (g, none)
      else
        match g.add spec "" with
        | .error refusal => .error refusal
        | .ok g => readLetters specs g rest

/-- Reads an option that starts with two dashes.  If its value has to follow, it is given back. -/
def readLong (specs : List Spec) (g : Gathered) (text : List Char) :
    Except Refusal (Gathered × Option Spec) :=
  let name := text.takeWhile (· ≠ '=')
  match specs.find? fun spec => spec.long = String.ofList name with
  | none => .error .usage
  | some spec =>
    match text.drop name.length, spec.takesValue with
    | [], true => .ok (g, some spec)
    | [], false => (g.add spec "").map fun g => (g, none)
    | _ :: value, true => (g.addValue spec (String.ofList value)).map fun g => (g, none)
    | _ :: _, false => .error .usage

/-- Which arguments that are no options may stand somewhere. -/
inductive Operands where
  /-- The first one names a command and ends the reading. -/
  | command
  /-- At most `limit` texts. -/
  | texts (limit : Nat)
  /-- The path of a file, which is not empty. -/
  | path
  deriving DecidableEq, Repr

/-- Whether one more argument may stand after `count` others. -/
def Operands.admits (operands : Operands) (count : Nat) (arg : String) : Bool :=
  match operands with
  | command => false
  | texts limit => count < limit
  | path => count = 0 && !arg.isEmpty

/-- Notes arguments that are no options. -/
def Gathered.addOperands (operands : Operands) (g : Gathered) :
    List String → Except Refusal Gathered
  | [] => .ok g
  | arg :: more =>
    if operands.admits g.operands.length arg then
      addOperands operands { g with operands := g.operands ++ [arg] } more
    else .error .usage

/-- Reads arguments, and gives back what follows the name of a command together with that name. -/
def gather (specs : List Spec) (operands : Operands) :
    Gathered → Option Spec → List String → Except Refusal (Gathered × List String)
  | _, some _, [] => .error .usage
  | g, none, [] => .ok (g, [])
  | g, some spec, arg :: more =>
    if isOptionLike arg then .error .usage
    else
      match g.addValue spec arg with
      | .error refusal => .error refusal
      | .ok g => gather specs operands g none more
  | g, none, arg :: more =>
    match arg.toList with
    | ['-', '-'] => (g.addOperands operands more).map fun g => (g, [])
    | '-' :: '-' :: text =>
      match readLong specs g text with
      | .error refusal => .error refusal
      | .ok (g, awaiting) => gather specs operands g awaiting more
    | '-' :: c :: letters =>
      match readLetters specs g (c :: letters) with
      | .error refusal => .error refusal
      | .ok (g, awaiting) => gather specs operands g awaiting more
    | _ =>
      if operands = .command then .ok (g, arg :: more)
      else
        match g.addOperands operands [arg] with
        | .error refusal => .error refusal
        | .ok g => gather specs operands g none more

/-- Reads the arguments of a command with the given options and operands. -/
def gatherFor (specs : List Spec) (operands : Operands) (args : List String) :
    Except Refusal Gathered :=
  (gather (specs ++ [helpSpec]) operands {} none args).map Prod.fst

/-- The only operand, which may not be missing. -/
def Gathered.operand (g : Gathered) : Except Refusal String :=
  match g.operands with
  | [arg] => .ok arg
  | _ => .error .usage

/-- Whether an option without a value was given. -/
def Gathered.has (g : Gathered) (long : String) : Bool :=
  (g.options.lookup long).isSome

/-- Reads the arguments of a command with one operand. -/
def unaryCommand (specs : List Spec) (operands : Operands) (args : List String)
    (make : String → Gathered → Command) : Except Refusal Command := do
  let g ← gatherFor specs operands args
  return make (← g.operand) g

/-- The names of the commands. -/
def commandNames : List String :=
  ["run", "eval", "translate", "tokens", "ast", "repl", "version", "help"]

/-- Reads the arguments of a named command. -/
def command (name : String) (args : List String) : Except Refusal Command :=
  match name with
  | "run" =>
    unaryCommand [{ long := "show-code" }] .path args fun file g => .run file (g.has "show-code")
  | "eval" => unaryCommand [] (.texts 1) args fun code _ => .eval code
  | "translate" => unaryCommand [] .path args fun file _ => .script file
  | "tokens" =>
    unaryCommand [{ long := "json" }] .path args fun file g => .tokens file (g.has "json")
  | "ast" => unaryCommand [{ long := "json" }] .path args fun file g => .tree file (g.has "json")
  | "repl" =>
    (gatherFor [{ long := "history", takesValue := true }] (.texts 0) args).map fun g =>
      .repl (g.options.lookup "history")
  | "version" => (gatherFor [] (.texts 0) args).map fun _ => .version
  | "help" =>
    match args with
    | [] => .error .help
    | [topic] => if topic ∈ commandNames then .error .help else .error .usage
    | _ => .error .usage
  | _ => .error .usage

/-- The level that was asked for. -/
def Gathered.level? (g : Gathered) : Option LogLevel :=
  match (g.options.lookup "log-level").map LogLevel.parse with
  | some (.ok level) => some level
  | _ => none

/-- Reads a whole command line. -/
def parse (args : List String) : Except Refusal Invocation :=
  match gather programSpecs .command {} none args with
  | .error refusal => .error refusal
  | .ok (_, []) => .error .usage
  | .ok (g, name :: rest) =>
    match command name rest with
    | .error refusal => .error refusal
    | .ok command =>
      .ok { verbose := g.has "verbose", level := g.level?, config := g.options.lookup "config",
            command }

end Arguments

end Laoke
