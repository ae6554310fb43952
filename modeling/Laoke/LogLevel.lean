/-!
# Levels of a log
-/

namespace Laoke

/-- How much a log entry matters, or how much an entry has to matter to be shown. -/
inductive LogLevel where
  | trace
  | debug
  | info
  | warn
  | error
  deriving DecidableEq, Repr

namespace LogLevel

/-- All levels, from the least to the most important. -/
def all : List LogLevel :=
  [trace, debug, info, warn, error]

/-- The place of a level in the order of importance. -/
def rank : LogLevel → Nat
  | trace => 0
  | debug => 1
  | info => 2
  | warn => 3
  | error => 4

/-- The name of a level in settings. -/
def name : LogLevel → String
  | trace => "trace"
  | debug => "debug"
  | info => "info"
  | warn => "warn"
  | error => "error"

/-- The level in front of a log entry, five characters wide. -/
def tag : LogLevel → String
  | trace => "TRACE"
  | debug => "DEBUG"
  | info => " INFO"
  | warn => " WARN"
  | error => "ERROR"

/-- The level with exactly the given name. -/
def ofName? (s : String) : Option LogLevel :=
  all.find? fun level => level.name = s

/-- A text with its letters from `A` to `Z` made small. -/
def lowered (s : String) : String :=
  String.ofList (s.toList.map Char.toLower)

/-- The level that a user names.  Capitals do not matter, and `warning` is another name for
`warn`.  A text that names no level is given back as it was compared. -/
def parse (s : String) : Except String LogLevel :=
  let word := lowered s
  if word = "warning" then .ok warn
  else
    match ofName? word with
    | some level => .ok level
    | none => .error word

/-- The text of the error that a word names no level. -/
def unknownMessage (word : String) : String :=
  "unknown log level: " ++ word

/-- The level to run at: asking for more output wins, then a level asked for, then the settings. -/
def effective (verbose : Bool) (requested : Option LogLevel) (configured : LogLevel) : LogLevel :=
  if verbose then debug else requested.getD configured

/-- Whether entries of level `entry` are shown in a log of this level. -/
def shows (level entry : LogLevel) : Bool :=
  level.rank ≤ entry.rank

end LogLevel

end Laoke
