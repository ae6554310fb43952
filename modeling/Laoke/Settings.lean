import Laoke.Emission
import Laoke.LogLevel
import Laoke.Script.Name
import Laoke.Text.Quoted
import Laoke.Toml.Document

/-!
# Settings

Settings say how scripts are written, whether they are shown before they run,
and how much is logged.  `ScriptOptions.fault?` decides which options give scripts
that run: an indentation of spaces and tabs, proper names, and an accumulator
that no variable can be mistaken for.
-/

namespace Laoke

/-- Why scripts cannot be written with some options. -/
inductive OptionFault where
  | indent (text : String)
  | stem (text : String)
  | accumulator (text : String)
  /-- The accumulator has the name of a variable. -/
  | collision (accumulator stem : String)
  deriving DecidableEq, Repr

/-- The text of a fault. -/
def OptionFault.message : OptionFault → String
  | indent s => "codegen.indent must be one or more spaces or tabs, got " ++ Text.quoted s
  | stem s => "codegen.var_prefix " ++ Text.quoted s ++ " is not a valid host name"
  | accumulator s => "codegen.output_var " ++ Text.quoted s ++ " is not a valid host name"
  | collision s t =>
    "codegen.output_var " ++ Text.quoted s ++ " collides with names generated from prefix " ++
      Text.quoted t

namespace ScriptOptions

/-- Whether an indentation consists of spaces and tabs, at least one. -/
def indentIsValid (o : ScriptOptions) : Bool :=
  !o.indent.toList.isEmpty && o.indent.toList.all fun c => c = ' ' || c = '\t'

/-- Whether the accumulator is the stem followed by digits, at least one. -/
def collides (o : ScriptOptions) : Bool :=
  let rest := o.accumulator.toList.drop o.stem.toList.length
  o.stem.toList.isPrefixOf o.accumulator.toList && !rest.isEmpty && rest.all Char.isDigit

/-- What is wrong with some options, if anything is. -/
def fault? (o : ScriptOptions) : Option OptionFault :=
  if !o.indentIsValid then some (.indent o.indent)
  else if !Script.isName o.stem.toList then some (.stem o.stem)
  else if !Script.isName o.accumulator.toList || Script.isReserved o.accumulator then
    some (.accumulator o.accumulator)
  else if o.collides then some (.collision o.accumulator o.stem)
  else none

end ScriptOptions

/-- All settings. -/
structure Settings where
  script : ScriptOptions := {}
  /-- Whether a script is shown before it runs. -/
  showCode : Bool := false
  level : LogLevel := .warn
  deriving DecidableEq, Repr

/-- Why a text holds no settings. -/
inductive SettingsError where
  /-- The text is malformed, or a setting has the wrong type. -/
  | malformed
  | invalid (fault : OptionFault)
  deriving DecidableEq, Repr

/-- The text of the error that settings are invalid. -/
def invalidSettings (fault : OptionFault) : String :=
  "Invalid config: " ++ fault.message

namespace Toml.Value

/-- A value that has to be a text. -/
def text? : Value → Option String
  | .string s => some s
  | _ => none

/-- A value that has to be a truth value. -/
def flag? : Value → Option Bool
  | .boolean b => some b
  | _ => none

/-- Whether a value is an array or a table with nothing in it. -/
def isEmpty : Value → Bool
  | .array items => items.isEmpty
  | .table entries => entries.isEmpty
  | _ => false

/-- A value that has to name a level: a text, or a table whose only key it is. -/
def level? : Value → Option LogLevel
  | .string s => LogLevel.ofName? s
  | .table [(name, v)] => if v.isEmpty then LogLevel.ofName? name else none
  | _ => none

/-- The settings of a section by name.  A section is a table, or an array that lists its settings
in order; a date has none. -/
def fields? (names : List String) : Value → Option (List (String × Value))
  | .table entries => some entries
  | .array items => some (names.zip items)
  | .dateTime => some []
  | _ => none

end Toml.Value

namespace Settings

/-- A setting of a section, or what stands for it if it is not given. -/
def pick {α : Type} (fields : List (String × Toml.Value)) (name : String)
    (read : Toml.Value → Option α) (fallback : α) : Option α :=
  match fields.lookup name with
  | none => some fallback
  | some v => read v

/-- The settings of a section; a section that is missing gives none. -/
def sectionFields (root : List (String × Toml.Value)) (name : String) (names : List String) :
    Option (List (String × Toml.Value)) :=
  match root.lookup name with
  | none => some []
  | some v => v.fields? names

/-- The settings in the table of a text. -/
def ofTable? (root : List (String × Toml.Value)) : Option Settings := do
  let standard : Settings := {}
  let codegen ← sectionFields root "codegen" ["indent", "output_var", "var_prefix"]
  let run ← sectionFields root "run" ["show_code"]
  let log ← sectionFields root "log" ["level"]
  return {
    script := {
      indent := ← pick codegen "indent" Toml.Value.text? standard.script.indent
      accumulator := ← pick codegen "output_var" Toml.Value.text? standard.script.accumulator
      stem := ← pick codegen "var_prefix" Toml.Value.text? standard.script.stem }
    showCode := ← pick run "show_code" Toml.Value.flag? standard.showCode
    level := ← pick log "level" Toml.Value.level? standard.level }

/-- The settings that a text holds. -/
def ofText (text : String) : Except SettingsError Settings :=
  match (Toml.parse text).bind ofTable? with
  | none => .error .malformed
  | some settings =>
    match settings.script.fault? with
    | some fault => .error (.invalid fault)
    | none => .ok settings

/-- A character of a text in double quotes. -/
def writtenChar (c : Char) : List Char :=
  if c = '\t' then ['\\', 't']
  else if c = '"' then ['\\', '"']
  else if c = '\\' then ['\\', '\\']
  else [c]

/-- A text in double quotes. -/
def written (s : String) : String :=
  String.ofList ('"' :: s.toList.flatMap writtenChar ++ ['"'])

/-- The text that holds given settings. -/
def toText (s : Settings) : String :=
  "[codegen]\nindent = " ++ written s.script.indent ++
  "\noutput_var = " ++ written s.script.accumulator ++
  "\nvar_prefix = " ++ written s.script.stem ++
  "\n\n[run]\nshow_code = " ++ (if s.showCode then "true" else "false") ++
  "\n\n[log]\nlevel = " ++ written s.level.name ++ "\n"

end Settings

end Laoke
