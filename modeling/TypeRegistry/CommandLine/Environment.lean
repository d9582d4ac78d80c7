import TypeRegistry.Json.Reader
import TypeRegistry.Registry.Basic
import TypeRegistry.Text.Parameter

/-!
# Settings from the environment

Every setting may be given by an environment variable, whose name is read without regard to
capitals.  The paths are a JSON list of strings, limits are integers, and switches are truth values.
The settings of a server and of the log change no answer, but those that cannot be read are refused
all the same.

Main definitions:

- `Environment`, `settingNames`: variables with their values, and the names that are read.
- `SettingsFault`: why the variables yield no settings.
- `Settings.ofEnvironment`: the settings that the variables yield.
-/

namespace TypeRegistry

open Dictionary

/-- The variables of an environment with their values. -/
abbrev Environment := Dictionary String

/-- The variables that are read. -/
def settingNames : List String :=
  ["GTS_PATHS", "GTS_VALIDATE_REFS", "GTS_ALLOW_TYPE_FILTERS", "GTS_DEFAULT_QUERY_LIMIT",
    "GTS_MAX_QUERY_LIMIT", "GTS_CORS_ORIGINS", "GTS_PORT", "GTS_LOG_LEVEL"]

/-- A variable whose value cannot be read. -/
inductive SettingsFault where
  | paths
  | switch (name : String)
  | limit (name : String)
  | logLevel (name : String)
deriving DecidableEq, Repr

/-- The value of the last variable with a name, capitals set aside. -/
def Environment.value? (environment : Environment) (name : String) : Option String :=
  let lowered := fun s : String => s.toList.map Char.toLower
  (environment.reverse.find? fun entry => lowered entry.1 = lowered name).map (·.2)

namespace Settings

/-- The strings of a list that holds nothing else. -/
def textList? : List Json → Option (List String)
  | [] => some []
  | .str s :: rest => (textList? rest).map (s :: ·)
  | _ :: _ => none

/-- The paths that a text lists; paths that are given otherwise take precedence over the list, which
must be JSON all the same. -/
def readPaths (given : List String) (value : Option String) :
    Except SettingsFault (List String) :=
  match value with
  | none => .ok given
  | some text =>
    match Json.read text with
    | .error _ => .error .paths
    | .ok document =>
      if given.isEmpty then
        match document with
        | .arr items =>
          match textList? items with
          | some paths => .ok paths
          | none => .error .paths
        | _ => .error .paths
      else .ok given

/-- The value of a switch. -/
def readSwitch (environment : Environment) (name : String) (usual : Bool) :
    Except SettingsFault Bool :=
  match environment.value? name with
  | none => .ok usual
  | some text =>
    match Text.truth? text with
    | some value => .ok value
    | none => .error (.switch name)

/-- The value of a limit. -/
def readLimit (environment : Environment) (name : String) (usual : Int) :
    Except SettingsFault Int :=
  match environment.value? name with
  | none => .ok usual
  | some text =>
    match Text.integer? text with
    | some value => .ok value
    | none => .error (.limit name)

/-- The levels that the log refuses, in capitals; any other name is a level. -/
def refusedLevels : List String := ["BASIC_FORMAT", "_STYLES"]

/-- A character in capitals, as far as letters of the refused levels arise. -/
def capitals (c : Char) : List Char :=
  if c = 'ı' then ['I']
  else if c = 'ſ' then ['S']
  else if c = 'ﬅ' || c = 'ﬆ' then ['S', 'T']
  else [c.toUpper]

/-- Check the level of the log; a level that is given otherwise takes precedence, unless it is
empty. -/
def checkLogLevel (given value : Option String) : Except SettingsFault Unit :=
  match (given.filter (· ≠ "")).or value with
  | none => .ok ()
  | some level =>
    if String.ofList (level.toList.flatMap capitals) ∈ refusedLevels then .error (.logLevel level)
    else .ok ()

/-- The settings that an environment yields, given the paths and the level of the log on the command
line. -/
def ofEnvironment (environment : Environment) (paths : List String) (logLevel : Option String) :
    Except SettingsFault Settings := do
  let usual : Settings := {}
  let settings := {
    paths := ← readPaths paths (environment.value? "GTS_PATHS")
    checksReferences := ← readSwitch environment "GTS_VALIDATE_REFS" usual.checksReferences
    allowsTypeFilters := ← readSwitch environment "GTS_ALLOW_TYPE_FILTERS" usual.allowsTypeFilters
    usualLimit := ← readLimit environment "GTS_DEFAULT_QUERY_LIMIT" usual.usualLimit
    greatestLimit := ← readLimit environment "GTS_MAX_QUERY_LIMIT" usual.greatestLimit }
  let _origins ← readPaths [] (environment.value? "GTS_CORS_ORIGINS")
  let _port ← readLimit environment "GTS_PORT" 8000
  checkLogLevel logLevel (environment.value? "GTS_LOG_LEVEL")
  return settings

end Settings

end TypeRegistry
