import JuliaSession.Config.Merge
import JuliaSession.Log.Level
import JuliaSession.Text.Split

/-!
# The settings

The typed form of the settings and its check. `Settings.read` and `JuliaSettings.read` accept a JSON
value or list every violation in it: first those of the declared fields in their order, then the
unknown keys in the order of the input. A field is given under its file name or under its other
name; the file name wins, and the other one beside it is then an unknown key. The Julia section
keeps unknown keys, the others refuse them.

`Settings.dump` writes the settings back as JSON, and `Settings.valueAt` looks a dotted name up in
the dump without its null fields.
-/

namespace JuliaSession.Config

/-- What is wrong with a value. -/
inductive Fault where
  /-- A string or number that says neither true nor false. -/
  | unreadableBool
  /-- A value of a type that says neither true nor false. -/
  | notBool
  /-- Not a string. -/
  | notString
  /-- Not an object, where any object will do. -/
  | notObject
  /-- Not the name of a log format. -/
  | notFormat
  /-- An unknown key where none is allowed. -/
  | unknownKey
  /-- Not an object, where the named section is expected. -/
  | notSection (name : String)
  deriving DecidableEq, Repr

/-- The code of a fault. -/
def Fault.code : Fault → String
  | unreadableBool => "bool_parsing"
  | notBool => "bool_type"
  | notString => "string_type"
  | notObject => "dict_type"
  | notFormat => "literal_error"
  | unknownKey => "extra_forbidden"
  | notSection _ => "model_type"

/-- The wording of a fault. -/
def Fault.message : Fault → String
  | unreadableBool => "Input should be a valid boolean, unable to interpret input"
  | notBool => "Input should be a valid boolean"
  | notString => "Input should be a valid string"
  | notObject => "Input should be a valid dictionary"
  | notFormat => "Input should be 'kv', 'json' or 'pretty'"
  | unknownKey => "Extra inputs are not permitted"
  | notSection name => "Input should be a valid dictionary or instance of " ++ name

/-- A fault at some place of the input. -/
structure Violation where
  /-- The keys that lead to the place. -/
  loc : List String
  /-- What is wrong. -/
  fault : Fault
  /-- The value found there. -/
  found : Json
  deriving DecidableEq

/-- The violation seen from one key further out. -/
def Violation.under (key : String) (violation : Violation) : Violation :=
  { violation with loc := key :: violation.loc }

/-- A field as it was read: its value, or its default beside the violations found. -/
abbrev Reading (α : Type) := α × List Violation

/-- The check of one value. -/
abbrev Check (α : Type) := Json → Except (List Violation) α

/-- A single fault at the value itself. -/
def Fault.at_ {α : Type} (fault : Fault) (found : Json) : Except (List Violation) α :=
  .error [⟨[], fault, found⟩]

/-- Strings that say true. -/
def trueWords : List String := ["1", "on", "t", "true", "y", "yes"]

/-- Strings that say false. -/
def falseWords : List String := ["0", "off", "f", "false", "n", "no"]

/-- Is the integer in the signed 64-bit range? -/
def isWord (i : Int) : Bool := -(Int.pow 2 63) ≤ i && i < Int.pow 2 63

/-- A truth value from 0 or 1. -/
def boolOfInt (found : Json) (i : Int) : Except (List Violation) Bool :=
  if i = 0 then .ok false
  else if i = 1 then .ok true
  else if isWord i then Fault.unreadableBool.at_ found
  else Fault.notBool.at_ found

/-- True or false, 0 or 1, or a word for either in any case. -/
def checkBool : Check Bool := fun found =>
  match found with
  | .bool b => .ok b
  | .int i => boolOfInt found i
  | .float x =>
    match x.toInt? with
    -- the least 64-bit number counts as too large when it is written as a fraction
    | some i => if i = -(Int.pow 2 63) then Fault.notBool.at_ found else boolOfInt found i
    | none => Fault.notBool.at_ found
  | .str s =>
    let word := String.ofList (s.toList.map Char.toLower)
    if word ∈ trueWords then .ok true
    else if word ∈ falseWords then .ok false
    else Fault.unreadableBool.at_ found
  | _ => Fault.notBool.at_ found

/-- A string. -/
def checkString : Check String := fun found =>
  match found with
  | .str s => .ok s
  | _ => Fault.notString.at_ found

/-- Any object. -/
def checkObject : Check Json.Members := fun found =>
  match found with
  | .obj members => .ok members
  | _ => Fault.notObject.at_ found

/-- The exact name of a log format. -/
def checkFormat : Check Log.Format := fun found =>
  match found with
  | .str "kv" => .ok .kv
  | .str "json" => .ok .json
  | .str "pretty" => .ok .pretty
  | _ => Fault.notFormat.at_ found

/-- Null, or a value that passes the check. -/
def optional {α : Type} (check : Check α) : Check (Option α) := fun found =>
  match found with
  | .null => .ok none
  | _ => (check found).map some

/-- The two names under which a field may be given. -/
structure FieldName where
  /-- The name in files, which wins. -/
  file : String
  /-- The other name; the same for most fields. -/
  other : String
  deriving DecidableEq, Repr

/-- The key under which the field is given, if it is. -/
def FieldName.given? (name : FieldName) (members : Json.Members) : Option String :=
  if Assoc.has name.file members then some name.file
  else if Assoc.has name.other members then some name.other
  else none

/-- Read a field by its check; `default` stands for an absent field. -/
def FieldName.read {α : Type} (name : FieldName) (members : Json.Members) (check : Check α)
    (default : α) : Reading α :=
  match name.given? members with
  | none => (default, [])
  | some key =>
    match check (Json.member key members) with
    | .ok value => (value, [])
    | .error violations => (default, violations.map (Violation.under key))

/-- The members that no field reads, in order. -/
def unread (fields : List FieldName) (members : Json.Members) : Json.Members :=
  let used := fields.filterMap (·.given? members)
  members.filter fun entry => entry.1 ∉ used

/-- Violations for keys where none is allowed. -/
def refuse (members : Json.Members) : List Violation :=
  members.map fun (key, value) => ⟨[key], .unknownKey, value⟩

/-- A value, unless there are violations. -/
def accept {α : Type} (violations : List Violation) (value : α) : Except (List Violation) α :=
  if violations.isEmpty then .ok value else .error violations

/-! ### The Julia section -/

/-- The Julia section. It is handed to the server as a whole, so unknown keys are kept. -/
structure JuliaSettings where
  /-- Is the language server wanted? -/
  enabled : Bool := true
  /-- The interpreter to use; empty to search for one. -/
  executablePath : String := ""
  /-- The environment to analyze; empty to ask the interpreter. -/
  environmentPath : String := ""
  /-- Settings of the linter. -/
  lint : Json.Members := []
  /-- Settings of the formatter. -/
  format : Json.Members := []
  /-- The other keys, in order. -/
  extra : Json.Members := []
  deriving DecidableEq, Inhabited

namespace JuliaSettings

/-- The field `enabled`. -/
def enabledName : FieldName := ⟨"enabled", "enabled"⟩

/-- The field `executablePath`. -/
def executableName : FieldName := ⟨"executablePath", "executable_path"⟩

/-- The field `environmentPath`. -/
def environmentName : FieldName := ⟨"environmentPath", "environment_path"⟩

/-- The field `lint`. -/
def lintName : FieldName := ⟨"lint", "lint"⟩

/-- The field `format`. -/
def formatName : FieldName := ⟨"format", "format"⟩

/-- The declared fields in order. -/
def fields : List FieldName :=
  [enabledName, executableName, environmentName, lintName, formatName]

/-- Read the section. -/
def read : Check JuliaSettings := fun found =>
  match found with
  | .obj members =>
    let enabled := enabledName.read members checkBool true
    let executable := executableName.read members checkString ""
    let environment := environmentName.read members checkString ""
    let lint := lintName.read members checkObject []
    let format := formatName.read members checkObject []
    accept (enabled.2 ++ executable.2 ++ environment.2 ++ lint.2 ++ format.2)
      { enabled := enabled.1, executablePath := executable.1, environmentPath := environment.1,
        lint := lint.1, format := format.1, extra := unread fields members }
  | _ => (Fault.notSection "JuliaConfig").at_ found

/-- The section as JSON members: the declared fields, then the other keys. -/
def dump (settings : JuliaSettings) : Json.Members :=
  [("enabled", .bool settings.enabled), ("executablePath", .str settings.executablePath),
    ("environmentPath", .str settings.environmentPath), ("lint", .obj settings.lint),
    ("format", .obj settings.format)] ++ settings.extra

end JuliaSettings

/-! ### The logging section -/

/-- The logging section; every field may be left open. -/
structure LoggingSettings where
  /-- The least severity written. -/
  level : Option String := none
  /-- The line format. -/
  format : Option Log.Format := none
  /-- Write to the console? -/
  console : Option Bool := none
  /-- Write to a file? -/
  file : Option Bool := none
  /-- Write to the development file? -/
  devFile : Option Bool := none
  deriving DecidableEq, Inhabited

namespace LoggingSettings

/-- The declared fields in order. -/
def fields : List FieldName :=
  [⟨"level", "level"⟩, ⟨"format", "format"⟩, ⟨"console", "console"⟩, ⟨"file", "file"⟩,
    ⟨"devFile", "dev_file"⟩]

/-- Read the section. -/
def read : Check LoggingSettings := fun found =>
  match found with
  | .obj members =>
    let level := FieldName.read ⟨"level", "level"⟩ members (optional checkString) none
    let format := FieldName.read ⟨"format", "format"⟩ members (optional checkFormat) none
    let console := FieldName.read ⟨"console", "console"⟩ members (optional checkBool) none
    let file := FieldName.read ⟨"file", "file"⟩ members (optional checkBool) none
    let devFile := FieldName.read ⟨"devFile", "dev_file"⟩ members (optional checkBool) none
    accept (level.2 ++ format.2 ++ console.2 ++ file.2 ++ devFile.2
        ++ refuse (unread fields members))
      ⟨level.1, format.1, console.1, file.1, devFile.1⟩
  | _ => (Fault.notSection "LoggingConfig").at_ found

/-- A truth value, or null. -/
def ofBool? : Option Bool → Json
  | none => .null
  | some b => .bool b

/-- The section as JSON members. -/
def dump (settings : LoggingSettings) : Json.Members :=
  [("level", .ofText? settings.level), ("format", .ofText? (settings.format.map Log.Format.name)),
    ("console", ofBool? settings.console), ("file", ofBool? settings.file),
    ("devFile", ofBool? settings.devFile)]

end LoggingSettings

/-! ### All settings -/

/-- All settings. -/
structure Settings where
  /-- The address of a schema for editors. -/
  schema : Option String := none
  /-- The least severity logged, unless the logging section says one. -/
  logLevel : Option String := none
  /-- The logging section. -/
  logging : Option LoggingSettings := none
  /-- The Julia section. -/
  julia : JuliaSettings := {}
  deriving DecidableEq, Inhabited

namespace Settings

/-- The declared fields in order. -/
def fields : List FieldName :=
  [⟨"$schema", "schema_"⟩, ⟨"logLevel", "log_level"⟩, ⟨"logging", "logging"⟩, ⟨"julia", "julia"⟩]

/-- Read all settings. -/
def read : Check Settings := fun found =>
  match found with
  | .obj members =>
    let schema := FieldName.read ⟨"$schema", "schema_"⟩ members (optional checkString) none
    let logLevel := FieldName.read ⟨"logLevel", "log_level"⟩ members (optional checkString) none
    let logging :=
      FieldName.read ⟨"logging", "logging"⟩ members (optional LoggingSettings.read) none
    let julia := FieldName.read ⟨"julia", "julia"⟩ members JuliaSettings.read {}
    accept (schema.2 ++ logLevel.2 ++ logging.2 ++ julia.2 ++ refuse (unread fields members))
      ⟨schema.1, logLevel.1, logging.1, julia.1⟩
  | _ => (Fault.notSection "Config").at_ found

/-- All settings as JSON. -/
def dump (settings : Settings) : Json :=
  .obj
    [("$schema", .ofText? settings.schema), ("logLevel", .ofText? settings.logLevel),
      ("logging", match settings.logging with
        | none => .null
        | some logging => .obj logging.dump),
      ("julia", .obj settings.julia.dump)]

/-- Members without those that are null. -/
def withoutNulls (members : Json.Members) : Json.Members := members.filter fun entry =>
  entry.2 ≠ .null

/-- All settings as JSON without null fields and null extra keys; nulls deeper inside stay. -/
def dumpPresent (settings : Settings) : Json :=
  .obj (withoutNulls
    [("$schema", .ofText? settings.schema), ("logLevel", .ofText? settings.logLevel),
      ("logging", match settings.logging with
        | none => .null
        | some logging => .obj (withoutNulls logging.dump)),
      ("julia", .obj (withoutNulls settings.julia.dump))])

/-- The value of a dotted section name such as `julia.lint`; null when a part of it is missing. -/
def valueAt (settings : Settings) (name : String) : Json :=
  (settings.dumpPresent.follow? (Text.split name '.')).getD .null

end Settings

end JuliaSession.Config
