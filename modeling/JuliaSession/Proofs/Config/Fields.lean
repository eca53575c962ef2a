import Mathlib.Tactic.SplitIfs
import JuliaSession.Config.Schema

/-!
# How fields are read

A section of the settings is valid if the fields that are given pass their checks and, where unknown
keys are refused, every key is the one under which some field is given.

* `FieldName.read_snd_eq_nil_iff`: when a field is read without violations.
* `unread_eq_nil_iff`: when no key is left over.
* `LoggingSettings.read_eq_ok_iff`, `JuliaSettings.read_eq_ok_iff`, `Settings.read_eq_ok_iff`: when
  a section is valid, and what is read of it.
-/

namespace JuliaSession.Config

variable {α : Type}

/-! ### Checks -/

/-- A value passes a check. -/
def Passes (check : Check α) (found : Json) : Prop := ∃ value, check found = .ok value

/-- A check that refuses a value says why. -/
def Definite (check : Check α) : Prop := ∀ found, check found ≠ .error []

theorem accept_eq_ok_iff {violations : List Violation} {value result : α} :
    accept violations value = .ok result ↔ violations = [] ∧ value = result := by
  cases violations with
  | nil => exact ⟨fun h => ⟨rfl, Except.ok.inj h⟩, fun h => congrArg Except.ok h.2⟩
  | cons violation rest => exact ⟨nofun, fun h => nomatch h.1⟩

theorem accept_ne_error_nil (violations : List Violation) (value : α) :
    accept violations value ≠ .error [] := by
  cases violations with
  | nil => exact nofun
  | cons violation rest => exact nofun

theorem definite_checkBool : Definite checkBool := by
  -- integers are read alike whether they are written as integers or as floats
  have hint (found : Json) (i : Int) : boolOfInt found i ≠ .error [] := by
    unfold boolOfInt
    split_ifs <;> exact nofun
  intro found
  unfold checkBool
  split
  · exact nofun
  · exact hint _ _
  · split
    · split_ifs
      · exact nofun
      · exact hint _ _
    · exact nofun
  · dsimp only
    split_ifs <;> exact nofun
  · exact nofun

theorem definite_checkString : Definite checkString := by
  intro found
  cases found <;> exact nofun

theorem definite_checkObject : Definite checkObject := by
  intro found
  cases found <;> exact nofun

theorem definite_checkFormat : Definite checkFormat := by
  intro found
  unfold checkFormat
  split <;> exact nofun

theorem Definite.optional {check : Check α} (h : Definite check) : Definite (optional check) := by
  have hmap (found : Json) : (check found).map some ≠ .error [] := by
    cases hfound : check found with
    | ok value => exact nofun
    | error violations =>
      intro hnil
      cases hnil
      exact h found hfound
  intro found
  cases found with
  | null => exact nofun
  | bool | int | float | str | arr | obj => exact hmap _

/-! ### Fields -/

namespace FieldName

variable (name : FieldName) (members : Json.Members)

theorem given?_eq_some_iff {key : String} :
    name.given? members = some key ↔
      key = name.file ∧ Assoc.has name.file members ∨
        key = name.other ∧ Assoc.has name.other members ∧ ¬ Assoc.has name.file members := by
  unfold given?
  constructor
  · intro h
    split_ifs at h with hfile hother
    · exact .inl ⟨(Option.some.inj h).symm, hfile⟩
    · exact .inr ⟨(Option.some.inj h).symm, hother, hfile⟩
  · rintro (⟨rfl, hfile⟩ | ⟨rfl, hother, hfile⟩)
    · rw [if_pos hfile]
    · rw [if_neg hfile, if_pos hother]

/-- What a field is given as is there. -/
theorem has_of_given? {key : String} (h : name.given? members = some key) :
    Assoc.has key members := by
  rcases (name.given?_eq_some_iff members).1 h with ⟨rfl, hfile⟩ | ⟨rfl, hother, -⟩
  · exact hfile
  · exact hother

/-- If the field is given, its value passes the check. -/
def Accepts (check : Check α) : Prop :=
  ∀ key, name.given? members = some key → Passes check (Json.member key members)

variable {check : Check α} {default : α}

theorem read_snd_eq_nil_iff (h : Definite check) :
    (name.read members check default).2 = [] ↔ name.Accepts members check := by
  unfold read Accepts
  cases name.given? members with
  | none => exact ⟨fun _ => nofun, fun _ => rfl⟩
  | some key =>
    dsimp only
    cases hcheck : check (Json.member key members) with
    | ok value =>
      refine ⟨fun _ => ?_, fun _ => rfl⟩
      rintro _ ⟨⟩
      exact ⟨value, hcheck⟩
    | error violations =>
      constructor
      -- a check that fails names at least one violation, so that an empty list cannot come from a
      -- failure
      · intro hnil
        rw [List.map_eq_nil_iff.1 hnil] at hcheck
        exact absurd hcheck (h _)
      · intro hpasses
        obtain ⟨value, hvalue⟩ := hpasses key rfl
        exact absurd (hcheck.symm.trans hvalue) nofun

/-- A field that is given and passes is read as its value. -/
theorem read_fst {key : String} {value : α} (hgiven : name.given? members = some key)
    (hvalue : check (Json.member key members) = .ok value) :
    (name.read members check default).1 = value := by
  unfold read
  rw [hgiven]
  dsimp only
  rw [hvalue]

end FieldName

/-- No key is left over if every key is the one under which some field is given. -/
theorem unread_eq_nil_iff {fields : List FieldName} {members : Json.Members} :
    unread fields members = [] ↔
      ∀ key ∈ Assoc.keys members, ∃ name ∈ fields, name.given? members = some key := by
  unfold unread Assoc.keys
  rw [List.filter_eq_nil_iff]
  simp

theorem refuse_eq_nil_iff {members : Json.Members} : refuse members = [] ↔ members = [] :=
  List.map_eq_nil_iff

/-! ### Sections -/

namespace LoggingSettings

/-- The fields of the logging section pass their checks. -/
structure Accepted (members : Json.Members) : Prop where
  /-- The least severity. -/
  level : FieldName.Accepts ⟨"level", "level"⟩ members (optional checkString)
  /-- The line format. -/
  format : FieldName.Accepts ⟨"format", "format"⟩ members (optional checkFormat)
  /-- Whether the console is written to. -/
  console : FieldName.Accepts ⟨"console", "console"⟩ members (optional checkBool)
  /-- Whether a file is written. -/
  file : FieldName.Accepts ⟨"file", "file"⟩ members (optional checkBool)
  /-- Whether the development file is written. -/
  devFile : FieldName.Accepts ⟨"devFile", "dev_file"⟩ members (optional checkBool)

theorem definite_read : Definite read := by
  intro found
  cases found with
  | obj members => exact accept_ne_error_nil _ _
  | null | bool | int | float | str | arr => exact nofun

theorem read_eq_ok_iff {members : Json.Members} {settings : LoggingSettings} :
    read (.obj members) = .ok settings ↔
      Accepted members ∧ unread fields members = [] ∧
        settings =
          ⟨(FieldName.read ⟨"level", "level"⟩ members (optional checkString) none).1,
            (FieldName.read ⟨"format", "format"⟩ members (optional checkFormat) none).1,
            (FieldName.read ⟨"console", "console"⟩ members (optional checkBool) none).1,
            (FieldName.read ⟨"file", "file"⟩ members (optional checkBool) none).1,
            (FieldName.read ⟨"devFile", "dev_file"⟩ members (optional checkBool) none).1⟩ := by
  have hstring := definite_checkString.optional
  have hbool := definite_checkBool.optional
  unfold read
  rw [accept_eq_ok_iff]
  simp only [List.append_eq_nil_iff, refuse_eq_nil_iff,
    FieldName.read_snd_eq_nil_iff _ _ hstring,
    FieldName.read_snd_eq_nil_iff _ _ definite_checkFormat.optional,
    FieldName.read_snd_eq_nil_iff _ _ hbool]
  constructor
  · rintro ⟨⟨⟨⟨⟨⟨hlevel, hformat⟩, hconsole⟩, hfile⟩, hdevFile⟩, hunread⟩, rfl⟩
    exact ⟨⟨hlevel, hformat, hconsole, hfile, hdevFile⟩, hunread, rfl⟩
  · rintro ⟨h, hunread, rfl⟩
    exact ⟨⟨⟨⟨⟨⟨h.level, h.format⟩, h.console⟩, h.file⟩, h.devFile⟩, hunread⟩, rfl⟩

end LoggingSettings

namespace JuliaSettings

/-- The fields of the Julia section pass their checks. -/
structure Accepted (members : Json.Members) : Prop where
  /-- Whether the language server is wanted. -/
  enabled : enabledName.Accepts members checkBool
  /-- The interpreter. -/
  executable : executableName.Accepts members checkString
  /-- The environment. -/
  environment : environmentName.Accepts members checkString
  /-- The settings of the linter. -/
  lint : lintName.Accepts members checkObject
  /-- The settings of the formatter. -/
  format : formatName.Accepts members checkObject

theorem definite_read : Definite read := by
  intro found
  cases found with
  | obj members => exact accept_ne_error_nil _ _
  | null | bool | int | float | str | arr => exact nofun

theorem read_eq_ok_iff {members : Json.Members} {settings : JuliaSettings} :
    read (.obj members) = .ok settings ↔
      Accepted members ∧
        settings =
          { enabled := (enabledName.read members checkBool true).1,
            executablePath := (executableName.read members checkString "").1,
            environmentPath := (environmentName.read members checkString "").1,
            lint := (lintName.read members checkObject []).1,
            format := (formatName.read members checkObject []).1,
            extra := unread fields members } := by
  unfold read
  rw [accept_eq_ok_iff]
  simp only [List.append_eq_nil_iff,
    FieldName.read_snd_eq_nil_iff _ _ definite_checkBool,
    FieldName.read_snd_eq_nil_iff _ _ definite_checkString,
    FieldName.read_snd_eq_nil_iff _ _ definite_checkObject]
  constructor
  · rintro ⟨⟨⟨⟨⟨henabled, hexecutable⟩, henvironment⟩, hlint⟩, hformat⟩, rfl⟩
    exact ⟨⟨henabled, hexecutable, henvironment, hlint, hformat⟩, rfl⟩
  · rintro ⟨h, rfl⟩
    exact ⟨⟨⟨⟨⟨h.enabled, h.executable⟩, h.environment⟩, h.lint⟩, h.format⟩, rfl⟩

end JuliaSettings

namespace Settings

/-- The fields of the settings pass their checks. -/
structure Accepted (members : Json.Members) : Prop where
  /-- The address of a schema. -/
  schema : FieldName.Accepts ⟨"$schema", "schema_"⟩ members (optional checkString)
  /-- The least severity. -/
  logLevel : FieldName.Accepts ⟨"logLevel", "log_level"⟩ members (optional checkString)
  /-- The logging section. -/
  logging : FieldName.Accepts ⟨"logging", "logging"⟩ members (optional LoggingSettings.read)
  /-- The Julia section. -/
  julia : FieldName.Accepts ⟨"julia", "julia"⟩ members JuliaSettings.read

theorem read_eq_ok_iff {members : Json.Members} {settings : Settings} :
    read (.obj members) = .ok settings ↔
      Accepted members ∧ unread fields members = [] ∧
        settings =
          ⟨(FieldName.read ⟨"$schema", "schema_"⟩ members (optional checkString) none).1,
            (FieldName.read ⟨"logLevel", "log_level"⟩ members (optional checkString) none).1,
            (FieldName.read ⟨"logging", "logging"⟩ members
              (optional LoggingSettings.read) none).1,
            (FieldName.read ⟨"julia", "julia"⟩ members JuliaSettings.read {}).1⟩ := by
  have hstring := definite_checkString.optional
  have hlogging := LoggingSettings.definite_read.optional
  unfold read
  rw [accept_eq_ok_iff]
  simp only [List.append_eq_nil_iff, refuse_eq_nil_iff,
    FieldName.read_snd_eq_nil_iff _ _ hstring, FieldName.read_snd_eq_nil_iff _ _ hlogging,
    FieldName.read_snd_eq_nil_iff _ _ JuliaSettings.definite_read]
  constructor
  · rintro ⟨⟨⟨⟨⟨hschema, hlogLevel⟩, hlogging⟩, hjulia⟩, hunread⟩, rfl⟩
    exact ⟨⟨hschema, hlogLevel, hlogging, hjulia⟩, hunread, rfl⟩
  · rintro ⟨h, hunread, rfl⟩
    exact ⟨⟨⟨⟨⟨h.schema, h.logLevel⟩, h.logging⟩, h.julia⟩, hunread⟩, rfl⟩

end Settings

end JuliaSession.Config
