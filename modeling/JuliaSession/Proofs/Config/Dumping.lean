import JuliaSession.Proofs.Config.Sections

/-!
# Settings that are written out

Settings are written out with every declared field under its file name, behind them the unknown keys
of the Julia section. None of these is the file name of a field, or it would have been read as that
field. So what is written out is read as what it was written from, whichever names, words for truth
values and defaults the settings came from in the first place.

* `unread_written`: of a section that is written out, the unknown keys are left over.
* `JuliaSettings.WellFormed`: no unknown key is the file name of a field.
* `LoggingSettings.read_dump`, `JuliaSettings.read_dump`, `Settings.read_dump`: what is written out
  is read again.
* `Settings.dump_fixed`: settings that were read from anything are read again from their own dump.
-/

namespace JuliaSession.Config

variable {α : Type}

/-! ### Fields under their file names -/

namespace FieldName

variable (name : FieldName) {members : Json.Members} {found : Json}

theorem given?_of_get? (h : Assoc.get? name.file members = some found) :
    name.given? members = some name.file :=
  if_pos (by rw [Assoc.has, h, Option.isSome_some])

/-- A field that is given under its file name is read as what its check makes of the value. -/
theorem read_of_get? (h : Assoc.get? name.file members = some found) {check : Check α} {value : α}
    (hvalue : check found = .ok value) (default : α) :
    name.read members check default = (value, []) := by
  have hmember : Json.member name.file members = found := by rw [Json.member, h, Option.getD_some]
  unfold read
  rw [name.given?_of_get? h]
  dsimp only
  rw [hmember, hvalue]

end FieldName

/-- Of members that give every field under its file name, those behind the fields are left over. -/
theorem unread_written {fields : List FieldName} {declared extra : Json.Members}
    (hdeclared : Assoc.keys declared = fields.map FieldName.file)
    (hextra : ∀ name ∈ fields, name.file ∉ Assoc.keys extra) :
    unread fields (declared ++ extra) = extra := by
  have hgiven : ∀ name ∈ fields, name.given? (declared ++ extra) = some name.file := by
    intro name hname
    refine if_pos (Assoc.has_iff_mem_keys.2 ?_)
    have hkey : name.file ∈ Assoc.keys declared := hdeclared ▸ List.mem_map_of_mem hname
    rw [Assoc.keys, List.map_append, List.mem_append]
    exact .inl hkey
  have hused : fields.filterMap (·.given? (declared ++ extra)) = fields.map FieldName.file := by
    rw [List.filterMap_congr hgiven]
    exact congrFun List.filterMap_eq_map' fields
  -- the declared names are all used by some field, and no name of the rest is
  unfold unread
  rw [hused, List.filter_append, List.filter_eq_nil_iff.2, List.filter_eq_self.2, List.nil_append]
  · intro entry hentry
    refine decide_eq_true fun hkey => ?_
    obtain ⟨name, hname, hfile⟩ := List.mem_map.1 hkey
    exact hextra name hname (hfile ▸ List.mem_map_of_mem hentry)
  · intro entry hentry hunused
    exact of_decide_eq_true hunused (hdeclared ▸ List.mem_map_of_mem hentry)

/-- Where every field is written and nothing else, nothing is left over. -/
theorem unread_declared {fields : List FieldName} {declared : Json.Members}
    (hdeclared : Assoc.keys declared = fields.map FieldName.file) :
    unread fields declared = [] := by
  have h : unread fields (declared ++ []) = [] :=
    unread_written hdeclared fun _ _ => List.not_mem_nil
  rwa [List.append_nil] at h

/-! ### Values -/

theorem checkBool_bool (b : Bool) : checkBool (.bool b) = .ok b := rfl

theorem checkString_str (s : String) : checkString (.str s) = .ok s := rfl

theorem checkObject_obj (members : Json.Members) : checkObject (.obj members) = .ok members := rfl

theorem checkString_text (s : Option String) : optional checkString (.ofText? s) = .ok s := by
  cases s <;> rfl

theorem checkBool_truth (b : Option Bool) :
    optional checkBool (LoggingSettings.ofBool? b) = .ok b := by
  cases b <;> rfl

theorem checkFormat_name (format : Option Log.Format) :
    optional checkFormat (.ofText? (format.map Log.Format.name)) = .ok format := by
  rcases format with _ | _ | _ | _ <;> rfl

/-! ### Sections -/

/-- The logging section is read as what it was written from. -/
theorem LoggingSettings.read_dump (settings : LoggingSettings) :
    read (.obj settings.dump) = .ok settings := by
  -- field by field: every field is read under the name it was written, with the value it had
  have hlevel : FieldName.read ⟨"level", "level"⟩ settings.dump (optional checkString) none =
      (settings.level, []) := FieldName.read_of_get? _ rfl (checkString_text _) _
  have hformat : FieldName.read ⟨"format", "format"⟩ settings.dump (optional checkFormat) none =
      (settings.format, []) := FieldName.read_of_get? _ rfl (checkFormat_name _) _
  have hconsole : FieldName.read ⟨"console", "console"⟩ settings.dump (optional checkBool) none =
      (settings.console, []) := FieldName.read_of_get? _ rfl (checkBool_truth _) _
  have hfile : FieldName.read ⟨"file", "file"⟩ settings.dump (optional checkBool) none =
      (settings.file, []) := FieldName.read_of_get? _ rfl (checkBool_truth _) _
  have hdevFile : FieldName.read ⟨"devFile", "dev_file"⟩ settings.dump (optional checkBool) none =
      (settings.devFile, []) := FieldName.read_of_get? _ rfl (checkBool_truth _) _
  have hunread : unread fields settings.dump = [] := unread_declared rfl
  unfold read
  simp only [hlevel, hformat, hconsole, hfile, hdevFile, hunread]
  rfl

namespace JuliaSettings

/-- No unknown key is the file name of a field: it would have been read as that field. -/
def WellFormed (settings : JuliaSettings) : Prop :=
  ∀ name ∈ fields, name.file ∉ Assoc.keys settings.extra

theorem wellFormed_default : WellFormed {} := fun _ _ => List.not_mem_nil

/-- Settings that were read are well formed. -/
theorem wellFormed_of_read {found : Json} {settings : JuliaSettings}
    (h : read found = .ok settings) : settings.WellFormed := by
  cases found with
  | obj members =>
    obtain ⟨-, rfl⟩ := read_eq_ok_iff.1 h
    exact fun name hname => not_mem_keys_unread hname members
  | null | bool | int | float | str | arr => cases h

/-- The Julia section is read as what it was written from, unknown keys included. -/
theorem read_dump {settings : JuliaSettings} (h : settings.WellFormed) :
    read (.obj settings.dump) = .ok settings := by
  have henabled : enabledName.read settings.dump checkBool true = (settings.enabled, []) :=
    FieldName.read_of_get? _ rfl (checkBool_bool _) _
  have hexecutable : executableName.read settings.dump checkString "" =
      (settings.executablePath, []) := FieldName.read_of_get? _ rfl (checkString_str _) _
  have henvironment : environmentName.read settings.dump checkString "" =
      (settings.environmentPath, []) := FieldName.read_of_get? _ rfl (checkString_str _) _
  have hlint : lintName.read settings.dump checkObject [] = (settings.lint, []) :=
    FieldName.read_of_get? _ rfl (checkObject_obj _) _
  have hformat : formatName.read settings.dump checkObject [] = (settings.format, []) :=
    FieldName.read_of_get? _ rfl (checkObject_obj _) _
  have hunread : unread fields settings.dump = settings.extra := unread_written rfl h
  unfold read
  simp only [henabled, hexecutable, henvironment, hlint, hformat, hunread]
  rfl

end JuliaSettings

theorem checkLogging_section (logging : Option LoggingSettings) :
    optional LoggingSettings.read (match logging with
      | none => .null
      | some logging => .obj logging.dump) = .ok logging := by
  cases logging with
  | none => rfl
  | some logging =>
    change (LoggingSettings.read (.obj logging.dump)).map some = _
    rw [logging.read_dump]
    rfl

/-! ### All settings -/

namespace Settings

/-- The Julia section of settings that were read is well formed, also where it is a default. -/
theorem wellFormed_of_read {found : Json} {settings : Settings} (h : read found = .ok settings) :
    settings.julia.WellFormed := by
  cases found with
  | obj members =>
    obtain ⟨-, -, rfl⟩ := read_eq_ok_iff.1 h
    change (FieldName.read ⟨"julia", "julia"⟩ members JuliaSettings.read {}).1.WellFormed
    unfold FieldName.read
    split
    · exact JuliaSettings.wellFormed_default
    · split
      next hvalue => exact JuliaSettings.wellFormed_of_read hvalue
      next => exact JuliaSettings.wellFormed_default
  | null | bool | int | float | str | arr => cases h

/-- The members that settings are written out as. -/
def members (settings : Settings) : Json.Members :=
  [("$schema", .ofText? settings.schema), ("logLevel", .ofText? settings.logLevel),
    ("logging", match settings.logging with
      | none => .null
      | some logging => .obj logging.dump),
    ("julia", .obj settings.julia.dump)]

theorem dump_eq (settings : Settings) : settings.dump = .obj settings.members := rfl

/-- Settings are read as what they were written from. -/
theorem read_dump {settings : Settings} (h : settings.julia.WellFormed) :
    read settings.dump = .ok settings := by
  have hschema : FieldName.read ⟨"$schema", "schema_"⟩ settings.members (optional checkString)
      none = (settings.schema, []) := FieldName.read_of_get? _ rfl (checkString_text _) _
  have hlogLevel : FieldName.read ⟨"logLevel", "log_level"⟩ settings.members
      (optional checkString) none = (settings.logLevel, []) :=
    FieldName.read_of_get? _ rfl (checkString_text _) _
  have hlogging : FieldName.read ⟨"logging", "logging"⟩ settings.members
      (optional LoggingSettings.read) none = (settings.logging, []) :=
    FieldName.read_of_get? _ rfl (checkLogging_section _) _
  have hjulia : FieldName.read ⟨"julia", "julia"⟩ settings.members JuliaSettings.read {} =
      (settings.julia, []) := FieldName.read_of_get? _ rfl (JuliaSettings.read_dump h) _
  have hunread : unread fields settings.members = [] := unread_declared rfl
  rw [dump_eq]
  unfold read
  simp only [hschema, hlogLevel, hlogging, hjulia, hunread]
  rfl

/-- Settings that were read from anything are valid when they are written out, and are the same
settings again: one pass fixes names, words for truth values and defaults. -/
theorem dump_fixed {found : Json} {settings : Settings} (h : read found = .ok settings) :
    read settings.dump = .ok settings ∧ (read settings.dump).map dump = .ok settings.dump := by
  have hagain := read_dump (wellFormed_of_read h)
  exact ⟨hagain, congrArg (Except.map dump) hagain⟩

/-- Settings under all kinds of names: a word for a truth value, a number for another one, a field
under its other name, one under both, and an unknown key. -/
def mixedSettings : Json :=
  .obj [("log_level", .str "info"), ("logging", .obj [("dev_file", .int 1)]),
    ("julia", .obj [("executable_path", .str "/b"), ("enabled", .str "YES"),
      ("executablePath", .str "/a"), ("trace", .null)])]

theorem dump_fixed_mixed :
    ∃ settings, read mixedSettings = .ok settings ∧
      settings.julia.extra = [("executable_path", .str "/b"), ("trace", .null)] ∧
      read settings.dump = .ok settings ∧ (read settings.dump).map dump = .ok settings.dump :=
  ⟨_, rfl, rfl, @dump_fixed mixedSettings _ rfl⟩

end Settings

end JuliaSession.Config
