import JuliaSession.Proofs.Config.Fields
import JuliaSession.Proofs.Config.Merging

/-!
# Fields with two names in merged layers

Layers of settings are merged by their keys, before the names of fields are looked at. So a field
that one layer gives under its file name and another one under its other name is there twice in the
merged data. Where unknown keys are refused it is refused then (`FieldName.Mixed`); where they are
kept the file name wins, also if it is the lower layer that uses it (`FieldName.Shadowed`).

* `unread_merge_eq_nil_iff`: when no key is left over in a merged section.
* `twoNamed`: the fields that have two names.
* `TwoNamed.value?_merge`: which layer's value such a field has in the merged settings.
* `Settings.passes_merge_iff`: when the merged data of two valid layers is valid.
* `precedence_iff`: when the upper layer takes precedence, whatever names the layers use.
-/

namespace JuliaSession.Config

open Json (DistinctKeys)

variable {α : Type}

/-! ### Values of merged layers -/

theorem mergeValue_of_not_isObject {value : Json} (h : value.isObject = false)
    (lower : Option Json) : mergeValue lower value = value := by
  cases value with
  | obj members => cases h
  | null | bool | int | float | str | arr => simp [mergeValue]

/-- A value over another one passes if it does alone and, where both are objects, merged. -/
theorem passes_mergeValue {check : Check α} {lower : Option Json} {above : Json}
    (habove : Passes check above)
    (hobjects : ∀ members others, lower = some (.obj members) → above = .obj others →
      Passes check (.obj (merge members others))) :
    Passes check (mergeValue lower above) := by
  cases habove' : above.isObject with
  | false => rwa [mergeValue_of_not_isObject habove']
  | true =>
    cases above with
    | null | bool | int | float | str | arr => cases habove'
    | obj others =>
      unfold mergeValue
      split
      next members => exact hobjects members others rfl rfl
      next => exact habove

section Merge

variable {lower upper : Json.Members} (hkeys : (Assoc.keys upper).Nodup)
include hkeys

theorem get?_merge_of_none {key : String} (h : Assoc.get? key upper = none) :
    Assoc.get? key (merge lower upper) = Assoc.get? key lower := by
  rw [get?_merge hkeys, h]

theorem get?_merge_of_some {key : String} {value : Json} (h : Assoc.get? key upper = some value) :
    Assoc.get? key (merge lower upper) = some (mergeValue (Assoc.get? key lower) value) := by
  rw [get?_merge hkeys, h]

/-- A key is in merged layers if it is in one of them. -/
theorem has_merge_iff {key : String} :
    Assoc.has key (merge lower upper) ↔ Assoc.has key lower ∨ Assoc.has key upper := by
  unfold Assoc.has
  cases hupper : Assoc.get? key upper with
  | none => simp [get?_merge_of_none hkeys hupper]
  | some value => simp [get?_merge_of_some hkeys hupper]

end Merge

namespace FieldName

/-- The layers give the field under different names. -/
def Mixed (name : FieldName) (lower upper : Json.Members) : Prop :=
  ∃ below above, name.given? lower = some below ∧ name.given? upper = some above ∧ below ≠ above

/-- The lower layer gives the field under its file name, and the upper one does not. -/
def Shadowed (name : FieldName) (lower upper : Json.Members) : Prop :=
  Assoc.has name.file lower ∧ name.given? upper = some name.other ∧ name.file ≠ name.other

variable (name : FieldName) {lower upper : Json.Members}

/-- A field that is shadowed is given under different names. -/
theorem Shadowed.mixed {name : FieldName} (h : name.Shadowed lower upper) :
    name.Mixed lower upper :=
  ⟨name.file, name.other, (name.given?_eq_some_iff _).2 (.inl ⟨rfl, h.1⟩), h.2⟩

/-- A field with one name is always given under this name. -/
theorem given?_eq_file (h : name.file = name.other) {members : Json.Members} {key : String}
    (hgiven : name.given? members = some key) : key = name.file := by
  rcases (name.given?_eq_some_iff members).1 hgiven with ⟨rfl, -⟩ | ⟨rfl, -⟩
  · rfl
  · exact h.symm

theorem not_mixed_of_eq (h : name.file = name.other) : ¬ name.Mixed lower upper := by
  rintro ⟨below, above, hbelow, habove, hne⟩
  exact hne ((name.given?_eq_file h hbelow).trans (name.given?_eq_file h habove).symm)

/-- Only the fields with two names can be mixed. -/
theorem not_mixed_of_two_names {fields : List FieldName}
    (h : ∀ name ∈ fields, name.file ≠ name.other → ¬ name.Mixed lower upper) :
    ∀ name ∈ fields, ¬ name.Mixed lower upper := by
  intro name hname
  by_cases heq : name.file = name.other
  · exact name.not_mixed_of_eq heq
  · exact h name hname heq

/-- The upper layer does not have the file name of a field that it gives under the other one. -/
theorem get?_file_eq_none {members : Json.Members} (h : name.given? members = some name.other)
    (hne : name.file ≠ name.other) : Assoc.get? name.file members = none := by
  rcases (name.given?_eq_some_iff members).1 h with ⟨hother, -⟩ | ⟨-, -, hfile⟩
  · exact absurd hother.symm hne
  · exact Option.not_isSome_iff_eq_none.1 hfile

section Merge

variable (hkeys : (Assoc.keys upper).Nodup)
include hkeys

/-- A layer that has the key under which the merged layers give a field gives it under this key. -/
theorem given?_of_merge {key : String} (h : name.given? (merge lower upper) = some key) :
    (Assoc.has key lower → name.given? lower = some key) ∧
      (Assoc.has key upper → name.given? upper = some key) := by
  rcases (name.given?_eq_some_iff _).1 h with ⟨rfl, -⟩ | ⟨rfl, -, hfile⟩
  · exact ⟨fun hlower => (name.given?_eq_some_iff _).2 (.inl ⟨rfl, hlower⟩),
      fun hupper => (name.given?_eq_some_iff _).2 (.inl ⟨rfl, hupper⟩)⟩
  · rw [has_merge_iff hkeys, not_or] at hfile
    exact ⟨fun hlower => (name.given?_eq_some_iff _).2 (.inr ⟨rfl, hlower, hfile.1⟩),
      fun hupper => (name.given?_eq_some_iff _).2 (.inr ⟨rfl, hupper, hfile.2⟩)⟩

theorem given?_merge_of_shadowed (h : name.Shadowed lower upper) :
    name.given? (merge lower upper) = some name.file :=
  (name.given?_eq_some_iff _).2 (.inl ⟨rfl, (has_merge_iff hkeys).2 (.inl h.1)⟩)

theorem given?_merge_of_not_shadowed {key : String} (hupper : name.given? upper = some key)
    (h : ¬ name.Shadowed lower upper) : name.given? (merge lower upper) = some key := by
  refine (name.given?_eq_some_iff _).2 ?_
  rcases (name.given?_eq_some_iff _).1 hupper with ⟨rfl, hfile⟩ | ⟨rfl, hother, hfile⟩
  · exact .inl ⟨rfl, (has_merge_iff hkeys).2 (.inr hfile)⟩
  · -- a file name in the merged layers would come from the lower one, and shadow the field
    refine .inr ⟨rfl, (has_merge_iff hkeys).2 (.inr hother), fun hmerged => h ⟨?_, hupper, ?_⟩⟩
    · exact ((has_merge_iff hkeys).1 hmerged).resolve_right hfile
    · intro heq
      exact hfile (heq ▸ hother)

/-- A field that only one layer gives is given by the merged layers under the same key. -/
theorem given?_merge_of_lower {key : String} (hlower : name.given? lower = some key)
    (hupper : name.given? upper = none) : name.given? (merge lower upper) = some key := by
  have hnone : ¬ Assoc.has name.file upper ∧ ¬ Assoc.has name.other upper := by
    unfold given? at hupper
    split_ifs at hupper with hfile hother
    exact ⟨hfile, hother⟩
  refine (name.given?_eq_some_iff _).2 ?_
  simp only [has_merge_iff hkeys, hnone.1, hnone.2, Bool.false_eq_true, or_false]
  exact (name.given?_eq_some_iff _).1 hlower

/-- A field passes in merged layers if it passes in both, and two objects that pass for it merge to
one that passes. -/
theorem Accepts.merge {check : Check α} (hlower : name.Accepts lower check)
    (hupper : name.Accepts upper check)
    (hstable : ∀ key below above, name.given? upper = some key →
      Assoc.get? key lower = some (.obj below) → Assoc.get? key upper = some (.obj above) →
      Passes check (.obj below) → Passes check (.obj above) →
      Passes check (.obj (merge below above))) :
    name.Accepts (merge lower upper) check := by
  intro key hgiven
  obtain ⟨hbelow, habove⟩ := name.given?_of_merge hkeys hgiven
  cases hupperKey : Assoc.get? key upper with
  | none =>
    have hlowerKey : Assoc.has key lower := by
      refine ((has_merge_iff hkeys).1 (name.has_of_given? _ hgiven)).resolve_right ?_
      rw [Assoc.has, hupperKey, Option.isSome_none]
      exact Bool.false_ne_true
    rw [Json.member, get?_merge_of_none hkeys hupperKey]
    exact hlower key (hbelow hlowerKey)
  | some above =>
    -- the lower layer gives the field under the same key if it has the key at all
    have hupperGiven := habove (by rw [Assoc.has, hupperKey, Option.isSome_some])
    have hpasses := hupper key hupperGiven
    rw [Json.member, hupperKey, Option.getD_some] at hpasses
    rw [Json.member, get?_merge_of_some hkeys hupperKey, Option.getD_some]
    refine passes_mergeValue hpasses fun members others hlowerKey habove => ?_
    subst habove
    have hpassesBelow := hlower key (hbelow (by rw [Assoc.has, hlowerKey, Option.isSome_some]))
    rw [Json.member, hlowerKey, Option.getD_some] at hpassesBelow
    exact hstable key members others hupperGiven hlowerKey hupperKey hpassesBelow hpasses

end Merge

end FieldName

/-! ### Unknown keys of merged layers -/

/-- Two fields share a name. -/
def FieldName.Meets (first second : FieldName) : Prop :=
  first.file = second.file ∨ first.file = second.other ∨ first.other = second.file ∨
    first.other = second.other

instance (first second : FieldName) : Decidable (first.Meets second) :=
  inferInstanceAs (Decidable (_ ∨ _ ∨ _ ∨ _))

/-- Fields that are given under the same key share a name. -/
theorem FieldName.meets_of_given? {first second : FieldName} {members others : Json.Members}
    {key : String} (h : first.given? members = some key) (h' : second.given? others = some key) :
    first.Meets second := by
  rcases (first.given?_eq_some_iff _).1 h with ⟨rfl, -⟩ | ⟨rfl, -⟩ <;>
    rcases (second.given?_eq_some_iff _).1 h' with ⟨heq, -⟩ | ⟨heq, -⟩ <;>
    simp [Meets, heq]

/-- No two fields share a name. -/
def Apart (fields : List FieldName) : Prop :=
  ∀ first ∈ fields, ∀ second ∈ fields, first.Meets second → first = second

instance (fields : List FieldName) : Decidable (Apart fields) :=
  inferInstanceAs (Decidable (∀ first ∈ fields, ∀ second ∈ fields, _))

/-- Where two layers have no unknown keys, the merged layers have none exactly if no field is given
under different names. -/
theorem unread_merge_eq_nil_iff {fields : List FieldName} (hapart : Apart fields)
    {lower upper : Json.Members} (hkeys : (Assoc.keys upper).Nodup)
    (hlower : unread fields lower = []) (hupper : unread fields upper = []) :
    unread fields (merge lower upper) = [] ↔ ∀ name ∈ fields, ¬ name.Mixed lower upper := by
  rw [unread_eq_nil_iff] at hlower hupper ⊢
  constructor
  · rintro h name hname ⟨below, above, hbelow, habove, hne⟩
    -- each of the two keys is the one under which the field is given
    have hgiven {members : Json.Members} {key : String} (hkey : name.given? members = some key)
        (hmerged : Assoc.has key (merge lower upper)) :
        name.given? (merge lower upper) = some key := by
      obtain ⟨other, hother, hread⟩ := h key (Assoc.has_iff_mem_keys.1 hmerged)
      rwa [hapart name hname other hother (FieldName.meets_of_given? hkey hread)]
    have hfirst := hgiven hbelow
      ((has_merge_iff hkeys).2 (.inl (name.has_of_given? _ hbelow)))
    have hsecond := hgiven habove
      ((has_merge_iff hkeys).2 (.inr (name.has_of_given? _ habove)))
    exact hne (Option.some.inj (hfirst.symm.trans hsecond))
  · intro hunmixed key hkey
    rcases (has_merge_iff hkeys).1 (Assoc.has_iff_mem_keys.2 hkey) with hmem | hmem
    · obtain ⟨name, hname, hbelow⟩ := hlower key (Assoc.has_iff_mem_keys.1 hmem)
      refine ⟨name, hname, ?_⟩
      cases habove : name.given? upper with
      | none => exact name.given?_merge_of_lower hkeys hbelow habove
      | some above =>
        obtain rfl : key = above :=
          Classical.byContradiction fun hne => hunmixed name hname ⟨key, above, hbelow, habove, hne⟩
        exact name.given?_merge_of_not_shadowed hkeys habove fun hshadowed =>
          hunmixed name hname hshadowed.mixed
    · obtain ⟨name, hname, habove⟩ := hupper key (Assoc.has_iff_mem_keys.1 hmem)
      exact ⟨name, hname, name.given?_merge_of_not_shadowed hkeys habove fun hshadowed =>
        hunmixed name hname hshadowed.mixed⟩

/-! ### Merged sections -/

/-- A check that passes no object. -/
def Scalar (check : Check α) : Prop := ∀ members, ¬ Passes check (.obj members)

theorem scalar_checkBool : Scalar checkBool := fun _ ⟨_, h⟩ => nomatch h

theorem scalar_checkString : Scalar checkString := fun _ ⟨_, h⟩ => nomatch h

theorem scalar_checkFormat : Scalar checkFormat := fun _ ⟨_, h⟩ => nomatch h

/-- An object passes if there is one that passes, whether or not there may be none. -/
theorem passes_optional_obj {check : Check α} {members : Json.Members} :
    Passes (optional check) (.obj members) ↔ Passes check (.obj members) := by
  change (∃ value, (check (.obj members)).map some = .ok value) ↔ _
  cases hcheck : check (.obj members) with
  | ok found => exact ⟨fun _ => ⟨found, hcheck⟩, fun _ => ⟨some found, rfl⟩⟩
  | error violations =>
    constructor
    · rintro ⟨_, hvalue⟩
      cases hvalue
    · rintro ⟨_, hvalue⟩
      exact nomatch hcheck.symm.trans hvalue

theorem Scalar.optional {check : Check α} (h : Scalar check) : Scalar (optional check) :=
  fun members hpasses => h members (passes_optional_obj.1 hpasses)

/-- What passes a check that passes no object is none. -/
theorem Scalar.not_isObject {check : Check α} (h : Scalar check) {found : Json}
    (hpasses : Passes check found) : found.isObject = false := by
  cases found with
  | obj members => exact absurd hpasses (h members)
  | null | bool | int | float | str | arr => rfl

section Merge

variable {lower upper : Json.Members} (hkeys : (Assoc.keys upper).Nodup)
include hkeys

/-- A field that is no object passes in merged layers. -/
theorem FieldName.Accepts.merge_scalar {name : FieldName} {check : Check α} (h : Scalar check)
    (hlower : name.Accepts lower check) (hupper : name.Accepts upper check) :
    name.Accepts (Config.merge lower upper) check :=
  hlower.merge name hkeys hupper fun _ below _ _ _ _ hbelow _ => absurd hbelow (h below)

/-- Where any objects pass, merged objects do. -/
theorem FieldName.Accepts.merge_object {name : FieldName}
    (hlower : name.Accepts lower checkObject) (hupper : name.Accepts upper checkObject) :
    name.Accepts (Config.merge lower upper) checkObject :=
  hlower.merge name hkeys hupper fun _ _ _ _ _ _ _ _ => ⟨_, rfl⟩

/-- Two valid logging sections merge to a valid one exactly if they do not give a field under
different names. -/
theorem LoggingSettings.passes_merge_iff (hlower : Passes LoggingSettings.read (.obj lower))
    (hupper : Passes LoggingSettings.read (.obj upper)) :
    Passes LoggingSettings.read (.obj (merge lower upper)) ↔
      ¬ FieldName.Mixed ⟨"devFile", "dev_file"⟩ lower upper := by
  obtain ⟨_, hlower⟩ := hlower
  obtain ⟨_, hupper⟩ := hupper
  obtain ⟨hbelow, hbelowUnread, -⟩ := LoggingSettings.read_eq_ok_iff.1 hlower
  obtain ⟨habove, haboveUnread, -⟩ := LoggingSettings.read_eq_ok_iff.1 hupper
  have hunread := unread_merge_eq_nil_iff (by decide : Apart LoggingSettings.fields) hkeys
    hbelowUnread haboveUnread
  constructor
  · rintro ⟨_, hmerged⟩
    obtain ⟨-, hmergedUnread, -⟩ := LoggingSettings.read_eq_ok_iff.1 hmerged
    exact hunread.1 hmergedUnread _ (by decide)
  · intro hunmixed
    -- it is the only field of the section with two names
    have htwo : ∀ name ∈ LoggingSettings.fields, name.file ≠ name.other →
        name = ⟨"devFile", "dev_file"⟩ := by decide
    have hmixed : ∀ name ∈ LoggingSettings.fields, ¬ name.Mixed lower upper := by
      apply FieldName.not_mixed_of_two_names
      intro name hname hne
      rwa [htwo name hname hne]
    refine ⟨_, LoggingSettings.read_eq_ok_iff.2 ⟨?_, hunread.2 hmixed, rfl⟩⟩
    exact
      { level := hbelow.level.merge_scalar hkeys scalar_checkString.optional habove.level
        format := hbelow.format.merge_scalar hkeys scalar_checkFormat.optional habove.format
        console := hbelow.console.merge_scalar hkeys scalar_checkBool.optional habove.console
        file := hbelow.file.merge_scalar hkeys scalar_checkBool.optional habove.file
        devFile := hbelow.devFile.merge_scalar hkeys scalar_checkBool.optional habove.devFile }

/-- Two valid Julia sections merge to a valid one. -/
theorem JuliaSettings.passes_merge (hlower : Passes JuliaSettings.read (.obj lower))
    (hupper : Passes JuliaSettings.read (.obj upper)) :
    Passes JuliaSettings.read (.obj (merge lower upper)) := by
  obtain ⟨_, hlower⟩ := hlower
  obtain ⟨_, hupper⟩ := hupper
  obtain ⟨hbelow, -⟩ := JuliaSettings.read_eq_ok_iff.1 hlower
  obtain ⟨habove, -⟩ := JuliaSettings.read_eq_ok_iff.1 hupper
  refine ⟨_, JuliaSettings.read_eq_ok_iff.2 ⟨?_, rfl⟩⟩
  exact
    { enabled := hbelow.enabled.merge_scalar hkeys scalar_checkBool habove.enabled
      executable := hbelow.executable.merge_scalar hkeys scalar_checkString habove.executable
      environment := hbelow.environment.merge_scalar hkeys scalar_checkString habove.environment
      lint := hbelow.lint.merge_object hkeys habove.lint
      format := hbelow.format.merge_object hkeys habove.format }

end Merge

/-! ### Fields with two names -/

/-- A field of the settings with two names. -/
structure TwoNamed where
  /-- The section that it is in; the settings themselves if there is none. -/
  place : Option String
  /-- Its names. -/
  name : FieldName
  /-- Does its section refuse unknown keys? -/
  strict : Bool
  deriving DecidableEq

/-- The fields of a section that have two names. -/
def twoNamedIn (place : Option String) (strict : Bool) (fields : List FieldName) : List TwoNamed :=
  (fields.filter fun name => name.file ≠ name.other).map fun name => ⟨place, name, strict⟩

/-- All fields with two names. -/
def twoNamed : List TwoNamed :=
  twoNamedIn none true Settings.fields ++ twoNamedIn (some "logging") true LoggingSettings.fields
    ++ twoNamedIn (some "julia") false JuliaSettings.fields

/-- There are five of them. -/
theorem twoNamed_eq :
    twoNamed = [⟨none, ⟨"$schema", "schema_"⟩, true⟩, ⟨none, ⟨"logLevel", "log_level"⟩, true⟩,
      ⟨some "logging", ⟨"devFile", "dev_file"⟩, true⟩,
      ⟨some "julia", JuliaSettings.executableName, false⟩,
      ⟨some "julia", JuliaSettings.environmentName, false⟩] := by decide

namespace TwoNamed

variable (field : TwoNamed)

/-- The members of a layer among which the field is given. -/
def members (layer : Json.Members) : Json.Members :=
  match field.place with
  | none => layer
  | some key =>
    match Assoc.get? key layer with
    | some (.obj members) => members
    | _ => []

/-- The key under which a layer sets the field, if it does. -/
def given? (layer : Json.Members) : Option String := field.name.given? (field.members layer)

/-- The value of the field in settings as they are written. -/
def value? (settings : Settings) : Option Json :=
  settings.dump.follow? (field.place.toList ++ [field.name.file])

/-- The layers set the field under different names. -/
def Mixed (lower upper : Json.Members) : Prop :=
  field.name.Mixed (field.members lower) (field.members upper)

/-- The lower layer sets the field under its file name, the upper one does not. -/
def Shadowed (lower upper : Json.Members) : Prop :=
  field.name.Shadowed (field.members lower) (field.members upper)

/-- A field of a section is given among the members of the section. -/
theorem members_eq_of_get? {field : TwoNamed} {place : String} {layer members : Json.Members}
    (hplace : field.place = some place) (hget : Assoc.get? place layer = some (.obj members)) :
    field.members layer = members := by
  unfold TwoNamed.members
  rw [hplace]
  dsimp only
  rw [hget]

/-- A layer that sets the field of a section has the section. -/
theorem get?_of_given? {layer : Json.Members} {key place : String}
    (h : field.given? layer = some key) (hplace : field.place = some place) :
    Assoc.get? place layer = some (.obj (field.members layer)) := by
  have hmembers : field.members layer ≠ [] := by
    intro hnil
    rw [given?, hnil] at h
    cases field.name.has_of_given? [] h
  unfold members at hmembers ⊢
  rw [hplace] at hmembers ⊢
  dsimp only at hmembers ⊢
  split at hmembers
  next hget => rw [hget]
  next => exact absurd rfl hmembers

section Merge

variable {lower upper : Json.Members} {below above : String}
  (hkeys : DistinctKeys (.obj upper)) (hlower : field.given? lower = some below)
  (hupper : field.given? upper = some above)
include hkeys hlower hupper

/-- The section of merged layers that both set the field. -/
theorem members_merge :
    field.members (merge lower upper) = merge (field.members lower) (field.members upper) := by
  cases hplace : field.place with
  | none => simp only [members, hplace]
  | some place =>
    have hmerged : Assoc.get? place (merge lower upper) = _ :=
      get?_merge_of_some hkeys.nodup (field.get?_of_given? hupper hplace)
    rw [field.get?_of_given? hlower hplace, mergeValue] at hmerged
    exact members_eq_of_get? hplace hmerged

omit hlower in
theorem nodup_members : (Assoc.keys (field.members upper)).Nodup := by
  cases hplace : field.place with
  | none => simpa only [members, hplace] using hkeys.nodup
  | some place => exact (hkeys.member (field.get?_of_given? hupper hplace)).nodup

end Merge

end TwoNamed

/-! ### Values of fields -/

/-- A field that is given is read as the value that its check gives. -/
theorem FieldName.Accepts.check_eq {name : FieldName} {members : Json.Members} {check : Check α}
    (h : name.Accepts members check) {key : String} (hgiven : name.given? members = some key)
    (default : α) :
    check (Json.member key members) = .ok (name.read members check default).1 := by
  obtain ⟨value, hvalue⟩ := h key hgiven
  rw [hvalue, name.read_fst members hgiven hvalue]

/-- A section is read as the value that its check gives. -/
theorem FieldName.Accepts.check_section {key : String} {members : Json.Members} {check : Check α}
    (h : FieldName.Accepts ⟨key, key⟩ members check) {found : Json}
    (hget : Assoc.get? key members = some found) (default : α) :
    check found = .ok (FieldName.read ⟨key, key⟩ members check default).1 := by
  have hgiven : FieldName.given? ⟨key, key⟩ members = some key :=
    (FieldName.given?_eq_some_iff _ _).2 (.inl ⟨rfl, by rw [Assoc.has, hget, Option.isSome_some]⟩)
  rw [← h.check_eq hgiven default, Json.member, hget, Option.getD_some]

namespace Settings

variable {layer : Json.Members} {settings : Settings}
  (hread : Settings.read (.obj layer) = .ok settings)
include hread

/-- The logging section of valid settings is read by itself. -/
theorem logging_of_read {members : Json.Members}
    (hget : Assoc.get? "logging" layer = some (.obj members)) :
    ∃ logging, LoggingSettings.read (.obj members) = .ok logging ∧
      settings.logging = some logging := by
  obtain ⟨haccepted, -, rfl⟩ := read_eq_ok_iff.1 hread
  have hcheck := haccepted.logging.check_section hget none
  change (LoggingSettings.read (.obj members)).map some = _ at hcheck
  cases hlogging : LoggingSettings.read (.obj members) with
  | ok logging =>
    rw [hlogging] at hcheck
    exact ⟨logging, rfl, (Except.ok.inj hcheck).symm⟩
  | error violations =>
    rw [hlogging] at hcheck
    cases hcheck

/-- The Julia section of valid settings is read by itself. -/
theorem julia_of_read {members : Json.Members}
    (hget : Assoc.get? "julia" layer = some (.obj members)) :
    JuliaSettings.read (.obj members) = .ok settings.julia := by
  obtain ⟨haccepted, -, rfl⟩ := read_eq_ok_iff.1 hread
  exact haccepted.julia.check_section hget {}

end Settings

/-- What a check that passes no object gives for a field is no object, and depends only on what the
field is given as. -/
theorem FieldName.Accepts.written {name : FieldName} {members : Json.Members} {check : Check α}
    (h : name.Accepts members check) (hscalar : Scalar check) {key : String}
    (hgiven : name.given? members = some key) (default : α) (write : α → Json) :
    (Json.member key members).isObject = false ∧
      some (write (name.read members check default).1) =
        (check (Json.member key members)).toOption.map write := by
  have hcheck := h.check_eq hgiven default
  refine ⟨hscalar.not_isObject ⟨_, hcheck⟩, ?_⟩
  rw [hcheck]
  rfl

namespace TwoNamed

/-- The value of a field with two names depends only on what the layer has for it, which is no
object. -/
theorem exists_shown {field : TwoNamed} (hfield : field ∈ twoNamed) :
    ∃ shown : Json → Option Json, ∀ {layer settings key},
      Settings.read (.obj layer) = .ok settings → field.given? layer = some key →
        (Json.member key (field.members layer)).isObject = false ∧
          field.value? settings = shown (Json.member key (field.members layer)) := by
  rw [twoNamed_eq] at hfield
  simp only [List.mem_cons, List.not_mem_nil, or_false] at hfield
  -- the two fields at the top, the one of the logging section, and the two of the Julia section
  rcases hfield with rfl | rfl | rfl | rfl | rfl
  · refine ⟨fun found => (optional checkString found).toOption.map Json.ofText?, ?_⟩
    intro layer settings key hread hgiven
    obtain ⟨haccepted, -, rfl⟩ := Settings.read_eq_ok_iff.1 hread
    exact haccepted.schema.written scalar_checkString.optional hgiven none Json.ofText?
  · refine ⟨fun found => (optional checkString found).toOption.map Json.ofText?, ?_⟩
    intro layer settings key hread hgiven
    obtain ⟨haccepted, -, rfl⟩ := Settings.read_eq_ok_iff.1 hread
    exact haccepted.logLevel.written scalar_checkString.optional hgiven none Json.ofText?
  · refine ⟨fun found => (optional checkBool found).toOption.map LoggingSettings.ofBool?, ?_⟩
    intro layer settings key hread hgiven
    obtain ⟨logging, hlogging, hsettings⟩ :=
      Settings.logging_of_read hread (get?_of_given? _ hgiven rfl)
    obtain ⟨haccepted, -, rfl⟩ := LoggingSettings.read_eq_ok_iff.1 hlogging
    rw [value?, Settings.dump, hsettings]
    exact haccepted.devFile.written scalar_checkBool.optional hgiven none LoggingSettings.ofBool?
  · refine ⟨fun found => (checkString found).toOption.map Json.str, ?_⟩
    intro layer settings key hread hgiven
    have hjulia := Settings.julia_of_read hread (get?_of_given? _ hgiven rfl)
    obtain ⟨haccepted, hsettings⟩ := JuliaSettings.read_eq_ok_iff.1 hjulia
    rw [value?, Settings.dump, hsettings]
    exact haccepted.executable.written scalar_checkString hgiven "" Json.str
  · refine ⟨fun found => (checkString found).toOption.map Json.str, ?_⟩
    intro layer settings key hread hgiven
    have hjulia := Settings.julia_of_read hread (get?_of_given? _ hgiven rfl)
    obtain ⟨haccepted, hsettings⟩ := JuliaSettings.read_eq_ok_iff.1 hjulia
    rw [value?, Settings.dump, hsettings]
    exact haccepted.environment.written scalar_checkString hgiven "" Json.str

section Merge

variable {lower upper : Json.Members} (hkeys : DistinctKeys (.obj upper))
include hkeys

/-- A field that both layers set has the value of the upper one, unless it is shadowed. -/
theorem value?_merge {field : TwoNamed} (hfield : field ∈ twoNamed) {below above merged : Settings}
    (hbelow : Settings.read (.obj lower) = .ok below)
    (habove : Settings.read (.obj upper) = .ok above)
    (hmerged : Settings.read (.obj (merge lower upper)) = .ok merged)
    (hlower : (field.given? lower).isSome) (hupper : (field.given? upper).isSome) :
    (field.Shadowed lower upper → field.value? merged = field.value? below) ∧
      (¬ field.Shadowed lower upper → field.value? merged = field.value? above) := by
  obtain ⟨shown, hshown⟩ := exists_shown hfield
  obtain ⟨key, hlower⟩ := Option.isSome_iff_exists.1 hlower
  obtain ⟨other, hupper⟩ := Option.isSome_iff_exists.1 hupper
  have hmembers := field.members_merge hkeys hlower hupper
  have hnodup := field.nodup_members hkeys hupper
  constructor
  · intro hshadowed
    have hfile : field.given? lower = some field.name.file :=
      (field.name.given?_eq_some_iff _).2 (.inl ⟨rfl, hshadowed.1⟩)
    have hgiven : field.given? (merge lower upper) = some field.name.file := by
      rw [given?, hmembers]
      exact field.name.given?_merge_of_shadowed hnodup hshadowed
    -- the upper layer has nothing under the file name, so the lower value stays there
    have hnone := field.name.get?_file_eq_none hshadowed.2.1 hshadowed.2.2
    rw [(hshown hmerged hgiven).2, (hshown hbelow hfile).2, hmembers, Json.member,
      get?_merge_of_none hnodup hnone, Json.member]
  · intro hclear
    have hgiven : field.given? (merge lower upper) = some other := by
      rw [given?, hmembers]
      exact field.name.given?_merge_of_not_shadowed hnodup hupper hclear
    -- the upper value is no object, so it takes the place of whatever is below it
    obtain ⟨hscalar, hvalue⟩ := hshown habove hupper
    obtain ⟨value, hget⟩ := Option.isSome_iff_exists.1 (field.name.has_of_given? _ hupper)
    rw [Json.member, hget, Option.getD_some] at hscalar hvalue
    rw [(hshown hmerged hgiven).2, hvalue, hmembers, Json.member, get?_merge_of_some hnodup hget,
      Option.getD_some, mergeValue_of_not_isObject hscalar]

end Merge

end TwoNamed

/-! ### Merged settings -/

section Merge

variable {lower upper : Json.Members} (hkeys : DistinctKeys (.obj upper))
include hkeys

/-- Valid layers that merge to valid data do not mix the names of the field of the logging
section. -/
theorem Settings.not_mixed_logging {below above merged : Settings}
    (hbelow : Settings.read (.obj lower) = .ok below)
    (habove : Settings.read (.obj upper) = .ok above)
    (hmerged : Settings.read (.obj (merge lower upper)) = .ok merged) :
    ¬ TwoNamed.Mixed ⟨some "logging", ⟨"devFile", "dev_file"⟩, true⟩ lower upper := by
  rintro ⟨key, other, hlowerKey, hupperKey, hne⟩
  -- the section is there if it has the field in both layers, and is merged by itself
  have hlowerGet := TwoNamed.get?_of_given? _ hlowerKey rfl
  have hupperGet := TwoNamed.get?_of_given? _ hupperKey rfl
  have hmergedGet : Assoc.get? "logging" (merge lower upper) = _ :=
    get?_merge_of_some hkeys.nodup hupperGet
  rw [hlowerGet, mergeValue] at hmergedGet
  obtain ⟨_, hbelowRead, -⟩ := Settings.logging_of_read hbelow hlowerGet
  obtain ⟨_, haboveRead, -⟩ := Settings.logging_of_read habove hupperGet
  obtain ⟨_, hmergedRead, -⟩ := Settings.logging_of_read hmerged hmergedGet
  exact (LoggingSettings.passes_merge_iff (hkeys.member hupperGet).nodup ⟨_, hbelowRead⟩
    ⟨_, haboveRead⟩).1 ⟨_, hmergedRead⟩ ⟨key, other, hlowerKey, hupperKey, hne⟩

/-- The fields of merged layers pass if the names of the field of the logging section are not
mixed. -/
theorem Settings.Accepted.merge (hbelow : Settings.Accepted lower)
    (habove : Settings.Accepted upper)
    (hunmixed : ¬ TwoNamed.Mixed ⟨some "logging", ⟨"devFile", "dev_file"⟩, true⟩ lower upper) :
    Settings.Accepted (Config.merge lower upper) where
  schema := hbelow.schema.merge_scalar hkeys.nodup scalar_checkString.optional habove.schema
  logLevel := hbelow.logLevel.merge_scalar hkeys.nodup scalar_checkString.optional habove.logLevel
  logging := by
    refine hbelow.logging.merge _ hkeys.nodup habove.logging ?_
    intro key members others hgiven hlowerGet hupperGet hmembers hothers
    obtain rfl : key = "logging" := FieldName.given?_eq_file _ rfl hgiven
    rw [TwoNamed.Mixed, TwoNamed.members_eq_of_get? rfl hlowerGet,
      TwoNamed.members_eq_of_get? rfl hupperGet] at hunmixed
    rw [passes_optional_obj] at hmembers hothers ⊢
    exact (LoggingSettings.passes_merge_iff (hkeys.member hupperGet).nodup hmembers
      hothers).2 hunmixed
  julia := by
    refine hbelow.julia.merge _ hkeys.nodup habove.julia ?_
    intro key members others _ _ hupperGet hmembers hothers
    exact JuliaSettings.passes_merge (hkeys.member hupperGet).nodup hmembers hothers

/-- Two valid layers merge to valid data exactly if they set no field under different names in a
section that refuses unknown keys. -/
theorem Settings.passes_merge_iff (hlower : Passes Settings.read (.obj lower))
    (hupper : Passes Settings.read (.obj upper)) :
    Passes Settings.read (.obj (merge lower upper)) ↔
      ∀ field ∈ twoNamed, field.strict → ¬ field.Mixed lower upper := by
  obtain ⟨_, hlower⟩ := hlower
  obtain ⟨_, hupper⟩ := hupper
  obtain ⟨hbelow, hbelowUnread, -⟩ := Settings.read_eq_ok_iff.1 hlower
  obtain ⟨habove, haboveUnread, -⟩ := Settings.read_eq_ok_iff.1 hupper
  have hunread := unread_merge_eq_nil_iff (by decide : Apart Settings.fields) hkeys.nodup
    hbelowUnread haboveUnread
  have hnames : ∀ name ∈ Settings.fields, name.file ≠ name.other →
      name = ⟨"$schema", "schema_"⟩ ∨ name = ⟨"logLevel", "log_level"⟩ := by decide
  rw [twoNamed_eq]
  constructor
  · rintro ⟨_, hmerged⟩
    obtain ⟨-, hmergedUnread, -⟩ := Settings.read_eq_ok_iff.1 hmerged
    have hunmixed := hunread.1 hmergedUnread
    intro field hfield hstrict
    simp only [List.mem_cons, List.not_mem_nil, or_false] at hfield
    rcases hfield with rfl | rfl | rfl | rfl | rfl
    · exact hunmixed _ (by decide)
    · exact hunmixed _ (by decide)
    · exact Settings.not_mixed_logging hkeys hlower hupper hmerged
    · cases hstrict
    · cases hstrict
  · intro hunmixed
    -- the fields of the settings themselves are in no section
    have hkeysUnmixed : ∀ name ∈ Settings.fields, ¬ name.Mixed lower upper := by
      apply FieldName.not_mixed_of_two_names
      intro name hname hne
      rcases hnames name hname hne with rfl | rfl
      · exact hunmixed _ (List.mem_cons_self ..) rfl
      · exact hunmixed _ (List.mem_cons_of_mem _ (List.mem_cons_self ..)) rfl
    have hlogging := hunmixed ⟨some "logging", ⟨"devFile", "dev_file"⟩, true⟩ (by simp) rfl
    exact ⟨_, Settings.read_eq_ok_iff.2
      ⟨hbelow.merge hkeys habove hlogging, hunread.2 hkeysUnmixed, rfl⟩⟩

end Merge

/-- The upper one of two valid layers takes precedence for a field that both set, the merged data
being valid, exactly if no field is set under different names where unknown keys are refused and, if
the lower layer alone uses the file name of the field, both layers set it to the same value. -/
theorem precedence_iff {lower upper : Json.Members} (hlower : DistinctKeys (.obj lower))
    (hupper : DistinctKeys (.obj upper)) {below above : Settings}
    (hbelow : Settings.read (.obj lower) = .ok below)
    (habove : Settings.read (.obj upper) = .ok above) {field : TwoNamed} (hfield : field ∈ twoNamed)
    (hlowerSets : (field.given? lower).isSome) (hupperSets : (field.given? upper).isSome) :
    (∃ merged, Settings.read (.obj (mergeLayers [lower, upper])) = .ok merged ∧
        field.value? merged = field.value? above) ↔
      (∀ other ∈ twoNamed, other.strict → ¬ other.Mixed lower upper) ∧
        (field.Shadowed lower upper → field.value? below = field.value? above) := by
  rw [mergeLayers_pair hlower.nodup]
  have hvalid := Settings.passes_merge_iff hupper ⟨below, hbelow⟩ ⟨above, habove⟩
  have hvalue {merged : Settings}
      (hmerged : Settings.read (.obj (merge lower upper)) = .ok merged) :=
    TwoNamed.value?_merge hupper hfield hbelow habove hmerged hlowerSets hupperSets
  constructor
  · rintro ⟨merged, hmerged, hprecedes⟩
    refine ⟨hvalid.1 ⟨merged, hmerged⟩, fun hshadowed => ?_⟩
    rw [← hprecedes, (hvalue hmerged).1 hshadowed]
  · rintro ⟨hunmixed, hsame⟩
    obtain ⟨merged, hmerged⟩ := hvalid.2 hunmixed
    refine ⟨merged, hmerged, ?_⟩
    -- a shadowed field keeps the value of the lower layer, which must then be that of the upper one
    by_cases hshadowed : field.Shadowed lower upper
    · rw [(hvalue hmerged).1 hshadowed, hsame hshadowed]
    · exact (hvalue hmerged).2 hshadowed

/-- A layer that sets the path of the interpreter under the given name. -/
def executableLayer (name path : String) : Json.Members := [("julia", .obj [(name, .str path)])]

/-- The path of a lower layer that uses the file name stays, whatever an upper layer gives under the
other name. -/
theorem precedence_lost :
    let field : TwoNamed := ⟨some "julia", JuliaSettings.executableName, false⟩
    let lower := executableLayer "executablePath" "/a"
    let upper := executableLayer "executable_path" "/b"
    ∃ above, Settings.read (.obj upper) = .ok above ∧ field.value? above = some (.str "/b") ∧
      ¬ ∃ merged, Settings.read (.obj (mergeLayers [lower, upper])) = .ok merged ∧
        field.value? merged = field.value? above := by
  intro field lower upper
  -- the layers are built by setting one member after the other
  have hlayer (name path : String) : DistinctKeys (.obj (executableLayer name path)) :=
    Json.distinctKeys_nil.insert "julia"
      (Json.distinctKeys_nil.insert name (Json.distinctKeys_of_not_isObject rfl))
  refine ⟨_, rfl, rfl, fun hprecedes => ?_⟩
  have hsame := ((precedence_iff (hlayer _ _) (hlayer _ _) rfl rfl (by decide) rfl rfl).1
    hprecedes).2 ⟨rfl, rfl, by decide⟩
  exact absurd hsame (by decide)

end JuliaSession.Config
