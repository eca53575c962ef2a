import Mathlib.Data.List.Nodup
import JuliaSession.Client.Pushed
import JuliaSession.Proofs.Config.Fields
import JuliaSession.Proofs.Json.Distinct

/-!
# Sections of the settings

The Julia section reaches the server in two forms: written out as a whole, and without its null
members, where dotted names are looked up. A lookup that finds nothing gives null, so it makes no
difference whether a null member is there or left out, as long as no key is there twice.

* `JuliaSettings.nodup_dump`: a section that was read has no key twice, whatever other keys it has.
* `reach_withoutNulls`: the null members of an object may be left out.
* `Settings.valueAt_julia`: the value of a name below the Julia section is what its path leads to in
  the section as it is written out.
-/

namespace JuliaSession

/-! ### Paths -/

namespace Json

/-- What a path leads to; null if it leads nowhere. -/
def reach (path : List String) (json : Json) : Json := (json.follow? path).getD .null

theorem member_cons (key name : String) (value : Json) (rest : Members) :
    member key ((name, value) :: rest) = if name = key then value else member key rest := by
  rw [member, Assoc.get?]
  split <;> rfl

theorem reach_cons (key : String) (path : List String) (members : Members) :
    reach (key :: path) (.obj members) = reach path (member key members) := by
  rw [reach, follow?_cons, reach, member]
  cases Assoc.get? key members with
  | some value => rfl
  | none =>
    -- a member that is not there counts as null, and no path leads further
    cases path with
    | nil => rfl
    | cons => rfl

end Json

namespace Config

open Json (member reach)
open Settings (withoutNulls)

/-! ### Null members -/

theorem keys_withoutNulls_subset (members : Json.Members) :
    Assoc.keys (withoutNulls members) ⊆ Assoc.keys members :=
  List.map_subset Prod.fst List.filter_sublist.subset

/-- A member that is left out counts as null, which it was. -/
theorem member_withoutNulls {members : Json.Members} (hkeys : (Assoc.keys members).Nodup)
    (key : String) : member key (withoutNulls members) = member key members := by
  induction members with
  | nil => rfl
  | cons entry rest ih =>
    obtain ⟨name, value⟩ := entry
    obtain ⟨hfirst, hrest⟩ := List.nodup_cons.1 hkeys
    rw [Json.member_cons]
    by_cases hnull : value = .null
    · have hdropped : withoutNulls ((name, value) :: rest) = withoutNulls rest :=
        List.filter_cons_of_neg (by simpa using hnull)
      rw [hdropped]
      split
      next hname =>
        -- there is no other entry for the key that is left out
        have hgone : key ∉ Assoc.keys (withoutNulls rest) := fun h =>
          hfirst (hname ▸ keys_withoutNulls_subset rest h)
        rw [member, Assoc.get?_eq_none_of_not_mem hgone, hnull]
        rfl
      next => exact ih hrest
    · have hkept : withoutNulls ((name, value) :: rest) = (name, value) :: withoutNulls rest :=
        List.filter_cons_of_pos (by simpa using hnull)
      rw [hkept, Json.member_cons, ih hrest]

/-- The null members of an object may be left out. -/
theorem reach_withoutNulls {members : Json.Members} (hkeys : (Assoc.keys members).Nodup)
    (key : String) (path : List String) :
    reach (key :: path) (.obj (withoutNulls members)) = reach (key :: path) (.obj members) := by
  rw [Json.reach_cons, Json.reach_cons, member_withoutNulls hkeys]

/-! ### Other keys -/

/-- The name of a field in files is no other key: the field is read under it. -/
theorem not_mem_keys_unread {fields : List FieldName} {name : FieldName} (h : name ∈ fields)
    (members : Json.Members) : name.file ∉ Assoc.keys (unread fields members) := by
  intro hmem
  obtain ⟨entry, hentry, hkey⟩ := List.mem_map.1 hmem
  obtain ⟨hgiven, hunused⟩ := List.mem_filter.1 hentry
  have hhas : Assoc.has name.file members :=
    Assoc.has_iff_mem_keys.2 (List.mem_map.2 ⟨entry, hgiven, hkey⟩)
  have hused : name.given? members = some name.file := if_pos hhas
  refine of_decide_eq_true hunused ?_
  rw [hkey]
  exact List.mem_filterMap.2 ⟨name, h, hused⟩

theorem nodup_keys_unread {members : Json.Members} (hkeys : (Assoc.keys members).Nodup)
    (fields : List FieldName) : (Assoc.keys (unread fields members)).Nodup :=
  hkeys.sublist (List.filter_sublist.map Prod.fst)

namespace JuliaSettings

theorem keys_dump (settings : JuliaSettings) :
    Assoc.keys settings.dump = fields.map FieldName.file ++ Assoc.keys settings.extra :=
  List.map_append

/-- A section that was read from distinct keys is written out with distinct keys. -/
theorem nodup_dump {members : Json.Members} {settings : JuliaSettings}
    (hkeys : (Assoc.keys members).Nodup) (hread : read (.obj members) = .ok settings) :
    (Assoc.keys settings.dump).Nodup := by
  have hextra : settings.extra = unread fields members := by
    rw [(read_eq_ok_iff.1 hread).2]
  rw [keys_dump, hextra]
  refine List.nodup_append'.2 ⟨by decide, nodup_keys_unread hkeys fields, ?_⟩
  intro key hdeclared
  obtain ⟨name, hname, rfl⟩ := List.mem_map.1 hdeclared
  exact not_mem_keys_unread hname members

end JuliaSettings

/-! ### Dotted names -/

/-- The value of a name below the Julia section is what the rest of its path leads to in the section
as it is written out. -/
theorem Settings.valueAt_julia {julia : JuliaSettings} (hkeys : (Assoc.keys julia.dump).Nodup)
    {name key : String} {path : List String} (hname : Pushed.path name = "julia" :: key :: path) :
    Settings.valueAt { julia } name = reach (key :: path) (.obj julia.dump) := by
  have hpresent : Settings.dumpPresent { julia } =
      .obj [("julia", .obj (withoutNulls julia.dump))] := rfl
  change reach (Pushed.path name) _ = _
  rw [hname, hpresent, Json.reach_cons, Json.member_cons, if_pos rfl, reach_withoutNulls hkeys]

end Config

end JuliaSession
