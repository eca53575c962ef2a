import JuliaSession.Proofs.Config.Placeholders
import JuliaSession.Proofs.Json.Distinct
import JuliaSession.Proofs.Machine.Logging
import JuliaSession.Proofs.Path.Parts

/-!
# What a settings file contributes

A settings file is read once in a load, and what was logged before does not change what it
contributes, as long as the log is not kept in the file itself.

* `membersOf`: what a file contributes in a world.
* `apartFromLog_of_suffix`: the log has another name.
* `membersOf_eq_of_logsOnly`: records that were written meanwhile do not change it.
* `membersOf_eq_nil_of_not_isFile`: only files contribute something.
* `distinctKeys_membersOf`: no object in it has a key twice.
-/

namespace JuliaSession

/-- Nothing is read from a directory. -/
theorem FileTree.read_of_probe_dir {tree : FileTree} {cwd path : String} {mode : Nat}
    {changed : Int} (h : tree.probe cwd path = .ok (some (.dir mode changed))) :
    ∃ fault, tree.read cwd path = .error fault := by
  unfold FileTree.probe at h
  unfold FileTree.read
  cases hlocate : tree.locate cwd path with
  | error reason => exact ⟨_, rfl⟩
  | ok place =>
    rw [hlocate] at h
    have hentry : tree.entry? place = some (.dir mode changed) := Except.ok.inj h
    dsimp only
    rw [hentry]
    exact ⟨_, rfl⟩

namespace Config

open Json (DistinctKeys)

/-- What a settings file contributes: the object that is loaded from it, or nothing. -/
def membersOf (world : World) (path : String) : Json.Members :=
  ((loadFile path).perform world).1.toOption.getD []

/-- A file is not where the log is written. -/
def ApartFromLog (world : World) (path : String) : Prop :=
  ∀ place, world.desk.machine.files.locate world.desk.machine.cwd (Path.tidy path) = .ok place →
    world.logPlace? ≠ some place

theorem naming_of_mem_fileNames {name : String} (h : name ∈ fileNames) :
    Path.Naming name.toList := by
  have hletter : '/' ∉ name.toList ∧ 'j' ∈ name.toList := by
    revert name
    decide
  exact ⟨hletter.1, 'j', hletter.2, by decide⟩

/-- The log is not written where a settings file is. -/
theorem apartFromLog_of_suffix {world : World} (hnamed : world.desk.LogNamed) {path name : String}
    (hname : name ∈ fileNames) (hsuffix : name.toList <:+ path.toList) :
    ApartFromLog world path := by
  intro place hlocate hplace
  have hnaming := naming_of_mem_fileNames hname
  obtain ⟨last, hlast, hlog⟩ := World.suffix_logPlace hnamed hplace
  obtain ⟨other, hother, hsettings⟩ := FileTree.suffix_of_locate hnaming
    (Path.suffix_tidy hnaming hsuffix) hlocate
  rw [hlast] at hother
  cases hother
  -- the two endings of the name do not go together
  have hboth := List.suffix_or_suffix_of_suffix hlog hsettings
  revert hboth
  clear hsettings hsuffix hnaming
  revert name
  decide

/-! ### Loading a file -/

/-- A path that is too long to be looked at ends the load. -/
theorem loadFile_fault {world : World} {path : String} {fault : OsFault}
    (h : world.desk.machine.files.probe world.desk.machine.cwd (Path.tidy path) = .error fault) :
    (loadFile path).perform world = (.error (.os fault), world) := by
  unfold loadFile
  rw [Step.perform_bind_ok (perform_machine world)]
  dsimp only
  rw [h, Act.ofOs, Step.perform_throw_bind]

/-- A file that is missing contributes nothing. -/
theorem loadFile_missing {world : World} {path : String}
    (h : world.desk.machine.files.probe world.desk.machine.cwd (Path.tidy path) = .ok none) :
    (loadFile path).perform world = (.ok [], world) := by
  unfold loadFile
  rw [Step.perform_bind_ok (perform_machine world)]
  dsimp only
  rw [h, Act.ofOs, pure_bind, Option.isNone_none, if_pos rfl, Step.perform_pure]

/-- A file that is there is read. -/
theorem loadFile_found {world : World} {path : String} {entry : Entry}
    (h : world.desk.machine.files.probe world.desk.machine.cwd (Path.tidy path) =
      .ok (some entry)) :
    (loadFile path).perform world =
      (match world.desk.machine.files.read world.desk.machine.cwd (Path.tidy path) with
        | .error fault => refuseFile path fault.message
        | .ok bytes =>
          match Text.Utf8.decodeChars? bytes with
          | none => refuseFile path Failure.notText.message
          | some chars =>
            readLayer path (substitute world.desk.machine.env
              (String.ofList (Text.unifyNewlines chars)))).perform world := by
  unfold loadFile
  rw [Step.perform_bind_ok (perform_machine world)]
  dsimp only
  rw [h, Act.ofOs, pure_bind, Option.isNone_some]
  rfl

theorem logsOnly_refuseFile (path words : String) : Step.Leads LogsOnly (refuseFile path words) :=
  .bind (logsOnly_log _ _ _ _) fun _ => .pure _

theorem logsOnly_readLayer (path text : String) : Step.Leads LogsOnly (readLayer path text) := by
  unfold readLayer
  split
  · exact .pure _
  · exact .bind (logsOnly_log _ _ _ _) fun _ => .pure _
  · exact .throw _
  · exact .throw _
  · exact logsOnly_refuseFile _ _
  · exact logsOnly_refuseFile _ _

theorem leads_ofOs {relation : World → World → Prop} [Std.Refl relation] {α : Type}
    (result : Except OsFault α) : Step.Leads relation (Act.ofOs result) := by
  cases result with
  | ok value => exact .pure _
  | error fault => exact .throw _

/-- Loading a file writes records and nothing else. -/
theorem logsOnly_loadFile (path : String) : Step.Leads LogsOnly (loadFile path) := by
  refine .bind (fun world => .refl world) fun machine => ?_
  refine .bind (leads_ofOs _) fun found => ?_
  split
  · exact .pure _
  · split
    · exact logsOnly_refuseFile _ _
    · split
      · exact logsOnly_refuseFile _ _
      · exact logsOnly_readLayer _ _

section Between

variable {before after : World} (h : LogsOnly before after)
include h

/-- A record and what follows it end the same way. -/
theorem result_log_bind {α : Type} (service : String) (level : Log.Level) (message : String)
    (fields : Log.Fields) (value : α) :
    ((do Act.log service level message fields; return value).perform after).1 =
      ((do Act.log service level message fields; return value).perform before).1 := by
  have hlog := result_log h service level message fields
  rw [Step.perform_bind, Step.perform_bind]
  revert hlog
  rcases (Act.log service level message fields).perform after with ⟨_ | _, _⟩ <;>
    rcases (Act.log service level message fields).perform before with ⟨_ | _, _⟩ <;>
    intro hlog <;> cases hlog <;> rfl

theorem result_readLayer (path text : String) :
    ((readLayer path text).perform after).1 = ((readLayer path text).perform before).1 := by
  unfold readLayer
  split
  · rfl
  · exact result_log_bind h _ _ _ _ _
  · rfl
  · rfl
  · exact result_log_bind h _ _ _ _ _
  · exact result_log_bind h _ _ _ _ _

/-- A file is loaded the same after some records. -/
theorem result_loadFile {path : String} (hapart : ApartFromLog before path) :
    ((loadFile path).perform after).1 = ((loadFile path).perform before).1 := by
  have hsame : ∀ place,
      before.desk.machine.files.locate before.desk.machine.cwd (Path.tidy path) = .ok place →
        after.desk.machine.files.entry? place = before.desk.machine.files.entry? place :=
    fun place hplace => h.entries place (hapart place hplace)
  -- the file is found in the same place, and everything that is read afterwards lies there
  have hprobe := h.dirs.probe hsame
  rw [← h.cwd] at hprobe
  cases hfound : before.desk.machine.files.probe before.desk.machine.cwd (Path.tidy path) with
  | error fault =>
    rw [loadFile_fault hfound, loadFile_fault (hprobe.trans (h.cwd ▸ hfound))]
  | ok found =>
    cases found with
    | none => rw [loadFile_missing hfound, loadFile_missing (hprobe.trans (h.cwd ▸ hfound))]
    | some entry =>
      rw [loadFile_found hfound, loadFile_found (hprobe.trans (h.cwd ▸ hfound)), h.cwd, h.env,
        h.dirs.read hsame hfound]
      split
      · exact result_log_bind h _ _ _ _ _
      · split
        · exact result_log_bind h _ _ _ _ _
        · exact result_readLayer h _ _

/-- A file contributes the same after some records. -/
theorem membersOf_eq_of_logsOnly {path : String} (hapart : ApartFromLog before path) :
    membersOf after path = membersOf before path := by
  unfold membersOf
  rw [result_loadFile h hapart]

end Between

theorem membersOf_of_loadFile {world after : World} {path : String} {members : Json.Members}
    (h : (loadFile path).perform world = (.ok members, after)) :
    membersOf world path = members := by
  unfold membersOf
  rw [h]
  rfl

/-! ### What is loaded -/

/-- A path names a file. -/
def isFile (machine : Machine) (path : String) : Bool :=
  match machine.files.probe machine.cwd path with
  | .ok (some (.file ..)) => true
  | _ => false

/-- A file that is refused contributes nothing. -/
theorem toOption_refuseFile (world : World) (path words : String) :
    ((refuseFile path words).perform world).1.toOption.getD [] = [] := by
  cases h : (refuseFile path words).perform world with
  | mk result after =>
    cases result with
    | error failure => rfl
    | ok members => exact eq_nil_of_refuseFile h

/-- Only files contribute something. -/
theorem membersOf_eq_nil_of_not_isFile {world : World} {path : String}
    (htidy : Path.tidy path = path) (h : isFile world.desk.machine path = false) :
    membersOf world path = [] := by
  unfold membersOf
  unfold isFile at h
  -- a directory is found, but it cannot be read
  cases hfound : world.desk.machine.files.probe world.desk.machine.cwd path with
  | error fault =>
    rw [loadFile_fault (htidy.symm ▸ hfound)]
    rfl
  | ok found =>
    cases found with
    | none =>
      rw [loadFile_missing (htidy.symm ▸ hfound)]
      rfl
    | some entry =>
      cases entry with
      | file content mode changed =>
        rw [hfound] at h
        cases h
      | dir mode changed =>
        obtain ⟨fault, hfault⟩ := FileTree.read_of_probe_dir hfound
        rw [loadFile_found (htidy.symm ▸ hfound), htidy, hfault]
        exact toOption_refuseFile world path fault.message

/-- Only a file with an object in it contributes something. -/
theorem readCommented_of_loadFile {world after : World} {path : String} {members : Json.Members}
    (hsome : members ≠ []) (h : (loadFile path).perform world = (.ok members, after)) :
    ∃ text, Json.readCommented text = .ok (.obj members) := by
  -- a file that is missing or unreadable gives nothing, so this one was read
  cases hfound : world.desk.machine.files.probe world.desk.machine.cwd (Path.tidy path) with
  | error fault =>
    rw [loadFile_fault hfound] at h
    cases h
  | ok found =>
    cases found with
    | none =>
      rw [loadFile_missing hfound] at h
      cases h
      exact absurd rfl hsome
    | some entry =>
      rw [loadFile_found hfound] at h
      split at h
      · exact absurd (eq_nil_of_refuseFile h) hsome
      · split at h
        · exact absurd (eq_nil_of_refuseFile h) hsome
        · exact ⟨_, readCommented_of_readLayer hsome h⟩

/-- What a file contributes has distinct keys. -/
theorem distinctKeys_membersOf (world : World) (path : String) :
    DistinctKeys (.obj (membersOf world path)) := by
  by_cases hnone : membersOf world path = []
  · rw [hnone]
    exact Json.distinctKeys_nil
  · cases hload : (loadFile path).perform world with
    | mk result after =>
      unfold membersOf at hnone ⊢
      rw [hload] at hnone ⊢
      cases result with
      | error failure => exact absurd rfl hnone
      | ok members =>
        obtain ⟨text, htext⟩ := readCommented_of_loadFile hnone hload
        exact Json.distinctKeys_of_readCommented htext

end Config

end JuliaSession
