import JuliaSession.Proofs.Config.Layers

/-!
# Settings files that cannot be used

A settings file may hold any bytes. Whether they are no text, no JSON at all or no object, the file
is logged and left out, and the load goes on as if it were not there. Two kinds of text are an
exception: one whose tokens stand where the grammar does not allow them, and one that is nested too
deep, end the load.

* `FileTree.Lacks`: two trees that differ in one file, which only the first one has.
* `settingsText?`, `objectIn?`, `Refused`: the text in some bytes, the object in it, and the two
  kinds of text that are not left out.
* `result_loadFile_of_read`: what loading a file with some bytes gives.
* `matches_load`: a load comes to the same without a file that contributes nothing.
* `load_fails`: a load fails if one of its files does.
* `tolerance_iff`: a file that holds no object is harmless unless its text is refused.
-/

namespace JuliaSession

/-! ### Trees without a file -/

namespace FileTree

variable {tree : FileTree} {cwd path : String}

/-- What is read was a file. -/
theorem exists_entry_of_read {bytes : Text.Utf8.Bytes} (h : tree.read cwd path = .ok bytes) :
    ∃ place mode changed, tree.locate cwd path = .ok place ∧
      tree.entry? place = some (.file bytes mode changed) := by
  unfold FileTree.read at h
  cases hlocate : tree.locate cwd path with
  | error reason =>
    rw [hlocate] at h
    cases h
  | ok place =>
    rw [hlocate] at h
    dsimp only at h
    cases hentry : tree.entry? place with
    | none =>
      rw [hentry] at h
      cases h
    | some entry =>
      rw [hentry] at h
      cases entry with
      | dir => cases h
      | file content mode changed =>
        cases h
        exact ⟨place, mode, changed, rfl, hentry⟩

/-- Removing a file takes away what is at its place. -/
theorem entry?_remove {place : Place} (hlocate : tree.locate cwd path = .ok place)
    (hplace : place ≠ []) (other : Place) :
    FileTree.entry? (tree.remove cwd path) other =
      if other = place then none else tree.entry? other := by
  unfold remove entry?
  rw [hlocate]
  dsimp only
  rw [Assoc.get?_erase]
  by_cases hother : other = []
  · rw [if_pos hother, if_pos hother, if_neg (hother ▸ hplace.symm)]
  · rw [if_neg hother, if_neg hother]

/-- The trees differ in one file, which only the first one has. -/
structure Lacks (before after : FileTree) (place : Place) : Prop where
  /-- The directories are the same. -/
  dirs : SameDirs before after
  /-- What is at other places is the same. -/
  entries : ∀ other, other ≠ place → after.entry? other = before.entry? other
  /-- The file is missing. -/
  gone : after.entry? place = none

/-- A path leads to the missing file, or to what is the same in both trees. -/
theorem Lacks.leads {before after : FileTree} {place : Place} (h : Lacks before after place)
    (cwd path : String) :
    (before.locate cwd path = .ok place ∧ after.locate cwd path = .ok place) ∨
      ∀ found, before.locate cwd path = .ok found →
        after.entry? found = before.entry? found := by
  by_cases hplace : before.locate cwd path = .ok place
  -- both trees have the same directories, so a path leads to the same place in both
  · have hsame := h.dirs.toOption_locate cwd path
    rw [hplace] at hsame
    refine .inl ⟨hplace, ?_⟩
    cases hlocate : after.locate cwd path with
    | error reason =>
      rw [hlocate] at hsame
      cases hsame
    | ok found =>
      rw [hlocate] at hsame
      cases hsame
      rfl
  · refine .inr fun found hfound => h.entries found ?_
    rintro rfl
    exact hplace hfound

/-- A tree that a file was removed from lacks that file only. -/
theorem lacks_remove {place : Place} {bytes : Text.Utf8.Bytes} {mode : Nat} {changed : Int}
    (hlocate : tree.locate cwd path = .ok place)
    (hentry : tree.entry? place = some (.file bytes mode changed)) :
    Lacks tree (tree.remove cwd path) place := by
  have hplace : place ≠ [] := by
    rintro rfl
    cases hentry
  refine ⟨fun other => ?_, fun other hother => ?_, ?_⟩
  · rw [entry?_remove hlocate hplace]
    split_ifs with hother
    · rw [hother, hentry]
      rfl
    · rfl
  · rw [entry?_remove hlocate hplace, if_neg hother]
  · rw [entry?_remove hlocate hplace, if_pos rfl]

end FileTree

/-- The world with other files. -/
def World.withFiles (world : World) (files : FileTree) : World :=
  { world with desk := { world.desk with machine := { world.desk.machine with files } } }

/-- The world without the file that a path names. -/
def World.withoutFile (world : World) (path : String) : World :=
  world.withFiles (world.desk.machine.files.remove world.desk.machine.cwd (Path.tidy path))

@[simp]
theorem World.files_withFiles (world : World) (files : FileTree) :
    (world.withFiles files).desk.machine.files = files := rfl

@[simp]
theorem World.cwd_withFiles (world : World) (files : FileTree) :
    (world.withFiles files).desk.machine.cwd = world.desk.machine.cwd := rfl

@[simp]
theorem World.env_withFiles (world : World) (files : FileTree) :
    (world.withFiles files).desk.machine.env = world.desk.machine.env := rfl

@[simp]
theorem World.loaded_withFiles (world : World) (files : FileTree) :
    (world.withFiles files).loaded = world.loaded := rfl

namespace Config

/-! ### What some bytes hold -/

/-- The text of a settings file, its placeholders replaced; none if the bytes are no text. -/
def settingsText? (environment : Assoc String String) (bytes : Text.Utf8.Bytes) : Option String :=
  (Text.Utf8.decodeChars? bytes).map fun chars =>
    substitute environment (String.ofList (Text.unifyNewlines chars))

/-- The object with comments that some bytes hold. -/
def objectIn? (environment : Assoc String String) (bytes : Text.Utf8.Bytes) :
    Option Json.Members :=
  match (settingsText? environment bytes).map Json.readCommented with
  | some (.ok (.obj members)) => some members
  | _ => none

/-- The bytes hold a text that ends a load: its tokens stand where the grammar does not allow them,
or it is nested too deep. -/
def Refused (environment : Assoc String String) (bytes : Text.Utf8.Bytes) : Prop :=
  (settingsText? environment bytes).map Json.readCommented = some (.error .unexpectedToken) ∨
    (settingsText? environment bytes).map Json.readCommented = some (.error .tooDeep)

instance (environment : Assoc String String) (bytes : Text.Utf8.Bytes) :
    Decidable (Refused environment bytes) := inferInstanceAs (Decidable (_ ∨ _))

/-- What loading a file with some bytes gives. -/
def contribution (environment : Assoc String String) (bytes : Text.Utf8.Bytes) :
    Except Failure Json.Members :=
  match (settingsText? environment bytes).map Json.readCommented with
  | some (.error .unexpectedToken) => .error .unexpectedToken
  | some (.error .tooDeep) => .error .tooDeep
  | _ => .ok ((objectIn? environment bytes).getD [])

/-- Bytes that are not refused contribute the object in them, or nothing. -/
theorem contribution_of_not_refused {environment : Assoc String String}
    {bytes : Text.Utf8.Bytes} (h : ¬ Refused environment bytes) :
    contribution environment bytes = .ok ((objectIn? environment bytes).getD []) := by
  unfold contribution
  split
  next hread => exact absurd (.inl hread) h
  next hread => exact absurd (.inr hread) h
  next => rfl

theorem contribution_of_refused {environment : Assoc String String} {bytes : Text.Utf8.Bytes}
    (h : Refused environment bytes) :
    ∃ failure, contribution environment bytes = .error failure := by
  unfold contribution
  rcases h with h | h <;> rw [h] <;> exact ⟨_, rfl⟩

/-! ### Loading one file -/

section Loading

variable {world : World} (hdated : world.Dated)
include hdated

/-- A record that can be written is no obstacle. -/
theorem result_log_return {α : Type} (service : String) (level : Log.Level) (message : String)
    (fields : Log.Fields) (value : α) :
    ((do Act.log service level message fields; return value).perform world).1 = .ok value := by
  have hlog : ((Act.log service level message fields).perform world).1 = .ok () := by
    unfold Act.log
    rw [perform_onDesk, Desk.emit_fst_of_dated hdated]
  cases hrun : (Act.log service level message fields).perform world with
  | mk result after =>
    rw [hrun] at hlog
    cases hlog
    rw [Step.perform_bind_ok hrun, Step.perform_pure]

/-- What a text gives, unless it is refused, is an object or nothing. -/
theorem result_readLayer_of_dated (path text : String) :
    ((readLayer path text).perform world).1 =
      match Json.readCommented text with
      | .ok (.obj members) => .ok members
      | .error .unexpectedToken => .error .unexpectedToken
      | .error .tooDeep => .error .tooDeep
      | _ => .ok [] := by
  unfold readLayer
  -- what is not reported as an error is logged, and while the date is written that goes well
  cases Json.readCommented text with
  | error fault =>
    cases fault with
    | unexpectedToken => rfl
    | tooDeep => rfl
    | badCharacter => exact result_log_return hdated _ _ _ _ _
    | notJson => exact result_log_return hdated _ _ _ _ _
  | ok found =>
    cases found with
    | obj members => rfl
    | _ => exact result_log_return hdated _ _ _ _ _

/-- Loading a file gives what its bytes contribute. -/
theorem result_loadFile_of_read {path : String} {bytes : Text.Utf8.Bytes}
    (hread : world.desk.machine.files.read world.desk.machine.cwd (Path.tidy path) = .ok bytes) :
    ((loadFile path).perform world).1 = contribution world.desk.machine.env bytes := by
  obtain ⟨entry, hentry⟩ := FileTree.probe_of_read hread
  rw [loadFile_found hentry, hread]
  unfold contribution objectIn? settingsText?
  dsimp only
  cases hdecode : Text.Utf8.decodeChars? bytes with
  | none => exact result_log_return hdated _ _ _ _ _
  | some chars =>
    dsimp only [Option.map_some]
    rw [result_readLayer_of_dated hdated]
    generalize Json.readCommented _ = found
    cases found with
    | error fault => cases fault <;> rfl
    | ok value => cases value <;> rfl

/-- What loading a file gives: the contribution of its bytes, and nothing if there are none. -/
theorem result_loadFile_of_dated (path : String) :
    ((loadFile path).perform world).1 =
      match world.desk.machine.files.probe world.desk.machine.cwd (Path.tidy path),
        world.desk.machine.files.read world.desk.machine.cwd (Path.tidy path) with
      | .error fault, _ => .error (.os fault)
      | .ok (some _), .ok bytes => contribution world.desk.machine.env bytes
      | .ok _, _ => .ok [] := by
  cases hprobe : world.desk.machine.files.probe world.desk.machine.cwd (Path.tidy path) with
  | error fault => rw [loadFile_fault hprobe]
  | ok found =>
    cases found with
    | none => rw [loadFile_missing hprobe]
    | some entry =>
      cases hread : world.desk.machine.files.read world.desk.machine.cwd (Path.tidy path) with
      | ok bytes => exact result_loadFile_of_read hdated hread
      | error fault =>
        rw [loadFile_found hprobe, hread]
        exact result_log_return hdated _ _ _ _ _

end Loading

/-! ### Two loads -/

/-- The same settings are loaded. -/
def SameLoaded (after after' : World) : Prop := after.loaded = after'.loaded

/-- Two worlds that were reached from two others by records only. -/
def BothLogged (first second after after' : World) : Prop :=
  LogsOnly first after ∧ LogsOnly second after'

/-- A step that only writes records agrees if its result does. -/
theorem agrees_of_logsOnly {α : Type} {first second : World} {step : Act α}
    (hleads : Step.Leads LogsOnly step)
    (hresult : ∀ after after', LogsOnly first after → LogsOnly second after' →
      (step.perform after).1 = (step.perform after').1) :
    Step.Agrees (BothLogged first second) step :=
  fun after after' ⟨hfirst, hsecond⟩ =>
    ⟨hresult after after' hfirst hsecond, hfirst.trans (hleads after),
      hsecond.trans (hleads after')⟩

/-- What does not depend on the files is the same on both machines. -/
theorem agrees_machine_bind {α : Type} {world : World} {files : FileTree} {next : Machine → Act α}
    (hnext : ∀ first second : Machine, second.env = first.env → next first = next second)
    (h : ∀ machine, Step.Agrees (BothLogged world (world.withFiles files)) (next machine)) :
    Step.Agrees (BothLogged world (world.withFiles files)) (Act.machine >>= next) := by
  intro after after' hlogged
  have henv : after'.desk.machine.env = after.desk.machine.env :=
    hlogged.2.env.trans hlogged.1.env.symm
  rw [Step.perform_bind_ok (perform_machine after), Step.perform_bind_ok (perform_machine after'),
    hnext _ _ henv]
  exact h _ after after' hlogged

theorem agrees_log (world : World) (files : FileTree) (service : String) (level : Log.Level)
    (message : String) (fields : Log.Fields) :
    Step.Agrees (BothLogged world (world.withFiles files))
      (Act.log service level message fields) := by
  refine agrees_of_logsOnly (logsOnly_log _ _ _ _) fun after after' hfirst hsecond => ?_
  rw [result_log hfirst, result_log hsecond]
  unfold Act.log
  rw [perform_onDesk, perform_onDesk, Desk.emit_fst, Desk.emit_fst]
  rfl

theorem agrees_applyVariable (world : World) (files : FileTree) (below : Json.Members) :
    Step.Agrees (BothLogged world (world.withFiles files)) (applyVariable below) := by
  refine agrees_machine_bind (fun first second henv => ?_) fun machine => ?_
  · unfold Machine.envVar?
    rw [henv]
  · split
    · exact .pure _
    · exact .pure _
    · split
      · exact .bind (agrees_log world files _ _ _ _) fun _ => .pure _
      · exact .pure _
      · exact .bind (agrees_log world files _ _ _ _) fun _ => .pure _
      · exact .throw _
      · exact .throw _

section Sparing

variable {world : World} {files : FileTree} {place : Place} {bytes : Text.Utf8.Bytes} {mode : Nat}
  {changed : Int} (hdated : world.Dated) (hlog : world.desk.LogNamed)
  (hlacks : world.desk.machine.files.Lacks files place)
  (hentry : world.desk.machine.files.entry? place = some (.file bytes mode changed))
  (hidle : contribution world.desk.machine.env bytes = .ok [])

include hdated hlacks hentry hidle

/-- Each file gives the same without a file that contributes nothing. -/
theorem result_loadFile_withFiles (path : String) :
    ((loadFile path).perform world).1 = ((loadFile path).perform (world.withFiles files)).1 := by
  have hdated' : (world.withFiles files).Dated := hdated
  rw [result_loadFile_of_dated hdated, result_loadFile_of_dated hdated']
  rw [World.files_withFiles, World.cwd_withFiles, World.env_withFiles]
  rcases hlacks.leads world.desk.machine.cwd (Path.tidy path) with ⟨hplace, hplace'⟩ | hsame
  · simp only [FileTree.probe, FileTree.read, hplace, hplace', hentry, hlacks.gone, hidle]
  · rw [hlacks.dirs.probe hsame]
    cases hprobe : world.desk.machine.files.probe world.desk.machine.cwd (Path.tidy path) with
    | error fault => rfl
    | ok found =>
      cases found with
      | none => rfl
      | some entry => rw [hlacks.dirs.read hsame hprobe]

/-- A file is laid over what is below it alike. -/
theorem agrees_applyFile {path : String} (hapart : ApartFromLog world path)
    (hapart' : ApartFromLog (world.withFiles files) path) (kind : String)
    (below : Json.Members × List String) :
    Step.Agrees (BothLogged world (world.withFiles files)) (applyFile kind path below) := by
  refine .bind (agrees_of_logsOnly (logsOnly_loadFile path) fun after after' hfirst hsecond => ?_)
    fun data => ?_
  · rw [result_loadFile hfirst hapart, result_loadFile hsecond hapart']
    exact result_loadFile_withFiles hdated hlacks hentry hidle path
  · split_ifs
    · exact .pure _
    · exact .bind (agrees_log world files _ _ _ _) fun _ => .pure _

/-- Files are laid over each other alike if those that are left out contribute nothing. -/
theorem applyFiles_filter {paths : List String} (keep : String → Bool)
    (hapart : ∀ path ∈ paths,
      ApartFromLog world path ∧ ApartFromLog (world.withFiles files) path)
    (hrest : ∀ path ∈ paths, keep path = false → ((loadFile path).perform world).1 = .ok [])
    (kind : String) {after after' : World}
    (hlogged : BothLogged world (world.withFiles files) after after')
    (below : Json.Members × List String) :
    Step.Matches (BothLogged world (world.withFiles files)) (applyFiles kind paths below)
      (applyFiles kind (paths.filter keep) below) after after' := by
  induction paths generalizing after after' below with
  | nil => exact ⟨rfl, hlogged⟩
  | cons path rest ih =>
    have hpath := hapart path (by simp)
    replace ih := fun {after after' : World} (hlogged : BothLogged _ _ after after') =>
      ih (fun other hother => hapart other (List.mem_cons_of_mem _ hother))
        (fun other hother => hrest other (List.mem_cons_of_mem _ hother)) hlogged
    cases hkeep : keep path with
    | true =>
      rw [List.filter_cons_of_pos hkeep, applyFiles, applyFiles]
      have happly := agrees_applyFile hdated hlacks hentry hidle hpath.1 hpath.2 kind below
      exact .bind (happly _ _ hlogged) (fun _ _ => id)
        fun layered between between' hbetween => ih hbetween layered
    | false =>
      -- the file is looked at in one of the worlds only
      have hnothing : ((loadFile path).perform after).1 = .ok [] := by
        rw [result_loadFile hlogged.1 hpath.1]
        exact hrest path (by simp) hkeep
      have hloads := logsOnly_loadFile path after
      cases hload : (loadFile path).perform after with
      | mk result between =>
        rw [hload] at hnothing hloads
        cases hnothing
        have hsame : (applyFile kind path below).perform after = (.ok below, between) := by
          rw [applyFile, Step.perform_bind_ok hload]
          rfl
        have hskips := ih ⟨hlogged.1.trans hloads, hlogged.2⟩ below
        unfold Step.Matches at hskips ⊢
        rw [List.filter_cons_of_neg (by rw [hkeep]; decide), applyFiles,
          Step.perform_bind_ok hsame]
        exact hskips

end Sparing

/-- The files of a load are the same without a file, except for the file itself. -/
theorem existing_withFiles {machine : Machine} {files : FileTree} {place : Place}
    (hlacks : machine.files.Lacks files place) {entry : Entry}
    (hentry : machine.files.entry? place = some entry) (paths : List String) :
    existing { machine with files } paths =
      (existing machine paths).map (List.filter (isFile { machine with files })) := by
  -- path by path: one that leads to the missing file drops out, any other is found as before
  induction paths with
  | nil => rfl
  | cons path rest ih =>
    rw [existing, existing, ih]
    dsimp only
    rcases hlacks.leads machine.cwd path with ⟨hplace, hplace'⟩ | hsame
    · have hgone : isFile { machine with files } path = false := by
        simp only [isFile, FileTree.probe, hplace', hlacks.gone]
      have hprobe : machine.files.probe machine.cwd path = .ok (some entry) := by
        simp only [FileTree.probe, hplace, hentry]
      have hprobe' : files.probe machine.cwd path = .ok none := by
        simp only [FileTree.probe, hplace', hlacks.gone]
      rw [hprobe, hprobe']
      cases existing machine rest with
      | error fault => rfl
      | ok others =>
        cases entry with
        | dir => rfl
        | file =>
          refine congrArg Except.ok ?_
          rw [List.filter_append, List.filter_cons_of_neg (by rw [hgone]; decide), List.filter_nil,
            List.append_nil]
    · rw [hlacks.dirs.probe hsame]
      cases hprobe : machine.files.probe machine.cwd path with
      | error fault => rfl
      | ok found =>
        cases existing machine rest with
        | error fault => rfl
        | ok others =>
          rcases found with _ | _ | _
          · rfl
          · have hfile : isFile { machine with files } path = true := by
              simp only [isFile, hlacks.dirs.probe hsame, hprobe]
            refine congrArg Except.ok ?_
            rw [List.filter_append, List.filter_cons_of_pos hfile, List.filter_nil]
          · rfl

theorem projectFiles_withFiles {machine : Machine} {files : FileTree} {place : Place}
    (hlacks : machine.files.Lacks files place) {entry : Entry}
    (hentry : machine.files.entry? place = some entry) (directory : String) :
    projectFiles { machine with files } directory =
      (projectFiles machine directory).map (List.filter (isFile { machine with files })) := by
  unfold projectFiles
  split_ifs
  · rfl
  · exact existing_withFiles hlacks hentry _

/-- Where there is no file any more the missing one was. -/
theorem locate_of_isFile {machine : Machine} {files : FileTree} {place : Place}
    (hlacks : machine.files.Lacks files place) {path : String} (hfile : isFile machine path = true)
    (hgone : isFile { machine with files } path = false) :
    machine.files.locate machine.cwd path = .ok place := by
  rcases hlacks.leads machine.cwd path with ⟨hplace, -⟩ | hsame
  · exact hplace
  · unfold isFile at hfile hgone
    dsimp only at hgone
    rw [hlacks.dirs.probe hsame, hfile] at hgone
    cases hgone

section Sparing

variable {world : World} {files : FileTree} {place : Place} {bytes : Text.Utf8.Bytes} {mode : Nat}
  {changed : Int} (hdated : world.Dated) (hlog : world.desk.LogNamed)
  (hlacks : world.desk.machine.files.Lacks files place)
  (hentry : world.desk.machine.files.entry? place = some (.file bytes mode changed))
  (hidle : contribution world.desk.machine.env bytes = .ok [])

include hdated hlog hlacks hentry hidle

/-- The same layers are merged without a file that contributes nothing. -/
theorem matches_merged (directory : String) :
    Step.Matches (BothLogged world (world.withFiles files)) (merged directory) (merged directory)
      world (world.withFiles files) := by
  have hlog' : (world.withFiles files).desk.LogNamed := hlog
  have hstart : BothLogged world (world.withFiles files) world (world.withFiles files) :=
    ⟨.refl _, .refl _⟩
  have hapart : ∀ path ∈ candidates world.desk.machine directory,
      ApartFromLog world path ∧ ApartFromLog (world.withFiles files) path :=
    fun path hpath =>
      ⟨apartFromLog_of_mem_candidates hlog hpath, apartFromLog_of_mem_candidates hlog' hpath⟩
  -- of the files of the user none is dropped, not even the missing one, which gives nothing
  have hglobal := applyFiles_filter hdated hlacks hentry hidle (fun _ => true)
    (fun path hpath => hapart path (List.mem_append_left _ hpath)) (fun _ _ => nofun) "global"
    hstart ([], [])
  rw [List.filter_eq_self.2 fun _ _ => rfl] at hglobal
  have hfiles := projectFiles_withFiles hlacks hentry directory
  unfold Step.Matches merged
  rw [Step.perform_bind_ok (perform_machine world),
    Step.perform_bind_ok (perform_machine (world.withFiles files))]
  refine Step.Matches.bind hglobal (fun _ _ => id) fun low between between' hlogged => ?_
  change Step.Matches _ _
    (Act.ofOs (projectFiles { world.desk.machine with files } directory) >>= _) _ _
  rw [hfiles]
  cases hproject : projectFiles world.desk.machine directory with
  | error fault => exact ⟨rfl, hlogged⟩
  | ok paths =>
    have hkept := projectFiles_ok hproject
    simp only [Except.map, Act.ofOs, pure_bind]
    refine Step.Matches.bind (applyFiles_filter hdated hlacks hentry hidle _ (fun path hpath => ?_)
      (fun path hpath hgone => ?_) "project" hlogged low) (fun _ _ => id)
      fun high last last' hlast => ?_
    · rw [hkept] at hpath
      exact hapart path (List.mem_append_right _ (List.mem_filter.1 hpath).1)
    · rw [hkept] at hpath
      obtain ⟨hcandidate, hfile⟩ := List.mem_filter.1 hpath
      have hplace := locate_of_isFile hlacks hfile hgone
      rw [← tidy_of_mem_projectCandidates hcandidate] at hplace
      have hread : world.desk.machine.files.read world.desk.machine.cwd (Path.tidy path) =
          .ok bytes := by
        simp only [FileTree.read, hplace, hentry]
      rw [result_loadFile_of_read hdated hread, hidle]
    · exact Step.Matches.bind (agrees_applyVariable world files _ _ _ hlast) (fun _ _ => id)
        fun _ _ _ hend => ⟨rfl, hend⟩

/-- A load comes to the same without a file that contributes nothing. -/
theorem matches_load (hcache : world.loaded.cache = none) (directory : String) :
    Step.Matches SameLoaded (load directory) (load directory) world (world.withFiles files) := by
  have hloaded : ∀ after after', BothLogged world (world.withFiles files) after after' →
      SameLoaded after after' :=
    fun after after' hlogged => hlogged.1.loaded.trans hlogged.2.loaded.symm
  unfold load Step.Matches
  rw [Step.perform_get_bind, Step.perform_get_bind, World.loaded_withFiles, hcache]
  dsimp only
  refine Step.Matches.bind (matches_merged hdated hlog hlacks hentry hidle directory) hloaded
    fun layered after after' hlogged => ?_
  obtain ⟨data, sources⟩ := layered
  dsimp only
  cases Settings.read (.obj data) with
  | error violations => exact ⟨rfl, hloaded _ _ hlogged⟩
  | ok settings => exact ⟨rfl, rfl⟩

end Sparing

/-! ### Files that end a load -/

/-- Files that were laid over each other were loaded. -/
theorem loads_of_applyFiles_ok {start world after : World} {kind : String}
    (hfrom : LogsOnly start world) {paths : List String}
    (hapart : ∀ path ∈ paths, ApartFromLog start path) {below result : Json.Members × List String}
    (h : (applyFiles kind paths below).perform world = (.ok result, after)) :
    ∀ path ∈ paths, ∃ members, ((loadFile path).perform start).1 = .ok members := by
  -- each file is loaded in the state that the files before it left, which differs in records only
  induction paths generalizing world below with
  | nil => nofun
  | cons path rest ih =>
    unfold applyFiles at h
    obtain ⟨applied, between, happly, h⟩ := Step.perform_bind_eq_ok_iff.1 h
    have hpath := hapart path (by simp)
    have hbetween := (applyFile_ok hfrom hpath happly).1
    intro other hother
    rcases List.mem_cons.1 hother with rfl | hrest
    · unfold applyFile at happly
      obtain ⟨data, loaded, hload, -⟩ := Step.perform_bind_eq_ok_iff.1 happly
      refine ⟨data, ?_⟩
      rw [← result_loadFile hfrom hpath, hload]
    · exact ih hbetween (fun other hother => hapart other (List.mem_cons_of_mem _ hother)) h other
        hrest

/-- A load whose layers are merged has loaded all files that it looks for. -/
theorem loads_of_merged_ok {world after : World} {directory : String} (hlog : world.desk.LogNamed)
    {layered : Json.Members × List String}
    (h : (merged directory).perform world = (.ok layered, after)) {path : String}
    (hpath : path ∈ candidates world.desk.machine directory)
    (hfile : isFile world.desk.machine (Path.tidy path) = true) :
    ∃ members, ((loadFile path).perform world).1 = .ok members := by
  have hapart : ∀ path ∈ candidates world.desk.machine directory, ApartFromLog world path :=
    fun path hpath => apartFromLog_of_mem_candidates hlog hpath
  unfold merged at h
  rw [Step.perform_bind_ok (perform_machine world)] at h
  obtain ⟨low, first, hglobal, h⟩ := Step.perform_bind_eq_ok_iff.1 h
  obtain ⟨files, second, hfiles, h⟩ := Step.perform_bind_eq_ok_iff.1 h
  obtain ⟨high, third, hproject, -⟩ := Step.perform_bind_eq_ok_iff.1 h
  obtain ⟨hplaces, rfl⟩ := perform_ofOs_ok hfiles
  have hkept := projectFiles_ok hplaces
  have hglobalApart : ∀ path ∈ globalFiles world.desk.machine, ApartFromLog world path :=
    fun path hpath => hapart path (List.mem_append_left _ hpath)
  -- it is a file of the user, or one of the project's that was found to be there
  rcases List.mem_append.1 hpath with hpath | hcandidate
  · exact loads_of_applyFiles_ok (.refl world) hglobalApart hglobal path hpath
  · refine loads_of_applyFiles_ok (applyFiles_ok (.refl world) hglobalApart hglobal).1
      (fun path hpath => ?_) hproject path ?_
    · rw [hkept] at hpath
      exact hapart path (List.mem_append_right _ (List.mem_filter.1 hpath).1)
    · rw [hkept]
      rw [tidy_of_mem_projectCandidates hcandidate] at hfile
      exact List.mem_filter.2 ⟨hcandidate, hfile⟩

/-- A load that looks for a file which cannot be loaded fails. -/
theorem load_fails {world : World} {directory : String} (hcache : world.loaded.cache = none)
    (hlog : world.desk.LogNamed) {path : String}
    (hpath : path ∈ candidates world.desk.machine directory)
    (hfile : isFile world.desk.machine (Path.tidy path) = true) {failure : Failure}
    (hloads : ((loadFile path).perform world).1 = .error failure) :
    ∃ failure, ((load directory).perform world).1 = .error failure := by
  cases hload : (load directory).perform world with
  | mk result after =>
    cases result with
    | error failure => exact ⟨failure, rfl⟩
    | ok settings =>
      obtain ⟨data, between, hmerged, -⟩ := merged_of_load_ok hcache hload
      obtain ⟨members, hmembers⟩ := loads_of_merged_ok hlog hmerged hpath hfile
      rw [hloads] at hmembers
      cases hmembers

/-- A settings file may hold any bytes while the time of day can be written. Loading it ends well
unless the text in it is refused, with the object in it or, if it holds none, with nothing. A file
that holds no object and is one of those that a load looks for makes the load fail if its text is
refused. If not, the load comes to the same as without the file. -/
theorem tolerance_iff (world : World) (directory : String) (hcache : world.loaded.cache = none)
    (hlog : world.desk.LogNamed) (hdated : world.Dated) {path : String} {bytes : Text.Utf8.Bytes}
    (hread : world.desk.machine.files.read world.desk.machine.cwd (Path.tidy path) = .ok bytes) :
    ((∃ members, ((loadFile path).perform world).1 = .ok members) ↔
        ¬ Refused world.desk.machine.env bytes) ∧
      (¬ Refused world.desk.machine.env bytes →
        ((loadFile path).perform world).1 =
          .ok ((objectIn? world.desk.machine.env bytes).getD [])) ∧
      (path ∈ candidates world.desk.machine directory →
        objectIn? world.desk.machine.env bytes = none →
          (Refused world.desk.machine.env bytes →
            ∃ failure, ((load directory).perform world).1 = .error failure) ∧
          (¬ Refused world.desk.machine.env bytes →
            ((load directory).perform world).1 =
                ((load directory).perform (world.withoutFile path)).1 ∧
              ((load directory).perform world).2.loaded =
                ((load directory).perform (world.withoutFile path)).2.loaded)) := by
  have hloads := result_loadFile_of_read hdated hread
  obtain ⟨place, mode, changed, hplace, hentry⟩ := FileTree.exists_entry_of_read hread
  refine ⟨⟨?_, fun hfine => ?_⟩, fun hfine => ?_, fun hpath hnone => ⟨fun hrefused => ?_,
    fun hfine => ?_⟩⟩
  · rintro ⟨members, hmembers⟩ hrefused
    obtain ⟨failure, hfailure⟩ := contribution_of_refused hrefused
    rw [hloads, hfailure] at hmembers
    cases hmembers
  · exact ⟨_, hloads.trans (contribution_of_not_refused hfine)⟩
  · exact hloads.trans (contribution_of_not_refused hfine)
  · obtain ⟨failure, hfailure⟩ := contribution_of_refused hrefused
    have hfile : isFile world.desk.machine (Path.tidy path) = true := by
      simp only [isFile, FileTree.probe, hplace, hentry]
    exact load_fails hcache hlog hpath hfile (hloads.trans hfailure)
  -- it contributes nothing, and neither does a file that is not there
  · have hidle := contribution_of_not_refused hfine
    rw [hnone] at hidle
    exact matches_load hdated hlog (FileTree.lacks_remove hplace hentry) hentry hidle hcache
      directory

/-- A machine with a single settings file, which is in its working directory. -/
def singleWorld (text : String) : World :=
  World.atStart
    { files := FileTree.empty.put ["julials.json"] (.file (Text.Utf8.encode text) 0o644 0)
      env := []
      cwd := "/"
      now := 0 }

/-- An array is left out, and a load does without it. A text that stops after an opening brace ends
the load. -/
theorem tolerance_ends :
    ((load ".").perform (singleWorld "[]")).1 =
        ((load ".").perform ((singleWorld "[]").withoutFile "/julials.json")).1 ∧
      ∃ failure, ((load ".").perform (singleWorld "\x7b")).1 = .error failure := by
  have hlog : ∀ text, (singleWorld text).desk.LogNamed := fun text => World.logNamed_atStart _
  have hread : ∀ text, (singleWorld text).desk.machine.files.read "/"
      (Path.tidy "/julials.json") = .ok (Text.Utf8.encode text) := fun text => rfl
  have hready : ∀ text ∈ ["[]", "\x7b"], (singleWorld text).Dated ∧
      "/julials.json" ∈ candidates (singleWorld text).desk.machine "." := by decide +kernel
  obtain ⟨hdated, hpath⟩ := hready "[]" (by simp)
  obtain ⟨hdated', hpath'⟩ := hready "\x7b" (by simp)
  have hlist : objectIn? [] (Text.Utf8.encode "[]") = none ∧
      ¬ Refused [] (Text.Utf8.encode "[]") := by decide +kernel
  have hbrace : objectIn? [] (Text.Utf8.encode "\x7b") = none ∧
      Refused [] (Text.Utf8.encode "\x7b") := by decide +kernel
  obtain ⟨-, -, hload⟩ := tolerance_iff (singleWorld "[]") "." rfl (hlog _) hdated (hread _)
  obtain ⟨-, -, hload'⟩ := tolerance_iff (singleWorld "\x7b") "." rfl (hlog _) hdated' (hread _)
  exact ⟨((hload hpath hlist.1).2 hlist.2).1, (hload' hpath' hbrace.1).1 hbrace.2⟩

end Config

end JuliaSession
