import Mathlib.Tactic.SplitIfs
import JuliaSession.Proofs.Path.Parts
import JuliaSession.Proofs.Step

/-!
# What a log record changes

Writing a record changes the log file and nothing else: files at other places keep their content,
and what a path names is found where it was.

* `FileTree.SameDirs`: two trees with the same directories. A path leads to the same place in both
  (`FileTree.SameDirs.locate_eq_ok_iff`).
* `FileTree.suffix_of_locate`: the end of a path names the place that it leads to.
* `Desk.logNamed_configureLog`: only a log with the name of a log file is open.
* `LogsOnly`: from one world to the other only the log was written.
* `logsOnly_emit`: that is what a record does, also if it cannot be written.
* `Desk.emit_fst`: a record cannot be written only if its time cannot.
* `World.Dated`: the time of day can be written, so that records and measurements end well (`log_ok`,
  `startTimer_ok`, `stopTimer_ok`).
-/

namespace JuliaSession

namespace FileTree

variable {tree before after : FileTree} {cwd path : String}

/-! ### Trees with the same directories -/

/-- The same places are directories. -/
def SameDirs (before after : FileTree) : Prop :=
  ∀ place, (after.entry? place).any Entry.isDir = (before.entry? place).any Entry.isDir

theorem SameDirs.refl (tree : FileTree) : SameDirs tree tree := fun _ => rfl

theorem SameDirs.trans {first : FileTree} (h : SameDirs first before) (h' : SameDirs before after) :
    SameDirs first after := fun place => (h' place).trans (h place)

/-- A path is followed in both trees, or in neither. A path that is too long on the way is so in
both; other reasons may differ. -/
theorem SameDirs.walk (h : SameDirs before after) (place : Place) (segs : List String) :
    after.walk place segs = before.walk place segs ∨
      (before.walk place segs = .error .noEntry ∨ before.walk place segs = .error .notDirectory) ∧
        (after.walk place segs = .error .noEntry ∨
          after.walk place segs = .error .notDirectory) := by
  induction segs generalizing place with
  | nil => exact .inl rfl
  | cons seg rest ih =>
    have hdir := h place
    unfold FileTree.walk
    cases hbefore : before.entry? place with
    | none =>
      right
      refine ⟨.inl rfl, ?_⟩
      cases hafter : after.entry? place with
      | none => exact .inl rfl
      | some entry =>
        cases entry with
        | file => exact .inr rfl
        | dir => simp [hbefore, hafter, Entry.isDir] at hdir
    | some entry =>
      cases entry with
      | file =>
        right
        refine ⟨.inr rfl, ?_⟩
        cases hafter : after.entry? place with
        | none => exact .inl rfl
        | some entry =>
          cases entry with
          | file => exact .inr rfl
          | dir => simp [hbefore, hafter, Entry.isDir] at hdir
      | dir =>
        -- both trees go on from a directory
        obtain ⟨mode, changed, hafter⟩ : ∃ mode changed,
            after.entry? place = some (.dir mode changed) := by
          cases hafter : after.entry? place with
          | none => simp [hbefore, hafter, Entry.isDir] at hdir
          | some entry =>
            cases entry with
            | file => simp [hbefore, hafter, Entry.isDir] at hdir
            | dir mode changed => exact ⟨mode, changed, rfl⟩
        simp only [hafter]
        split_ifs
        · exact ih place
        · exact ih place.dropLast
        · exact .inl rfl
        · exact ih (place ++ [seg])

/-- A path leads to a place in both trees, or in neither. -/
theorem SameDirs.locate (h : SameDirs before after) (cwd path : String) :
    after.locate cwd path = before.locate cwd path ∨
      (before.locate cwd path = .error .noEntry ∨ before.locate cwd path = .error .notDirectory) ∧
        (after.locate cwd path = .error .noEntry ∨
          after.locate cwd path = .error .notDirectory) := by
  unfold FileTree.locate
  split_ifs
  · exact .inl rfl
  · exact .inl rfl
  · exact .inl rfl
  · exact h.walk _ _
  · exact h.walk _ _

theorem SameDirs.toOption_locate (h : SameDirs before after) (cwd path : String) :
    (after.locate cwd path).toOption = (before.locate cwd path).toOption := by
  rcases h.locate cwd path with heq | ⟨hbefore, hafter⟩
  · rw [heq]
  · rcases hbefore with hbefore | hbefore <;> rcases hafter with hafter | hafter <;>
      rw [hbefore, hafter] <;> rfl

/-- A file is written at the same place in both trees, or in neither. -/
theorem SameDirs.toOption_locateFile (h : SameDirs before after) (cwd path : String) :
    (after.locateFile cwd path).toOption = (before.locateFile cwd path).toOption := by
  have hnone : ∀ tree : FileTree, (do
      let _ ← tree.locate cwd (String.ofList (Text.dropRightWhile (· = '/') path.toList))
      throw .isDirectory : Except Errno Place).toOption = none := by
    intro tree
    cases tree.locate cwd _ <;> rfl
  unfold locateFile
  dsimp only
  split_ifs
  · exact h.toOption_locate cwd path
  · rw [hnone, hnone]

/-- What is at a place that stays as it was is found in both trees. -/
theorem SameDirs.probe (h : SameDirs before after)
    (hsame : ∀ place, before.locate cwd path = .ok place →
      after.entry? place = before.entry? place) :
    after.probe cwd path = before.probe cwd path := by
  unfold FileTree.probe
  rcases h.locate cwd path with heq | ⟨hbefore, hafter⟩
  · rw [heq]
    cases hlocate : before.locate cwd path with
    | ok place => simp only [hsame place hlocate]
    | error reason => cases reason <;> rfl
  · rcases hbefore with hbefore | hbefore <;> rcases hafter with hafter | hafter <;>
      rw [hbefore, hafter]

/-- A file that stays as it was is read in both trees. -/
theorem SameDirs.read (h : SameDirs before after)
    (hsame : ∀ place, before.locate cwd path = .ok place →
      after.entry? place = before.entry? place) {entry : Entry}
    (hentry : before.probe cwd path = .ok (some entry)) :
    after.read cwd path = before.read cwd path := by
  unfold FileTree.probe at hentry
  unfold FileTree.read
  rcases h.locate cwd path with heq | ⟨hbefore, -⟩
  · rw [heq]
    cases hlocate : before.locate cwd path with
    | ok place => simp only [hsame place hlocate]
    | error reason => rfl
  · rcases hbefore with hbefore | hbefore <;> rw [hbefore] at hentry <;> cases hentry

/-! ### The name of a place -/

theorem walk_concat {tree : FileTree} {start found : Place} {segs : List String} {seg : String}
    (hempty : seg ≠ "") (hdot : seg ≠ ".") (hup : seg ≠ "..")
    (h : tree.walk start (segs ++ [seg]) = .ok found) : found.getLast? = some seg := by
  -- only the last segment matters, wherever the ones before it have led
  induction segs generalizing start with
  | nil =>
    rw [List.nil_append, walk] at h
    split at h
    · cases h
    · cases h
    · rw [if_neg (not_or.2 ⟨hempty, hdot⟩), if_neg hup] at h
      split_ifs at h
      cases h
      exact List.getLast?_concat
  | cons first rest ih =>
    rw [List.cons_append, walk] at h
    split at h
    · cases h
    · cases h
    · split_ifs at h
      · exact ih h
      · exact ih h
      · exact ih h

/-- What ends a path ends the name of the place that it leads to. -/
theorem suffix_of_locate {tree : FileTree} {cwd path : String} {place : Place} {tail : List Char}
    (h : Path.Naming tail) (hsuffix : tail <:+ path.toList)
    (hplace : tree.locate cwd path = .ok place) :
    ∃ name, place.getLast? = some name ∧ tail <:+ name.toList := by
  obtain ⟨front, hfront⟩ := hsuffix
  obtain ⟨before, name, hsegments⟩ := Path.segments_append h.slash front
  have hsplit : Text.split path '/' =
      before.map String.ofList ++ [String.ofList (name ++ tail)] := by
    unfold Text.split
    rw [← hfront, ← Path.segments, hsegments, List.map_append, List.map_singleton]
  -- the last segment is a name, not one of those that stay or go up
  have hne : ∀ count, String.ofList (name ++ tail) ≠ String.ofList (List.replicate count '.') :=
    fun count heq => h.ne_dots (List.suffix_append _ _) count (String.ofList_injective heq)
  unfold locate at hplace
  rw [hsplit] at hplace
  split_ifs at hplace
  · refine ⟨_, walk_concat (hne 0) (hne 1) (hne 2) hplace, ?_⟩
    rw [String.toList_ofList]
    exact List.suffix_append _ _
  · refine ⟨_, walk_concat (hne 0) (hne 1) (hne 2) hplace, ?_⟩
    rw [String.toList_ofList]
    exact List.suffix_append _ _

/-- A file is written where its path leads. -/
theorem locate_of_locateFile {tree : FileTree} {cwd path : String} {place : Place}
    (h : tree.locateFile cwd path = .ok place) : tree.locate cwd path = .ok place := by
  unfold locateFile at h
  dsimp only at h
  split_ifs at h
  · exact h
  · cases hbare : tree.locate cwd (String.ofList (Text.dropRightWhile (· = '/') path.toList)) <;>
      rw [hbare] at h <;> cases h

/-! ### Changes of one file -/

theorem entry?_put (tree : FileTree) (place other : Place) (entry : Entry) (hplace : place ≠ []) :
    FileTree.entry? (tree.put place entry) other =
      if other = place then some entry else tree.entry? other := by
  unfold put entry?
  by_cases hother : other = []
  · simp [hother, hplace.symm]
  · simp [hother, Assoc.get?_insert]

/-- A file that is changed was a file before, or nothing. -/
theorem modify_eq_ok {change : Text.Utf8.Bytes → Text.Utf8.Bytes}
    (h : tree.modify cwd path change = .ok after) :
    ∃ place, tree.locateFile cwd path = .ok place ∧ SameDirs tree after ∧
      ∀ other, other ≠ place → after.entry? other = tree.entry? other := by
  unfold modify at h
  cases hlocate : tree.locateFile cwd path with
  | error reason =>
    rw [hlocate] at h
    cases h
  | ok place =>
    rw [hlocate] at h
    dsimp only at h
    -- what is put is no directory, and neither is what it replaces
    have hput : ∀ {content mode changed}, (tree.entry? place).any Entry.isDir = false →
        SameDirs tree (tree.put place (.file content mode changed)) ∧
          ∀ other, other ≠ place →
            FileTree.entry? (tree.put place (.file content mode changed)) other =
              tree.entry? other := by
      intro content mode changed hfile
      have hplace : place ≠ [] := by
        rintro rfl
        cases hfile
      refine ⟨fun other => ?_, fun other hne => by rw [entry?_put _ _ _ _ hplace, if_neg hne]⟩
      rw [entry?_put _ _ _ _ hplace]
      split_ifs with heq
      · rw [heq, hfile]
        rfl
      · rfl
    refine ⟨place, rfl, ?_⟩
    split at h
    · cases h
    next hentry =>
      cases h
      exact hput (by rw [hentry]; rfl)
    next hentry =>
      split at h
      · cases h
        exact hput (by rw [hentry]; rfl)
      · cases h
      · cases h

end FileTree

/-! ### Log files -/

namespace Desk

/-- The log that is open, if there is one, has the name of a log file. -/
def LogNamed (desk : Desk) : Prop :=
  ∀ path, desk.log.opened = some path → ['.', 'l', 'o', 'g'] <:+ path.toList

theorem naming_log : Path.Naming ['.', 'l', 'o', 'g'] :=
  ⟨by decide, 'l', by decide, by decide⟩

theorem logNamed_of_opened_eq_none {desk : Desk} (h : desk.log.opened = none) : desk.LogNamed := by
  intro path hpath
  rw [h] at hpath
  cases hpath

theorem suffix_logFileName {desk : Desk} {dev : Bool} {name : String}
    (h : desk.logFileName dev = .ok name) : ['.', 'l', 'o', 'g'] <:+ name.toList := by
  unfold logFileName at h
  cases dev with
  | true =>
    cases h
    decide
  | false =>
    cases hyear : desk.checkYear with
    | error failure =>
      rw [hyear] at h
      cases h
    | ok _ =>
      rw [hyear] at h
      rw [← Except.ok.inj h, String.toList_append]
      exact List.suffix_append _ _

/-- Removing files leaves the log as it is. -/
theorem log_removeAll (desk : Desk) (dir : String) (names : List String) :
    (desk.removeAll dir names).2.log = desk.log := by
  induction names generalizing desk with
  | nil => rfl
  | cons name rest ih =>
    unfold removeAll
    dsimp only
    split_ifs
    · rfl
    · exact ih _

theorem log_rotate (desk : Desk) (dir : String) : (desk.rotate dir).2.log = desk.log := by
  unfold rotate
  split
  · rfl
  · exact log_removeAll desk dir _

theorem logNamed_openFile {desk : Desk} (hclosed : desk.log.opened = none) {path : String}
    (hpath : ['.', 'l', 'o', 'g'] <:+ path.toList) : (desk.openFile path).2.LogNamed := by
  unfold openFile
  dsimp only
  split
  · exact logNamed_of_opened_eq_none hclosed
  · intro other hother
    cases hother
    exact hpath

theorem logNamed_openLog {desk : Desk} (hclosed : desk.log.opened = none) (dev : Bool) :
    (desk.openLog dev).2.LogNamed := by
  unfold openLog
  dsimp only
  split
  · exact logNamed_of_opened_eq_none hclosed
  next files _ =>
    -- making room does not open a log, so none is open until the very end
    have hkept : ∀ {result rotated}, ({ desk with
        machine := { desk.machine with files } } : Desk).rotate
          (Directories.log desk.machine) = (result, rotated) → rotated.log.opened = none := by
      intro result rotated hrotate
      have hlog := log_rotate { desk with machine := { desk.machine with files } }
        (Directories.log desk.machine)
      rw [hrotate] at hlog
      rw [hlog]
      exact hclosed
    split
    next hrotate => exact logNamed_of_opened_eq_none (hkept hrotate)
    next hrotate =>
      split
      · exact logNamed_of_opened_eq_none (hkept hrotate)
      next hname =>
        exact logNamed_openFile (hkept hrotate)
          (Path.suffix_child naming_log (suffix_logFileName hname) _)

/-- Setting up the sinks leaves no log open but one with the name of a log file. -/
theorem logNamed_configureLog (desk : Desk) (level : Option Log.Level) (format : Option Log.Format)
    (console file : Option Bool) (dev : Bool) :
    (desk.configureLog level format console file dev).2.LogNamed := by
  unfold configureLog
  dsimp only
  split_ifs
  · exact logNamed_openLog rfl dev
  · exact logNamed_of_opened_eq_none rfl

end Desk

/-- A logger that is made leaves the log as it is. -/
theorem Log.State.opened_logger (state : State) (tags : Fields) :
    (state.logger tags).2.opened = state.opened := by
  unfold logger
  dsimp only
  split
  · split_ifs
    · rfl
    · split <;> rfl
  · rfl

/-- No log is open when the program starts. -/
theorem World.logNamed_atStart (machine : Machine) : (World.atStart machine).desk.LogNamed := by
  have hloggers : ∀ (services : List String) (state : Log.State),
      (services.foldl (fun state service => (state.logger [("service", Log.text service)]).2)
        state).opened = state.opened := by
    intro services
    induction services with
    | nil => exact fun _ => rfl
    | cons service rest ih => exact fun state => (ih _).trans (Log.State.opened_logger state _)
  refine Desk.logNamed_of_opened_eq_none ?_
  unfold World.atStart Log.State.atStart
  exact hloggers _ _

/-! ### Records -/

/-- Where the log is written. -/
def World.logPlace? (world : World) : Option Place :=
  world.desk.log.opened.bind fun path =>
    (world.desk.machine.files.locateFile world.desk.machine.cwd path).toOption

/-- The log is written to a place with the name of a log file. -/
theorem World.suffix_logPlace {world : World} (h : world.desk.LogNamed) {place : Place}
    (hplace : world.logPlace? = some place) :
    ∃ name, place.getLast? = some name ∧ ['.', 'l', 'o', 'g'] <:+ name.toList := by
  obtain ⟨path, hopened, hlocate⟩ := Option.bind_eq_some_iff.1 hplace
  cases hfile : world.desk.machine.files.locateFile world.desk.machine.cwd path with
  | error reason =>
    rw [hfile] at hlocate
    cases hlocate
  | ok found =>
    rw [hfile] at hlocate
    cases hlocate
    exact FileTree.suffix_of_locate Desk.naming_log (h path hopened)
      (FileTree.locate_of_locateFile hfile)

/-- From one world to the other only the log was written. -/
structure LogsOnly (before after : World) : Prop where
  /-- Nothing but the desk changes. -/
  desk : after = { before with desk := after.desk }
  /-- The environment is the same. -/
  env : after.desk.machine.env = before.desk.machine.env
  /-- The working directory is the same. -/
  cwd : after.desk.machine.cwd = before.desk.machine.cwd
  /-- It is the same time. -/
  now : after.desk.machine.now = before.desk.machine.now
  /-- The least severity is the same. -/
  level : after.desk.log.level = before.desk.log.level
  /-- The log is written at the same place. -/
  place : after.logPlace? = before.logPlace?
  /-- The directories are the same. -/
  dirs : before.desk.machine.files.SameDirs after.desk.machine.files
  /-- What is at another place is the same. -/
  entries : ∀ place, before.logPlace? ≠ some place →
    after.desk.machine.files.entry? place = before.desk.machine.files.entry? place

theorem LogsOnly.refl (world : World) : LogsOnly world world :=
  ⟨rfl, rfl, rfl, rfl, rfl, rfl, .refl _, fun _ _ => rfl⟩

theorem LogsOnly.trans {first before after : World} (h : LogsOnly first before)
    (h' : LogsOnly before after) : LogsOnly first after where
  desk := by rw [h'.desk, h.desk]
  env := h'.env.trans h.env
  cwd := h'.cwd.trans h.cwd
  now := h'.now.trans h.now
  level := h'.level.trans h.level
  place := h'.place.trans h.place
  dirs := h.dirs.trans h'.dirs
  entries place hplace := (h'.entries place (by rwa [h.place])).trans (h.entries place hplace)

theorem LogsOnly.loaded {before after : World} (h : LogsOnly before after) :
    after.loaded = before.loaded := by
  rw [h.desk]

instance : Std.Refl LogsOnly := ⟨.refl⟩

instance : Trans LogsOnly LogsOnly LogsOnly := ⟨.trans⟩

/-- The console and the time of the last record are no part of the log's files. -/
theorem logsOnly_of_machine_eq {world : World} {desk : Desk}
    (hmachine : desk.machine = world.desk.machine) (hlevel : desk.log.level = world.desk.log.level)
    (hopened : desk.log.opened = world.desk.log.opened) : LogsOnly world { world with desk } where
  desk := rfl
  env := by rw [hmachine]
  cwd := by rw [hmachine]
  now := by rw [hmachine]
  level := hlevel
  place := by
    unfold World.logPlace?
    rw [hmachine, hopened]
  dirs := by rw [hmachine]; exact .refl _
  entries _ _ := by rw [hmachine]

/-- The open log is written. -/
theorem logsOnly_append {world : World} {path : String} {bytes : Text.Utf8.Bytes} {files : FileTree}
    (hopened : world.desk.log.opened = some path)
    (happend : world.desk.machine.files.append world.desk.machine.cwd path bytes = .ok files) :
    LogsOnly world { world with
      desk := { world.desk with machine := { world.desk.machine with files } } } := by
  obtain ⟨place, hplace, hdirs, hentries⟩ := FileTree.modify_eq_ok happend
  have hlog : world.logPlace? = some place := by
    unfold World.logPlace?
    rw [hopened]
    exact congrArg Except.toOption hplace
  exact
    { desk := rfl
      env := rfl
      cwd := rfl
      now := rfl
      level := rfl
      place := by
        unfold World.logPlace?
        simp only [hopened, Option.bind_some]
        exact hdirs.toOption_locateFile _ _
      dirs := hdirs
      entries := fun other hother => hentries other fun heq => hother (by rw [hlog, heq]) }

/-- A line is written to the open log, or to the console, or to both. -/
theorem logsOnly_writeLine (world : World) (line : List Char) :
    LogsOnly world { world with desk := world.desk.writeLine line } := by
  unfold Desk.writeLine
  dsimp only
  generalize hshown : (if world.desk.log.console then
    { world.desk with stderr := world.desk.stderr ++ line } else world.desk) = desk
  -- what is shown on the console touches neither the files nor the log
  have hmachine : desk.machine = world.desk.machine := by
    rw [← hshown]
    split_ifs <;> rfl
  have hlog : desk.log = world.desk.log := by
    rw [← hshown]
    split_ifs <;> rfl
  have hconsole : LogsOnly world { world with desk } :=
    logsOnly_of_machine_eq hmachine (by rw [hlog]) (by rw [hlog])
  split
  next path _ hopened =>
    split
    next files happend => exact hconsole.trans (logsOnly_append hopened happend)
    next => exact hconsole
  next => exact hconsole

/-- A record is written to the log. -/
theorem logsOnly_emit (logger : Log.Logger) (level : Log.Level) (message : Log.Value)
    (extra : Log.Fields) :
    Step.Leads LogsOnly (Act.onDesk fun desk => desk.emit logger level message extra) := by
  intro world
  rw [perform_onDesk]
  unfold Desk.emit
  split_ifs
  · exact .refl world
  · dsimp only
    -- the record counts as the last one even if its time cannot be written
    have hcounted : LogsOnly world { world with
        desk := { world.desk with
          log := { world.desk.log with last := world.desk.machine.now } } } :=
      logsOnly_of_machine_eq rfl rfl rfl
    split
    · exact hcounted
    · exact hcounted.trans (logsOnly_writeLine _ _)

theorem logsOnly_log (service : String) (level : Log.Level) (message : String)
    (fields : Log.Fields) : Step.Leads LogsOnly (Act.log service level message fields) :=
  logsOnly_emit _ _ _ _

/-- Whether a record can be written depends on its severity and on the time only. -/
theorem Desk.emit_fst (desk : Desk) (logger : Log.Logger) (level : Log.Level)
    (message : Log.Value) (extra : Log.Fields) :
    (desk.emit logger level message extra).1 =
      if level.passes desk.log.level then desk.checkYear else .ok () := by
  unfold emit
  cases level.passes desk.log.level with
  | false => rfl
  | true =>
    simp only [Bool.not_true, Bool.false_eq_true, if_false, if_true]
    -- the time is that of the machine, whichever record was the last
    have hyear (log : Log.State) : checkYear { desk with log } = desk.checkYear := rfl
    rw [hyear]
    cases desk.checkYear <;> rfl

theorem result_log {before after : World} (h : LogsOnly before after) (service : String)
    (level : Log.Level) (message : String) (fields : Log.Fields) :
    ((Act.log service level message fields).perform after).1 =
      ((Act.log service level message fields).perform before).1 := by
  unfold Act.log
  rw [perform_onDesk, perform_onDesk, Desk.emit_fst, Desk.emit_fst, h.level, Desk.checkYear,
    Desk.checkYear, h.now]

/-! ### Measurements -/

theorem logsOnly_startTimer (service message : String) (fields : Log.Fields) :
    Step.Leads LogsOnly (Act.startTimer service message fields) := by
  intro world
  have hemit := logsOnly_emit (Act.logger service) .info (Log.text message)
    (Assoc.insert "status" (Log.text "started") fields) world
  rw [perform_onDesk] at hemit
  unfold Act.startTimer
  rw [perform_onDesk]
  exact hemit

theorem logsOnly_stopTimer (timer : Log.Timer) : Step.Leads LogsOnly (Act.stopTimer timer) := by
  intro world
  have hemit := logsOnly_emit timer.logger .info timer.message
    (Assoc.insert "duration" (Log.number (world.desk.machine.now - timer.started))
      (Assoc.insert "status" (Log.text "completed") timer.extra)) world
  rw [perform_onDesk] at hemit
  unfold Act.stopTimer
  rw [perform_onDesk]
  exact hemit

/-! ### The time of day -/

/-- The time of day can be written. -/
def World.Dated (world : World) : Prop := world.desk.checkYear = .ok ()

instance (world : World) : Decidable world.Dated := inferInstanceAs (Decidable (_ = _))

/-- No time passes while the log is written. -/
theorem LogsOnly.dated_iff {before after : World} (h : LogsOnly before after) :
    after.Dated ↔ before.Dated := by
  unfold World.Dated Desk.checkYear
  rw [h.now]

theorem Desk.emit_fst_of_dated {world : World} (h : world.Dated) (logger : Log.Logger)
    (level : Log.Level) (message : Log.Value) (extra : Log.Fields) :
    (world.desk.emit logger level message extra).1 = .ok () := by
  rw [emit_fst, h, ite_self]

/-- A record that was attempted while the time of day can be written was written. -/
theorem log_ok {service : String} {level : Log.Level} {message : String} {fields : Log.Fields}
    {before after : World} {result : Except Failure Unit}
    (h : (Act.log service level message fields).perform before = (result, after))
    (hdated : after.Dated) : result = .ok () := by
  rw [((logsOnly_log service level message fields).ends h).dated_iff] at hdated
  unfold Act.log at h
  rw [perform_onDesk, Desk.emit_fst_of_dated hdated] at h
  exact (congrArg Prod.fst h).symm

/-- What follows a record goes on where the record was written, if all ends well or the time of day
can be written in the end. -/
theorem perform_log_bind {α : Type} {service : String} {level : Log.Level} {message : String}
    {fields : Log.Fields} {next : Unit → Act α} {before after : World} {result : Except Failure α}
    (h : (Act.log service level message fields >>= next).perform before = (result, after))
    (hwell : result.isOk = true ∨ after.Dated) :
    ∃ between, LogsOnly before between ∧ (next ()).perform between = (result, after) := by
  -- a record fails only if the time of day cannot be written, and then nothing ended well
  cases hrecord : (Act.log service level message fields).perform before with
  | mk outcome between =>
    have hlogs := (logsOnly_log service level message fields).ends hrecord
    cases outcome with
    | ok _ =>
      rw [Step.perform_bind_ok hrecord] at h
      exact ⟨between, hlogs, h⟩
    | error failure =>
      rw [Step.perform_bind_error hrecord] at h
      cases h
      rcases hwell with hok | hdated
      · cases hok
      · cases log_ok hrecord hdated

/-- A record that cannot be written is no fault of a server or of the settings. -/
theorem log_fails {service : String} {level : Log.Level} {message : String} {fields : Log.Fields}
    {before after : World} {failure : Failure}
    (h : (Act.log service level message fields).perform before = (.error failure, after)) :
    ∃ reason, failure = .badValue reason := by
  unfold Act.log at h
  rw [perform_onDesk, Desk.emit_fst, Desk.checkYear] at h
  replace h := congrArg Prod.fst h
  dsimp only at h
  split_ifs at h
  cases h
  exact ⟨_, rfl⟩

/-- A measurement begins while the time of day can be written. -/
theorem startTimer_ok {service message : String} {fields : Log.Fields} {before after : World}
    {result : Except Failure Log.Timer}
    (h : (Act.startTimer service message fields).perform before = (result, after))
    (hdated : after.Dated) : ∃ timer, result = .ok timer := by
  rw [((logsOnly_startTimer service message fields).ends h).dated_iff] at hdated
  unfold Act.startTimer Desk.startTimer at h
  rw [perform_onDesk] at h
  dsimp only at h
  rw [Desk.emit_fst_of_dated hdated] at h
  exact ⟨_, (congrArg Prod.fst h).symm⟩

/-- A measurement ends while the time of day can be written. -/
theorem stopTimer_ok {timer : Log.Timer} {before after : World} {result : Except Failure Unit}
    (h : (Act.stopTimer timer).perform before = (result, after)) (hdated : after.Dated) :
    result = .ok () := by
  rw [((logsOnly_stopTimer timer).ends h).dated_iff] at hdated
  unfold Act.stopTimer Desk.stopTimer at h
  rw [perform_onDesk] at h
  dsimp only at h
  rw [Desk.emit_fst_of_dated hdated] at h
  exact (congrArg Prod.fst h).symm

end JuliaSession
