import JuliaSession.Proofs.Log.Calls
import JuliaSession.Proofs.Text.Utf8

/-!
# Log files that are opened again

A log file is named for the second it is opened in, and it is empty when it is opened. So a record
stays in its file until the sinks are set up once more in the second that the file is named for:
then the file is opened again, and what was in it is lost.

* `Desk.OpenIn`: the log of a name is open in the directory of the log files. In every run that
  starts without a log, an open log is open like that (`Desk.openWell_run`).
* `Desk.Drops`, `Desk.Reopens`: what can happen to a file in a call. A file is opened again in the
  second that it is named for (`Desk.reopens_stampName_iff`).
* `Desk.content_call`: a file that is kept only grows, unless it is opened again.
* `Desk.record_kept_iff`: a record is in its file for as long as the file is not opened again.
-/

namespace JuliaSession

theorem Directories.log_congr {first second : Machine} (henv : first.env = second.env) :
    log first = log second := by
  unfold log data shared homeStart givesPlace Machine.envVar?
  rw [henv]

namespace FileTree

variable {before after : FileTree} {cwd path : String} {place : Place}

theorem DirAt.of_extends (h : before.DirAt cwd path place) (hextends : Extends before after) :
    after.DirAt cwd path place where
  located := hextends.locate h.located
  isDir := by
    obtain ⟨entry, hentry⟩ := entry_of_isDir h.isDir
    rw [hextends.kept place entry hentry, ← hentry]
    exact h.isDir

end FileTree

namespace Desk

open FileTree (DirAt IsName Extends Removed SameDirs)

variable {desk after : Desk} {dir place : Place} {name : String}

/-! ### What stays -/

theorem dirAt_makeRoom {cwd path : String} (h : desk.machine.files.DirAt cwd path place) :
    desk.makeRoom.2.machine.files.DirAt cwd path place := by
  obtain ⟨made, gone, files, heq, hextends, hremoved⟩ := makeRoom_changes desk
  rw [heq]
  exact (h.of_extends hextends).of_sameDirs hremoved.dirs

/-- No call removes a directory. -/
theorem dirAt_call {cwd path : String} (h : desk.machine.files.DirAt cwd path place)
    (call : Log.Call) : (desk.call call).2.machine.files.DirAt cwd path place := by
  -- by what a call may do: nothing, a record, making room in vain, or opening a log
  cases effect_call desk call with
  | quiet now _ hmachine =>
    rw [hmachine]
    exact h
  | written _ _ happend hmachine =>
    obtain ⟨_, -, hdirs, -⟩ := FileTree.modify_eq_ok happend
    rw [hmachine]
    exact h.of_sameDirs hdirs
  | failed _ _ hmachine =>
    rw [hmachine]
    dsimp only
    exact dirAt_makeRoom h
  | opened _ _ _ _ hwrite hmachine =>
    obtain ⟨_, -, hdirs, -⟩ := FileTree.modify_eq_ok hwrite
    rw [hmachine]
    exact (dirAt_makeRoom h).of_sameDirs hdirs

/-- No call changes the environment or the working directory. -/
theorem setting_call (desk : Desk) (call : Log.Call) :
    (desk.call call).2.machine.env = desk.machine.env ∧
      (desk.call call).2.machine.cwd = desk.machine.cwd := by
  cases effect_call desk call with
  | quiet now _ hmachine =>
    rw [hmachine]
    exact ⟨rfl, rfl⟩
  | written _ _ _ hmachine =>
    rw [hmachine]
    exact ⟨rfl, rfl⟩
  | failed _ _ hmachine =>
    rw [hmachine]
    exact ⟨rfl, rfl⟩
  | opened _ _ _ _ _ hmachine =>
    rw [hmachine]
    exact ⟨rfl, rfl⟩

theorem log_call (desk : Desk) (call : Log.Call) :
    Directories.log (desk.call call).2.machine = Directories.log desk.machine :=
  Directories.log_congr (setting_call desk call).1

/-! ### The open log -/

/-- The directory of the log files is at a place. -/
def LogDirAt (desk : Desk) (dir : Place) : Prop :=
  desk.machine.files.DirAt desk.machine.cwd (Directories.log desk.machine) dir

theorem LogDirAt.call (h : desk.LogDirAt dir) (call : Log.Call) :
    (desk.call call).2.LogDirAt dir := by
  unfold LogDirAt
  rw [log_call, (setting_call desk call).2]
  exact dirAt_call h call

/-- The log of a name is open in the directory of the log files. -/
structure OpenIn (desk : Desk) (dir : Place) (name : String) : Prop where
  /-- Its path is that of the open log. -/
  opened : desk.log.opened = some (Path.child (Directories.log desk.machine) name)
  /-- Its name is that of a file. -/
  isName : IsName name
  /-- The directory is at this place. -/
  dirAt : desk.LogDirAt dir
  /-- The path leads into it. -/
  located : desk.machine.files.locate desk.machine.cwd
    (Path.child (Directories.log desk.machine) name) = .ok (dir ++ [name])
  /-- A file is there. -/
  content : (desk.machine.files.content? (dir ++ [name])).isSome = true

/-- What is appended to the open log stands at its end, and no other file is changed. -/
theorem OpenIn.append (h : desk.OpenIn dir name) {path : String} {bytes : Text.Utf8.Bytes}
    {files : FileTree} (hopened : desk.log.opened = some path)
    (happend : desk.machine.files.append desk.machine.cwd path bytes = .ok files) :
    SameDirs desk.machine.files files ∧ ∀ place, files.content? place =
      if place = dir ++ [name] then
        some ((desk.machine.files.content? (dir ++ [name])).getD [] ++ bytes)
      else desk.machine.files.content? place := by
  obtain rfl := Option.some.inj (h.opened.symm.trans hopened)
  obtain ⟨place, mode, changed, hlocate, hdirs, hentry⟩ := FileTree.modify_ok happend
  rw [FileTree.locateFile_of_bare (Directories.bare_child_log h.isName desk.machine), h.located]
    at hlocate
  obtain rfl := Except.ok.inj hlocate
  refine ⟨hdirs, fun other => ?_⟩
  rw [FileTree.content?, hentry]
  split_ifs with hother
  · rfl
  · rfl

/-- A log stays open while its file is there. -/
theorem OpenIn.of_sameDirs (h : desk.OpenIn dir name) (hopened : after.log.opened = desk.log.opened)
    (hlog : Directories.log after.machine = Directories.log desk.machine)
    (hcwd : after.machine.cwd = desk.machine.cwd)
    (hdirs : SameDirs desk.machine.files after.machine.files)
    (hcontent : (after.machine.files.content? (dir ++ [name])).isSome = true) :
    after.OpenIn dir name where
  opened := by rw [hopened, hlog, h.opened]
  isName := h.isName
  dirAt := by
    unfold LogDirAt
    rw [hlog, hcwd]
    exact h.dirAt.of_sameDirs hdirs
  located := by
    rw [hlog, hcwd]
    exact hdirs.locate_of_ok h.located
  content := hcontent

/-- If a log is open, then in the directory of the log files. -/
def OpenWell (desk : Desk) : Prop := desk.log.opened = none ∨ ∃ dir name, desk.OpenIn dir name

/-- The directory of the log files is there when room was made. -/
theorem dirAt_of_makeRoom (h : desk.makeRoom.1 = .ok ()) :
    ∃ dir, desk.makeRoom.2.machine.files.DirAt desk.machine.cwd (Directories.log desk.machine)
      dir := by
  unfold makeRoom at h ⊢
  split at h
  · cases h
  next made hmade =>
    obtain ⟨-, dir, hdir⟩ := makeDirs_log hmade
    obtain ⟨gone, files, heq, hremoved⟩ :=
      rotate_removed (desk.withFiles made) (Directories.log desk.machine)
    rw [heq]
    exact ⟨dir, hdir.of_sameDirs hremoved.dirs⟩

/-- A log that is opened is open in the directory of the log files, and empty. -/
theorem openIn_of_opened {files : FileTree} {dev : Bool}
    (hdir : desk.makeRoom.2.machine.files.DirAt desk.machine.cwd (Directories.log desk.machine) dir)
    (hname : desk.logFileName dev = .ok name)
    (hwrite : desk.makeRoom.2.machine.files.write desk.machine.cwd
      (Path.child (Directories.log desk.machine) name) [] = .ok files)
    (hmachine : after.machine = { desk.machine with files })
    (hopened : after.log.opened = some (Path.child (Directories.log desk.machine) name)) :
    after.OpenIn dir name := by
  have hisName := isName_of_logFileName hname
  obtain ⟨hlocate, hdirs, mode, changed, hentry⟩ := hdir.write_log hisName hwrite
  -- the directory of the logs depends on the variables only, not on the files
  have hlog : Directories.log after.machine = Directories.log desk.machine := by
    rw [hmachine]
    exact Directories.log_congr rfl
  refine ⟨by rw [hopened, hlog], hisName, ?_, ?_, ?_⟩
  · unfold LogDirAt
    rw [hlog, hmachine]
    exact hdir.of_sameDirs hdirs
  · rw [hlog, hmachine]
    exact hdirs.locate_of_ok hlocate
  · rw [hmachine, FileTree.content?, hentry, if_pos rfl]
    rfl

/-- A log is only opened in the directory of the log files. -/
theorem openWell_call (h : desk.OpenWell) (call : Log.Call) : (desk.call call).2.OpenWell := by
  have hlog := log_call desk call
  have hcwd := (setting_call desk call).2
  cases effect_call desk call with
  | quiet now _ hmachine hopened =>
    -- the log stays as it is, or it is closed
    rcases hopened with hopened | hopened
    · rcases h with hclosed | ⟨dir, name, hopen⟩
      · exact .inl (hopened.trans hclosed)
      · refine .inr ⟨dir, name, hopen.of_sameDirs hopened hlog hcwd ?_ ?_⟩
        · rw [hmachine]
          exact .refl _
        · rw [hmachine]
          exact hopen.content
    · exact .inl hopened
  | written _ hopen happend hmachine hopened =>
    rcases h with hclosed | ⟨dir, name, hin⟩
    · rw [hclosed] at hopen
      cases hopen
    · obtain ⟨hdirs, hcontent⟩ := hin.append hopen happend
      refine .inr ⟨dir, name, hin.of_sameDirs hopened hlog hcwd ?_ ?_⟩
      · rw [hmachine]
        exact hdirs
      · rw [hmachine, hcontent, if_pos rfl]
        rfl
  | failed _ _ _ hopened => exact .inl hopened
  | opened _ _ hroom hname hwrite hmachine hopened =>
    obtain ⟨dir, hdir⟩ := dirAt_of_makeRoom hroom
    exact .inr ⟨dir, _, openIn_of_opened hdir hname hwrite hmachine hopened⟩

/-- In a run that starts without a log, a log is only opened in the directory of the log files. -/
theorem openWell_run (h : desk.OpenWell) (calls : List Log.Call) : (desk.run calls).OpenWell := by
  induction calls generalizing desk with
  | nil => exact h
  | cons call rest ih => exact ih (openWell_call h call)

/-! ### What can happen to a file -/

/-- The file at a place is removed to make room for another log. -/
def Drops (desk : Desk) (call : Log.Call) (place : Place) : Prop :=
  call.opensLog ≠ none ∧ desk.makeRoom.2.machine.files.entry? place = none

/-- A log is opened that is named for the moment, and its name is this one. -/
def Reopens (desk : Desk) (call : Log.Call) (name : String) : Prop :=
  call.opensLog = some false ∧ Log.stampName desk.machine.now = name ∧ (desk.call call).1 = .ok ()

/-- A call that is to open a log and ends well opens one. -/
theorem exists_opened {call : Log.Call} {dev : Bool} (hopens : call.opensLog = some dev)
    (hresult : (desk.call call).1 = .ok ()) :
    ∃ name files, desk.logFileName dev = .ok name ∧
      desk.makeRoom.2.machine.files.write desk.machine.cwd
          (Path.child (Directories.log desk.machine) name) [] = .ok files ∧
        (desk.call call).2.machine = { desk.machine with files } := by
  -- of the four effects only one opens a log and ends well
  cases effect_call desk call with
  | quiet now hquiet =>
    rw [hquiet] at hopens
    cases hopens
  | written hquiet =>
    rw [hquiet] at hopens
    cases hopens
  | failed _ hfails =>
    rw [hfails] at hresult
    cases hresult
  | opened hopened _ _ hname hwrite hmachine =>
    obtain rfl := Option.some.inj (hopened.symm.trans hopens)
    exact ⟨_, _, hname, hwrite, hmachine⟩

/-- A file that is named for a moment is opened again in the second of this moment. -/
theorem reopens_stampName_iff {moment : Clock.Millis} {call : Log.Call}
    (h : Clock.isWritable (Clock.year moment) = true) :
    desk.Reopens call (Log.stampName moment) ↔
      call.opensLog = some false ∧ desk.machine.now.fdiv 1000 = moment.fdiv 1000 ∧
        (desk.call call).1 = .ok () := by
  refine and_congr_right fun hopens => and_congr_left fun hresult => Log.stampName_eq_iff ?_ h
  obtain ⟨name, _, hname, -, -⟩ := exists_opened hopens hresult
  obtain ⟨⟨⟩, -⟩ | ⟨-, hyear, -⟩ := logFileName_eq_ok_iff.1 hname
  exact hyear

/-- What is not removed to make room stays as it is. -/
theorem content_makeRoom {content : Text.Utf8.Bytes}
    (hcontent : desk.machine.files.content? place = some content)
    (hkept : desk.makeRoom.2.machine.files.entry? place ≠ none) :
    desk.makeRoom.2.machine.files.content? place = some content := by
  obtain ⟨made, gone, files, heq, hextends, hremoved⟩ := makeRoom_changes desk
  rw [heq, files_withFiles] at hkept ⊢
  unfold FileTree.content? at hcontent ⊢
  obtain ⟨entry, hentry, hbytes⟩ := Option.bind_eq_some_iff.1 hcontent
  rw [hremoved.entry?] at hkept ⊢
  split_ifs at hkept ⊢ with hgone
  · exact absurd rfl hkept
  · rw [hextends.kept place entry hentry]
    exact hbytes

/-- A log that is opened again is empty. -/
theorem content_of_reopens (hdir : desk.LogDirAt dir) {call : Log.Call}
    (h : desk.Reopens call name) :
    (desk.call call).2.machine.files.content? (dir ++ [name]) = some [] := by
  obtain ⟨hopens, hstamp, hresult⟩ := h
  obtain ⟨opened, files, hname, hwrite, hmachine⟩ := exists_opened hopens hresult
  obtain ⟨-, -, mode, changed, hentry⟩ :=
    (dirAt_makeRoom hdir).write_log (isName_of_logFileName hname) hwrite
  obtain ⟨⟨⟩, -⟩ | ⟨-, -, rfl⟩ := logFileName_eq_ok_iff.1 hname
  rw [hmachine, FileTree.content?, hentry, hstamp, if_pos rfl]
  rfl

/-- A log file that is neither removed nor opened again only grows. -/
theorem content_call (hwell : desk.OpenWell) (hdir : desk.LogDirAt dir)
    (hstamped : Log.isStampedName name = true) {content : Text.Utf8.Bytes}
    (hcontent : desk.machine.files.content? (dir ++ [name]) = some content) {call : Log.Call}
    (hkept : ¬ desk.Drops call (dir ++ [name])) (hclosed : ¬ desk.Reopens call name) :
    ∃ more, (desk.call call).2.machine.files.content? (dir ++ [name]) = some (content ++ more) := by
  cases effect_call desk call with
  | quiet now _ hmachine =>
    refine ⟨[], ?_⟩
    rw [hmachine, List.append_nil]
    exact hcontent
  | @written path bytes files _ hopen happend hmachine =>
    obtain hnone | ⟨other, opened, hin⟩ := hwell
    · rw [hnone] at hopen
      cases hopen
    · obtain ⟨-, hfiles⟩ := hin.append hopen happend
      rw [hmachine, hfiles]
      split_ifs with hplace
      · rw [← hplace, hcontent]
        exact ⟨bytes, rfl⟩
      · exact ⟨[], by rw [List.append_nil, hcontent]⟩
  | failed hopens _ hmachine =>
    have hstays := content_makeRoom hcontent fun hnone => hkept ⟨by rw [hopens]; nofun, hnone⟩
    refine ⟨[], ?_⟩
    rw [hmachine, List.append_nil]
    dsimp only
    exact hstays
  | @opened dev opened files hopens hresult _ hname hwrite hmachine =>
    have hstays := content_makeRoom hcontent fun hnone => hkept ⟨by rw [hopens]; nofun, hnone⟩
    obtain ⟨-, -, mode, changed, hentry⟩ :=
      (dirAt_makeRoom hdir).write_log (isName_of_logFileName hname) hwrite
    -- the log that is opened is another one
    have hother : dir ++ [name] ≠ dir ++ [opened] := by
      intro heq
      obtain rfl : name = opened := List.singleton_injective (List.append_cancel_left heq)
      rw [isStampedName_of_logFileName hname] at hstamped
      obtain ⟨hdev, -⟩ | ⟨hdev, -, hstamp⟩ := logFileName_eq_ok_iff.1 hname
      · rw [hdev] at hstamped
        cases hstamped
      · exact hclosed ⟨hdev ▸ hopens, hstamp.symm, hresult⟩
    refine ⟨[], ?_⟩
    rw [hmachine, List.append_nil, FileTree.content?, hentry, if_neg hother]
    exact hstays

/-! ### Records -/

/-- The record that a call writes. -/
def record (desk : Desk) (logger : Log.Logger) (level : Log.Level) (message : Log.Value)
    (extra : Log.Fields) : Log.Record :=
  ⟨desk.machine.now, desk.machine.now - desk.log.last, level, message, logger.tags, extra⟩

/-- A line is written at the end of the open log. -/
theorem files_writeLine {path : String} {line : List Char} {files : FileTree}
    (hfile : desk.log.file = true) (hopened : desk.log.opened = some path)
    (happend : desk.machine.files.append desk.machine.cwd path (Text.Utf8.encodeChars line) =
      .ok files) : (desk.writeLine line).machine.files = files := by
  unfold writeLine
  cases hconsole : desk.log.console with
  | true => simp only [if_true, hfile, hopened, happend]
  | false => simp only [Bool.false_eq_true, if_false, hfile, hopened, happend]

/-- A record that is not below the least severity is written at the end of the open log. -/
theorem OpenIn.emit (h : desk.OpenIn dir name) (hfile : desk.log.file = true) {level : Log.Level}
    (hlevel : level.passes desk.log.level = true) (hyear : desk.checkYear = .ok ())
    (logger : Log.Logger) (message : Log.Value) (extra : Log.Fields) :
    ∃ content, (desk.call (.emit logger level message extra)).2.machine.files.content?
        (dir ++ [name]) =
      some (content ++ Text.Utf8.encodeChars
        ((desk.record logger level message extra).line desk.log.format)) := by
  obtain ⟨content, hcontent⟩ := Option.isSome_iff_exists.1 h.content
  have hlocate : desk.machine.files.locateFile desk.machine.cwd
      (Path.child (Directories.log desk.machine) name) = .ok (dir ++ [name]) := by
    rw [FileTree.locateFile_of_bare (Directories.bare_child_log h.isName desk.machine), h.located]
  -- the open file is there, so the line can be appended to it
  obtain ⟨files, happend⟩ := FileTree.exists_modify_eq_ok hlocate hcontent
    (· ++ Text.Utf8.encodeChars ((desk.record logger level message extra).line desk.log.format))
  have hfiles : (desk.call (.emit logger level message extra)).2.machine.files = files := by
    have hdated : checkYear { desk with log.last := desk.machine.now } = .ok () := hyear
    unfold Desk.call Desk.emit
    simp only [hlevel, Bool.not_true, Bool.false_eq_true, if_false, hdated]
    exact files_writeLine hfile h.opened happend
  refine ⟨content, ?_⟩
  rw [hfiles, (h.append h.opened happend).2, if_pos rfl, hcontent]
  rfl

theorem line_ne_nil (record : Log.Record) (format : Log.Format) : record.line format ≠ [] := by
  cases format <;> simp [Log.Record.line]

theorem encodeChars_ne_nil {cs : List Char} (h : cs ≠ []) : Text.Utf8.encodeChars cs ≠ [] := by
  obtain ⟨c, rest, rfl⟩ := List.exists_cons_of_ne_nil h
  rw [Text.Utf8.encodeChars, List.flatMap_cons]
  exact List.append_ne_nil_of_left_ne_nil (Text.Utf8.encodeChar_ne_nil c) _

/-! ### Runs -/

/-- The file at a place has these bytes in it. -/
def Holds (desk : Desk) (place : Place) (bytes : Text.Utf8.Bytes) : Prop :=
  ∃ content, desk.machine.files.content? place = some content ∧ bytes <:+: content

/-- The file at a place has these bytes in it before the calls and after each of them. -/
def HoldsThrough (place : Place) (bytes : Text.Utf8.Bytes) : Desk → List Log.Call → Prop
  | desk, [] => desk.Holds place bytes
  | desk, call :: rest => desk.Holds place bytes ∧ HoldsThrough place bytes (desk.call call).2 rest

/-- The file at a place is never removed to make room for another log. -/
def KeepsThrough (place : Place) : Desk → List Log.Call → Prop
  | _, [] => True
  | desk, call :: rest => ¬ desk.Drops call place ∧ KeepsThrough place (desk.call call).2 rest

/-- At some time a log of this name is opened that is named for the moment. -/
def ReopensIn (name : String) : Desk → List Log.Call → Prop
  | _, [] => False
  | desk, call :: rest => desk.Reopens call name ∨ ReopensIn name (desk.call call).2 rest

theorem HoldsThrough.holds {bytes : Text.Utf8.Bytes} {calls : List Log.Call}
    (h : HoldsThrough place bytes desk calls) : desk.Holds place bytes := by
  cases calls with
  | nil => exact h
  | cons call rest => exact h.1

/-- What is in a log file stays there exactly until the file is opened again. -/
theorem holdsThrough_iff (hwell : desk.OpenWell) (hdir : desk.LogDirAt dir)
    (hstamped : Log.isStampedName name = true) {bytes : Text.Utf8.Bytes} (hbytes : bytes ≠ [])
    (hholds : desk.Holds (dir ++ [name]) bytes) {calls : List Log.Call}
    (hkept : KeepsThrough (dir ++ [name]) desk calls) :
    HoldsThrough (dir ++ [name]) bytes desk calls ↔ ¬ ReopensIn name desk calls := by
  -- call by call: a call that opens the file anew empties it, any other one leaves what it holds
  induction calls generalizing desk with
  | nil => exact iff_of_true hholds id
  | cons call rest ih =>
    obtain ⟨hkeeps, hrest⟩ := hkept
    by_cases hreopens : desk.Reopens call name
    · -- the file is empty after the call
      refine iff_of_false ?_ (not_not_intro (.inl hreopens))
      rintro ⟨-, hthrough⟩
      obtain ⟨content, hcontent, hinfix⟩ := hthrough.holds
      rw [content_of_reopens hdir hreopens] at hcontent
      obtain rfl := Option.some.inj hcontent
      exact hbytes (List.infix_nil.1 hinfix)
    · obtain ⟨content, hcontent, hinfix⟩ := hholds
      obtain ⟨more, hmore⟩ := content_call hwell hdir hstamped hcontent hkeeps hreopens
      have hafter := ih (openWell_call hwell call) (hdir.call call)
        ⟨content ++ more, hmore, hinfix.trans (List.prefix_append content more).isInfix⟩ hrest
      rw [HoldsThrough, ReopensIn, not_or, hafter]
      exact and_congr (iff_of_true ⟨content, hcontent, hinfix⟩ hreopens) Iff.rfl

/-- A record that is written to a stamped log file is in this file, and stays there while the file
is not removed to make room for others, exactly until the sinks are set up again in the second that
the file is named for: then the file is opened anew, and all that was in it is lost. -/
theorem record_kept_iff {start : Desk} (hclosed : start.log.opened = none)
    (earlier later : List Log.Call) (hopen : (start.run earlier).OpenIn dir name)
    (hstamped : Log.isStampedName name = true) (hfile : (start.run earlier).log.file = true)
    (logger : Log.Logger) {level : Log.Level} (message : Log.Value) (extra : Log.Fields)
    (hlevel : level.passes (start.run earlier).log.level = true)
    (hyear : (start.run earlier).checkYear = .ok ())
    (hkept : KeepsThrough (dir ++ [name])
      (start.run (earlier ++ [.emit logger level message extra])) later) :
    HoldsThrough (dir ++ [name])
        (Text.Utf8.encodeChars (((start.run earlier).record logger level message extra).line
          (start.run earlier).log.format))
        (start.run (earlier ++ [.emit logger level message extra])) later ↔
      ¬ ReopensIn name (start.run (earlier ++ [.emit logger level message extra])) later := by
  have hwell : (start.run earlier).OpenWell := openWell_run (.inl hclosed) earlier
  rw [run_append] at hkept ⊢
  obtain ⟨content, hcontent⟩ := hopen.emit hfile hlevel hyear logger message extra
  refine holdsThrough_iff (openWell_call hwell _) (hopen.dirAt.call _) hstamped
    (encodeChars_ne_nil (line_ne_nil _ _)) ⟨_, hcontent, ?_⟩ hkept
  exact (List.suffix_append content _).isInfix

/-- To set up the sinks so that a file is written. -/
def setUp : Log.Call := .configure none none none none false

/-- To write a record. -/
def note : Log.Call := .emit default .info default []

/-- The directory of the log files of `withTwoLogs`. -/
def logDir : Place := ["d", "julials", "log"]

/-- The name of the log file that is opened in it. -/
def logName : String := "1970-01-01T000100.log"

/-- A record is lost when the sinks are set up again before the second is over. -/
theorem record_lost_withTwoLogs :
    withTwoLogs.log.opened = none ∧ (withTwoLogs.run [setUp]).OpenIn logDir logName ∧
      Log.isStampedName logName = true ∧ (withTwoLogs.run [setUp]).log.file = true ∧
      Log.Level.info.passes (withTwoLogs.run [setUp]).log.level = true ∧
      (withTwoLogs.run [setUp]).checkYear = .ok () ∧
      KeepsThrough (logDir ++ [logName]) (withTwoLogs.run ([setUp] ++ [note])) [setUp] ∧
      ReopensIn logName (withTwoLogs.run ([setUp] ++ [note])) [setUp] ∧
      ¬ HoldsThrough (logDir ++ [logName])
        (Text.Utf8.encodeChars (((withTwoLogs.run [setUp]).record default .info default []).line
          (withTwoLogs.run [setUp]).log.format))
        (withTwoLogs.run ([setUp] ++ [note])) [setUp] := by
  obtain ⟨hopened, hlocate, hdir, hisDir, hcontent, hfile, hlevel, hyear, hkept, hstamp, hresult⟩ :
      (withTwoLogs.run [setUp]).log.opened = some (Path.child
          (Directories.log (withTwoLogs.run [setUp]).machine) logName) ∧
        (withTwoLogs.run [setUp]).machine.files.locate (withTwoLogs.run [setUp]).machine.cwd
            (Path.child (Directories.log (withTwoLogs.run [setUp]).machine) logName) =
          .ok (logDir ++ [logName]) ∧
        (withTwoLogs.run [setUp]).machine.files.locate (withTwoLogs.run [setUp]).machine.cwd
            (Directories.log (withTwoLogs.run [setUp]).machine) = .ok logDir ∧
        ((withTwoLogs.run [setUp]).machine.files.entry? logDir).any Entry.isDir = true ∧
        ((withTwoLogs.run [setUp]).machine.files.content? (logDir ++ [logName])).isSome = true ∧
        (withTwoLogs.run [setUp]).log.file = true ∧
        Log.Level.info.passes (withTwoLogs.run [setUp]).log.level = true ∧
        (withTwoLogs.run [setUp]).checkYear = .ok () ∧
        (withTwoLogs.run ([setUp] ++ [note])).makeRoom.2.machine.files.entry?
          (logDir ++ [logName]) ≠ none ∧
        Log.stampName (withTwoLogs.run ([setUp] ++ [note])).machine.now = logName ∧
        ((withTwoLogs.run ([setUp] ++ [note])).call setUp).1 = .ok () := by
    decide +kernel
  have hclosed : withTwoLogs.log.opened = none := rfl
  have hopen : (withTwoLogs.run [setUp]).OpenIn logDir logName :=
    ⟨hopened, by decide, ⟨hdir, hisDir⟩, hlocate, hcontent⟩
  have hstamped : Log.isStampedName logName = true := by decide
  have hkeeps : KeepsThrough (logDir ++ [logName]) (withTwoLogs.run ([setUp] ++ [note])) [setUp] :=
    ⟨fun hdrops => hkept hdrops.2, trivial⟩
  have hreopens : ReopensIn logName (withTwoLogs.run ([setUp] ++ [note])) [setUp] :=
    .inl ⟨rfl, hstamp, hresult⟩
  refine ⟨hclosed, hopen, hstamped, hfile, hlevel, hyear, hkeeps, hreopens, fun hholds => ?_⟩
  exact (record_kept_iff hclosed [setUp] [setUp] hopen hstamped hfile default default [] hlevel
    hyear hkeeps).1 hholds hreopens

end Desk

end JuliaSession
