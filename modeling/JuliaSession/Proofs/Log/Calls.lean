import Mathlib.Data.List.Perm.Subperm
import JuliaSession.Proofs.Log.Rotation

/-!
# Runs of logging

Setting up the sinks closes the log and opens a new one: room is made for it, and then the file is
there and empty, whatever it was before. If something fails on the way, no log is open, and only
what was removed to make room is gone.

The program sets up the sinks, writes records and lets time pass, in any order and as often as it
likes. `Log.Call` is one of these calls and `Desk.run` what a list of them does, failures included.

* `Desk.openLog_cases`: a log is opened, or nothing happens after making room.
* `FileTree.Rotated`: what is in the directory of the log files when one was opened.
* `Desk.openLog_rotated`: opening a log rotates the others.
* `Desk.emit_changes`: a record changes the open log and no other file.
* `Desk.Effect`: what a call can do to the files and to the log (`Desk.effect_call`).
* `Desk.sound_run`: a run keeps the tree of files sound.
* `Desk.run_configureLog`: whatever was called before, setting up the sinks keeps the newest log
  files, and there are never more than `Log.keptFiles` of them afterwards.
-/

namespace JuliaSession

namespace FileTree

variable {tree before after : FileTree} {dir : Place}

/-! ### The directory when a log was opened -/

/-- A log file was opened in a directory, and of the stamped files only the newest were kept. -/
structure Rotated (before after : FileTree) (dir : Place) (opened : String)
    (kept gone : List String) : Prop extends before.SplitByAge dir kept gone where
  /-- The stamped names that are left are those kept and that of the new file, if it is one. -/
  left : ∀ name, name ∈ after.stampedNames dir ↔
    name ∈ kept ∨ name = opened ∧ Log.isStampedName opened = true
  /-- The new file is there and empty. -/
  empty : after.content? (dir ++ [opened]) = some []
  /-- All else is as it was. -/
  others : ∀ place, place ≠ dir ++ [opened] → (∀ name ∈ gone, place ≠ dir ++ [name]) →
    after.entry? place = before.entry? place

/-- What is kept is what is not gone. -/
theorem SplitByAge.mem_kept_iff {kept gone : List String} (h : tree.SplitByAge dir kept gone)
    (hsound : tree.Sound) {name : String} :
    name ∈ kept ↔ name ∈ tree.stampedNames dir ∧ name ∉ gone := by
  have hnodup := h.names.nodup_iff.2 ((hsound.nodup_names dir).filter _)
  rw [← h.names.mem_iff, List.mem_append]
  constructor
  · exact fun hkept => ⟨.inl hkept, fun hgone => List.disjoint_of_nodup_append hnodup hkept hgone⟩
  · rintro ⟨hmem, hgone⟩
    exact hmem.resolve_right hgone

theorem mem_stampedNames_iff {name : String} :
    name ∈ tree.stampedNames dir ↔
      (tree.entry? (dir ++ [name])).isSome = true ∧ Log.isStampedName name = true := by
  rw [stampedNames, List.mem_filter, mem_names_iff]

/-- A file is opened where the files that were not kept are gone. -/
theorem SplitByAge.rotated {room : FileTree} {opened : String} {kept gone : List String}
    {mode : Nat} {changed : Int} (h : before.SplitByAge dir kept gone) (hsound : before.Sound)
    (hremoved : Removed before room (gone.map fun name => dir ++ [name]))
    (hentry : ∀ place, after.entry? place =
      if place = dir ++ [opened] then some (.file [] mode changed) else room.entry? place) :
    Rotated before after dir opened kept gone where
  toSplitByAge := h
  left name := by
    rw [h.mem_kept_iff hsound, mem_stampedNames_iff, mem_stampedNames_iff, hentry]
    -- the new file is there whether or not a file of its name was among those that had to go
    by_cases hopened : name = opened
    · rw [if_pos (by rw [hopened]), ← hopened]
      exact ⟨fun hname => .inr ⟨rfl, hname.2⟩,
        fun hname => ⟨rfl, hname.elim (fun hkept => hkept.1.2) And.right⟩⟩
    · rw [if_neg (fun heq => hopened (List.singleton_injective (List.append_cancel_left heq))),
        hremoved.entry?]
      have hgone : dir ++ [name] ∈ gone.map (fun name => dir ++ [name]) ↔ name ∈ gone :=
        List.mem_map_of_injective fun first second heq =>
          List.singleton_injective (List.append_cancel_left heq)
      by_cases hname : name ∈ gone
      · simp [hgone.2 hname, hname, hopened]
      · simp [mt hgone.1 hname, hname, hopened]
  empty := by
    rw [content?, hentry, if_pos rfl]
    rfl
  others place hplace hgone := by
    rw [hentry, if_neg hplace, hremoved.entry?, if_neg]
    intro hmem
    obtain ⟨name, hname, heq⟩ := List.mem_map.1 hmem
    exact hgone name hname heq.symm

/-- At most one stamped file more than the newest is left. -/
theorem Rotated.length_le {opened : String} {kept gone : List String}
    (h : Rotated before after dir opened kept gone) (hsound : after.Sound) :
    (after.stampedNames dir).length ≤ Log.keptFiles := by
  have hsubset : after.stampedNames dir ⊆ opened :: kept := by
    intro name hname
    rcases (h.left name).1 hname with hkept | ⟨rfl, -⟩
    · exact List.mem_cons_of_mem _ hkept
    · exact List.mem_cons_self
  calc
    (after.stampedNames dir).length ≤ (opened :: kept).length :=
      (List.subperm_of_subset ((hsound.nodup_names dir).filter _) hsubset).length_le
    _ ≤ Log.keptFiles := by
      rw [List.length_cons, h.room]
      unfold Log.keptFiles
      omega

end FileTree

namespace Desk

open FileTree (DirAt Extends Removed Rotated SplitByAge)

variable {desk after : Desk} {dev : Bool}

/-! ### Opening -/

/-- A file that cannot be opened stays as it is. -/
theorem openFile_eq (desk : Desk) (path : String) :
    desk.openFile path =
      match desk.machine.files.write desk.machine.cwd path [] with
      | .error fault => (.error (.os fault), { desk with log.path := some path })
      | .ok files =>
        (.ok (), { desk.withFiles files with
          log.path := some path, log.opened := some path }) := rfl

/-- The name of the file to open does not depend on the files. -/
theorem logFileName_withFiles (desk : Desk) (files : FileTree) (dev : Bool) :
    (desk.withFiles files).logFileName dev = desk.logFileName dev := by
  unfold logFileName checkYear
  rw [now_withFiles]

/-- A log is opened after room was made for it, or nothing more happens. -/
theorem openLog_cases (desk : Desk) (dev : Bool) :
    (∃ failure path,
        desk.openLog dev = (.error failure, { desk.makeRoom.2 with log.path := path })) ∨
      ∃ room name files, desk.makeRoom = (.ok (), room) ∧ room.logFileName dev = .ok name ∧
        room.machine.files.write room.machine.cwd
            (Path.child (Directories.log desk.machine) name) [] = .ok files ∧
          desk.openLog dev = (.ok (), { room.withFiles files with
            log.path := some (Path.child (Directories.log desk.machine) name),
            log.opened := some (Path.child (Directories.log desk.machine) name) }) := by
  rw [openLog_eq]
  obtain ⟨result, room⟩ := desk.makeRoom
  cases result with
  | error failure => exact .inl ⟨failure, room.log.path, rfl⟩
  | ok _ =>
    dsimp only
    cases hname : room.logFileName dev with
    | error failure => exact .inl ⟨failure, room.log.path, rfl⟩
    | ok name =>
      dsimp only
      rw [openFile_eq]
      cases hwrite : room.machine.files.write room.machine.cwd
          (Path.child (Directories.log desk.machine) name) [] with
      | error fault => exact .inl ⟨.os fault, _, rfl⟩
      | ok files => exact .inr ⟨room, name, files, rfl, hname, hwrite, rfl⟩

/-- The sinks are set up by closing the log and opening another if a file is to be written. -/
theorem configureLog_eq (desk : Desk) (level : Option Log.Level) (format : Option Log.Format)
    (console file : Option Bool) (dev : Bool) :
    ∃ log : Log.State, log.opened = none ∧ log.file = file.getD true ∧
      desk.configureLog level format console file dev =
        if file.getD true then ({ desk with log } : Desk).openLog dev
        else (.ok (), { desk with log := { log with path := none } }) :=
  ⟨_, rfl, rfl, rfl⟩

/-- A log file was opened in its directory, which was made if it was not there. -/
structure LogOpened (before after : Desk) (made : FileTree) (place : Place) (name : String)
    (kept gone : List String) : Prop where
  /-- The directory was made. -/
  makes : before.machine.files.makeDirs before.machine.cwd (Directories.log before.machine) =
    .ok made
  /-- That changed nothing that was there. -/
  keeps : Extends before.machine.files made
  /-- It changed nothing at all if the directory was there. -/
  same : ∀ place, before.machine.files.DirAt before.machine.cwd (Directories.log before.machine)
    place → made = before.machine.files
  /-- The directory is at this place. -/
  dir : made.DirAt before.machine.cwd (Directories.log before.machine) place
  /-- The log of this name is open in it. -/
  opened : after.log.opened = some (Path.child (Directories.log before.machine) name)
  /-- The logs that were there are rotated. -/
  rotated : Rotated made after.machine.files place name kept gone

/-- Opening a log rotates the others. -/
theorem openLog_rotated (hsound : desk.machine.files.Sound)
    (h : desk.openLog dev = (.ok (), after)) :
    after.machine.files.Sound ∧ ∃ made place name kept gone,
      desk.logFileName dev = .ok name ∧ desk.LogOpened after made place name kept gone := by
  rcases openLog_cases desk dev with
    ⟨failure, path, hfails⟩ | ⟨room, name, files, hroom, hname, hwrite, hok⟩
  · rw [hfails] at h
    cases h
  · rw [hok] at h
    cases h
    obtain ⟨made, place, kept, gone, rest, hmade, hextends, hdir, hsplit, rfl, hremoved⟩ :=
      makeRoom_ok hsound hroom
    rw [logFileName_withFiles] at hname
    rw [files_withFiles, cwd_withFiles] at hwrite
    have hmadeSound := hextends.sound hsound
    obtain ⟨-, -, mode, changed, hentry⟩ :=
      (hdir.of_sameDirs hremoved.dirs).write_log (isName_of_logFileName hname) hwrite
    -- where the directory was there already, nothing is made
    have hsame (place : Place) (hthere : desk.machine.files.DirAt desk.machine.cwd
        (Directories.log desk.machine) place) : made = desk.machine.files := by
      rw [← Directories.tidy_log] at hthere
      rw [FileTree.makeDirs_of_dirAt (by
        rw [Directories.tidy_log]
        exact Directories.bare_log _) hthere] at hmade
      exact (Except.ok.inj hmade).symm
    exact ⟨(hremoved.sound hmadeSound).modify hwrite, made, place, name, kept, gone, hname,
      hmade, hextends, hsame, hdir, rfl, hsplit.rotated hmadeSound hremoved hentry⟩

end Desk

/-! ### Calls -/

/-- What is asked of logging. -/
inductive Log.Call where
  /-- To set up the sinks. -/
  | configure (level : Option Level) (format : Option Format) (console file : Option Bool)
      (dev : Bool)
  /-- To write a record. -/
  | emit (logger : Logger) (level : Level) (message : Value) (extra : Fields)
  /-- To close the log file. -/
  | close
  /-- Nothing, while time passes. -/
  | wait (millis : Nat)

/-- If a call is to open a log file: is it the one for development? -/
def Log.Call.opensLog : Call → Option Bool
  | .configure _ _ _ file dev => if file.getD true then some dev else none
  | _ => none

namespace Desk

variable {desk after : Desk}

/-- Do what is asked. -/
def call (desk : Desk) : Log.Call → Except Failure Unit × Desk
  | .configure level format console file dev => desk.configureLog level format console file dev
  | .emit logger level message extra => desk.emit logger level message extra
  | .close => (.ok (), desk.closeLog)
  | .wait millis => (.ok (), { desk with machine.now := desk.machine.now + millis })

/-- Do what is asked, one call after the other, whether they fail or not. -/
def run (desk : Desk) (calls : List Log.Call) : Desk :=
  calls.foldl (fun desk call => (desk.call call).2) desk

theorem run_append (desk : Desk) (calls more : List Log.Call) :
    desk.run (calls ++ more) = (desk.run calls).run more := List.foldl_append

/-! ### Records -/

/-- A line is written to the open log, if it can be. -/
theorem writeLine_changes (desk : Desk) (line : List Char) :
    ∃ files stderr, desk.writeLine line = { desk.withFiles files with stderr } ∧
      (files = desk.machine.files ∨ ∃ path, desk.log.opened = some path ∧
        desk.machine.files.append desk.machine.cwd path (Text.Utf8.encodeChars line) =
          .ok files) := by
  unfold writeLine
  generalize hshown : (if desk.log.console then { desk with stderr := desk.stderr ++ line }
    else desk) = shown
  obtain ⟨stderr, rfl⟩ : ∃ stderr, shown = { desk with stderr } := by
    rw [← hshown]
    split_ifs
    · exact ⟨_, rfl⟩
    · exact ⟨desk.stderr, rfl⟩
  dsimp only
  split
  next path _ hopened =>
    split
    next files happend => exact ⟨files, stderr, rfl, .inr ⟨path, hopened, happend⟩⟩
    next => exact ⟨_, stderr, rfl, .inl rfl⟩
  next => exact ⟨_, stderr, rfl, .inl rfl⟩

/-- A record changes the open log and no other file. -/
theorem emit_changes (desk : Desk) (logger : Log.Logger) (level : Log.Level) (message : Log.Value)
    (extra : Log.Fields) :
    ∃ files last stderr, (desk.emit logger level message extra).2 =
        { desk.withFiles files with log.last := last, stderr } ∧
      (files = desk.machine.files ∨ ∃ path bytes, desk.log.opened = some path ∧
        desk.machine.files.append desk.machine.cwd path bytes = .ok files) := by
  unfold emit
  split_ifs
  · exact ⟨_, desk.log.last, desk.stderr, rfl, .inl rfl⟩
  · dsimp only
    split
    · exact ⟨_, desk.machine.now, desk.stderr, rfl, .inl rfl⟩
    · obtain ⟨files, stderr, heq, hfiles⟩ := writeLine_changes
        { desk with log.last := desk.machine.now } ((⟨desk.machine.now,
          desk.machine.now - desk.log.last, level, message, logger.tags, extra⟩ :
            Log.Record).line desk.log.format)
      refine ⟨files, desk.machine.now, stderr, heq, hfiles.imp_right ?_⟩
      exact fun ⟨path, hopened, happend⟩ => ⟨path, _, hopened, happend⟩

/-! ### What a call can do -/

/-- What a call can do to the files and to the log. -/
inductive Effect (desk : Desk) (call : Log.Call) : Desk → Prop where
  /-- The files stay as they are. -/
  | quiet {after : Desk} (now : Clock.Millis) (opens : call.opensLog = none)
      (machine : after.machine = { desk.machine with now })
      (opened : after.log.opened = desk.log.opened ∨ after.log.opened = none) :
      Effect desk call after
  /-- The open log is written. -/
  | written {after : Desk} {path : String} {bytes : Text.Utf8.Bytes} {files : FileTree}
      (opens : call.opensLog = none) (isOpen : desk.log.opened = some path)
      (appends : desk.machine.files.append desk.machine.cwd path bytes = .ok files)
      (machine : after.machine = { desk.machine with files })
      (opened : after.log.opened = desk.log.opened) : Effect desk call after
  /-- Room was made, but no log could be opened. -/
  | failed {after : Desk} {dev : Bool} {failure : Failure} (opens : call.opensLog = some dev)
      (result : (desk.call call).1 = .error failure)
      (machine : after.machine = { desk.machine with files := desk.makeRoom.2.machine.files })
      (opened : after.log.opened = none) : Effect desk call after
  /-- A log was opened. -/
  | opened {after : Desk} {dev : Bool} {name : String} {files : FileTree}
      (opens : call.opensLog = some dev) (result : (desk.call call).1 = .ok ())
      (room : desk.makeRoom.1 = .ok ()) (name_eq : desk.logFileName dev = .ok name)
      (writes : desk.makeRoom.2.machine.files.write desk.machine.cwd
        (Path.child (Directories.log desk.machine) name) [] = .ok files)
      (machine : after.machine = { desk.machine with files })
      (opened : after.log.opened = some (Path.child (Directories.log desk.machine) name)) :
      Effect desk call after

/-- Setting up the sinks opens a log, or tries to, if a file is to be written. -/
theorem effect_configure (desk : Desk) (level : Option Log.Level) (format : Option Log.Format)
    (console file : Option Bool) (dev : Bool) :
    desk.Effect (.configure level format console file dev)
      (desk.call (.configure level format console file dev)).2 := by
  obtain ⟨log, hclosed, -, heq⟩ := configureLog_eq desk level format console file dev
  -- without a file only the sinks change; with one the log is opened, or that fails
  cases hfile : file.getD true with
  | false =>
    rw [hfile, if_neg Bool.false_ne_true] at heq
    refine .quiet desk.machine.now ?_ ?_ (.inr ?_)
    · simp [Log.Call.opensLog, hfile]
    · rw [Desk.call, heq]
    · rw [Desk.call, heq]
      exact hclosed
  | true =>
    have hopens : (Log.Call.configure level format console file dev).opensLog = some dev := by
      simp [Log.Call.opensLog, hfile]
    obtain ⟨_, _, files, hroom, -, -⟩ := makeRoom_changes desk
    rw [hfile, if_pos rfl] at heq
    -- opening does not look at what was just set up, so it is the same as before the settings
    rcases openLog_cases { desk with log } dev with
      ⟨failure, path, hopen⟩ | ⟨room, name, more, hmade, hname, hwrite, hopen⟩
    · rw [makeRoom_withLog] at hopen
      refine .failed hopens (by rw [Desk.call, heq, hopen]) ?_ ?_
      · rw [Desk.call, heq, hopen, hroom]
        rfl
      · rw [Desk.call, heq, hopen]
        exact hclosed
    · rw [makeRoom_withLog] at hmade
      obtain ⟨hresult, heqRoom⟩ := Prod.mk.inj hmade
      rw [hroom] at heqRoom
      subst heqRoom
      have hempty : desk.makeRoom.2.machine.files.write desk.machine.cwd
          (Path.child (Directories.log desk.machine) name) [] = .ok more := by
        rw [hroom]
        exact hwrite
      refine .opened hopens (by rw [Desk.call, heq, hopen]) hresult hname hempty ?_ ?_
      · rw [Desk.call, heq, hopen]
        rfl
      · rw [Desk.call, heq, hopen]

/-- A record is written to the open log, or no file is changed. -/
theorem effect_emit (desk : Desk) (logger : Log.Logger) (level : Log.Level) (message : Log.Value)
    (extra : Log.Fields) : desk.Effect (.emit logger level message extra)
      (desk.call (.emit logger level message extra)).2 := by
  obtain ⟨files, last, stderr, heq, hfiles⟩ := emit_changes desk logger level message extra
  rcases hfiles with rfl | ⟨path, bytes, hopened, happend⟩
  · refine .quiet desk.machine.now rfl ?_ (.inl ?_)
    · rw [Desk.call, heq]
      rfl
    · rw [Desk.call, heq]
      rfl
  · refine .written rfl hopened happend ?_ ?_
    · rw [Desk.call, heq]
      rfl
    · rw [Desk.call, heq]
      rfl

/-- Every call has one of these effects. -/
theorem effect_call (desk : Desk) (call : Log.Call) : desk.Effect call (desk.call call).2 := by
  cases call with
  | configure level format console file dev =>
    exact effect_configure desk level format console file dev
  | emit logger level message extra => exact effect_emit desk logger level message extra
  | close => exact .quiet desk.machine.now rfl rfl (.inr rfl)
  | wait millis => exact .quiet (desk.machine.now + millis) rfl rfl (.inl rfl)

/-! ### Sound trees -/

theorem sound_makeRoom (h : desk.machine.files.Sound) : desk.makeRoom.2.machine.files.Sound := by
  obtain ⟨made, gone, files, heq, hextends, hremoved⟩ := makeRoom_changes desk
  rw [heq]
  exact hremoved.sound (hextends.sound h)

/-- No call leaves a tree of files that could not be. -/
theorem sound_call (h : desk.machine.files.Sound) (call : Log.Call) :
    (desk.call call).2.machine.files.Sound := by
  cases effect_call desk call with
  | quiet now _ hmachine =>
    rw [hmachine]
    exact h
  | written _ _ happend hmachine =>
    rw [hmachine]
    exact h.modify happend
  | failed _ _ hmachine =>
    rw [hmachine]
    dsimp only
    exact sound_makeRoom h
  | opened _ _ _ _ hwrite hmachine =>
    rw [hmachine]
    exact (sound_makeRoom h).modify hwrite

theorem sound_run (h : desk.machine.files.Sound) (calls : List Log.Call) :
    (desk.run calls).machine.files.Sound := by
  induction calls generalizing desk with
  | nil => exact h
  | cons call rest ih => exact ih (sound_call h call)

/-! ### Rotation -/

/-- Whatever was called before, setting up the sinks keeps the newest of the stamped log files to
make room for the one it opens, and removes nothing else. So afterwards there are never more than
ten. -/
theorem run_configureLog {start : Desk} (hsound : start.machine.files.Sound)
    (calls : List Log.Call) (level : Option Log.Level) (format : Option Log.Format)
    (console : Option Bool) {file : Option Bool} (hfile : file ≠ some false) (dev : Bool)
    (h : (start.run calls).configureLog level format console file dev = (.ok (), after)) :
    ∃ made place name kept gone, (start.run calls).logFileName dev = .ok name ∧
      (start.run calls).LogOpened after made place name kept gone ∧
        (after.machine.files.stampedNames place).length ≤ Log.keptFiles := by
  obtain ⟨log, -, -, heq⟩ :=
    configureLog_eq (start.run calls) level format console file dev
  -- a file is written unless it is refused
  have hopens : file.getD true = true := by
    rcases file with _ | (_ | _)
    · rfl
    · exact absurd rfl hfile
    · rfl
  rw [heq, if_pos hopens] at h
  have hcalled : { start.run calls with log }.machine.files.Sound := sound_run hsound calls
  obtain ⟨hafter, made, place, name, kept, gone, hname, hopened⟩ := openLog_rotated hcalled h
  exact ⟨made, place, name, kept, gone, hname, ⟨hopened.makes, hopened.keeps, hopened.same,
    hopened.dir, hopened.opened, hopened.rotated⟩, hopened.rotated.length_le hafter⟩

/-- A desk with two log files of the first minute of 1970. -/
def withTwoLogs : Desk where
  machine :=
    { files := ⟨[(["d"], .dir 0o755 0), (["d", "julials"], .dir 0o755 0),
        (["d", "julials", "log"], .dir 0o755 0),
        (["d", "julials", "log", "1970-01-01T000003.log"], .file [65] 0o644 2),
        (["d", "julials", "log", "1970-01-01T000002.log"], .file [66] 0o644 1)], 5⟩
      env := [("XDG_DATA_HOME", "/d")]
      cwd := "/"
      now := 60000 }
  log := { last := 0 }

theorem run_configureLog_withTwoLogs :
    withTwoLogs.machine.files.Sound ∧ (none : Option Bool) ≠ some false ∧
      ∃ after made place name kept gone,
        (withTwoLogs.run [.configure none none none none true, .wait 1000]).configureLog
            none none none none false = (.ok (), after) ∧
          (withTwoLogs.run [.configure none none none none true, .wait 1000]).logFileName false =
              .ok name ∧
            (withTwoLogs.run [.configure none none none none true, .wait 1000]).LogOpened
                after made place name kept gone ∧
              (after.machine.files.stampedNames place).length ≤ Log.keptFiles := by
  have hsound : withTwoLogs.machine.files.Sound := by decide +kernel
  have hfile : (none : Option Bool) ≠ some false := by decide
  have hok : ((withTwoLogs.run [.configure none none none none true, .wait 1000]).configureLog
      none none none none false).1 = .ok () := by
    decide +kernel
  rcases hcall : (withTwoLogs.run [.configure none none none none true, .wait 1000]).configureLog
      none none none none false with ⟨result, after⟩
  rw [hcall] at hok
  dsimp only at hok
  rw [hok] at hcall
  obtain ⟨made, place, name, kept, gone, hname, hopened, hlength⟩ :=
    run_configureLog hsound [.configure none none none none true, .wait 1000] none none none hfile
      false hcall
  exact ⟨hsound, hfile, after, made, place, name, kept, gone, by rw [hok], hname, hopened, hlength⟩

end Desk

end JuliaSession
