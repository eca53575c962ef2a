import JuliaSession.Directories
import JuliaSession.Glob
import JuliaSession.Log.Record

/-!
# Logging

The sinks of log records and how they are set up. `Log.State` is what logging remembers between
records; `Desk` puts it together with the machine and the console it writes to.

`Desk.configure` opens a file in the log directory after removing old ones: of the files named for a
moment the newest nine stay, so that with the new one there are ten at most.
-/

namespace JuliaSession.Log

/-- A source of records: its tags, and a number that tells sources apart. -/
structure Logger where
  /-- The tags that every record carries. -/
  tags : Fields
  /-- Two sources are the same if their numbers are. -/
  number : Nat
  deriving DecidableEq, Inhabited

/-- What logging remembers. -/
structure State where
  /-- The least severity written. -/
  level : Level := .info
  /-- The line format. -/
  format : Format := .kv
  /-- Is the console a sink? -/
  console : Bool := false
  /-- Is a file a sink? -/
  file : Bool := false
  /-- The path of the log file set up last. -/
  path : Option String := none
  /-- The log file that is open. -/
  opened : Option String := none
  /-- When the last record was written. -/
  last : Clock.Millis
  /-- The sources that were made for a service, by its name. -/
  services : Assoc String Logger := []
  /-- How many sources were made. -/
  made : Nat := 0
  deriving Inhabited

/-- The logger for the given tags. Loggers with a `service` tag are made once for each service. -/
def State.logger (state : State) (tags : Fields) : Logger × State :=
  let fresh : Logger := ⟨tags, state.made⟩
  let counted := { state with made := state.made + 1 }
  match Assoc.get? "service" tags with
  | some (.json (.str service)) =>
    -- an empty service name is no name
    if service = "" then (fresh, counted)
    else match Assoc.get? service state.services with
      | some logger => (logger, state)
      | none => (fresh, { counted with services := Assoc.insert service fresh state.services })
  | _ => (fresh, counted)

/-- A measurement of how long something takes. -/
structure Timer where
  /-- The source of its records. -/
  logger : Logger
  /-- What is measured. -/
  message : Value
  /-- The fields of its records. -/
  extra : Fields
  /-- When it was started. -/
  started : Clock.Millis
  deriving Inhabited

/-- How many files named for a moment are kept, the one about to be opened included. -/
def keptFiles : Nat := 10

/-- The form of the names of log files that are named for a moment. -/
def fileNamePattern : String := "????-??-??T??????.log"

/-- Is this the name of a log file that is named for a moment? -/
def isStampedName (name : String) : Bool := Glob.matchesPart name.toList fileNamePattern.toList

/-- The files that have to go: of the given ones, with their times of change, all but the newest,
so that there is room for one more. -/
def outdated (files : List (String × Int)) : List String :=
  let sorted := files.mergeSort fun a b => a.2 ≤ b.2
  (sorted.take (files.length - (keptFiles - 1))).map Prod.fst

end JuliaSession.Log

namespace JuliaSession

/-- The machine with the program's console and logs. -/
structure Desk where
  /-- The machine. -/
  machine : Machine
  /-- What logging remembers. -/
  log : Log.State
  /-- What was written to the console. -/
  stdout : List Char := []
  /-- What was written to the console as errors and log lines. -/
  stderr : List Char := []
  /-- What is left of the console's input. -/
  stdin : List Char := []
  deriving Inhabited

namespace Desk

/-- The time of day can only be written in some years. -/
def checkYear (desk : Desk) : Except Failure Unit :=
  let year := Clock.year desk.machine.now
  if Clock.isWritable year then .ok ()
  else .error (.badValue ("year " ++ toString year ++ " is out of range"))

/-- Write a line to the sinks. -/
def writeLine (desk : Desk) (line : List Char) : Desk :=
  let desk := if desk.log.console then { desk with stderr := desk.stderr ++ line } else desk
  match desk.log.file, desk.log.opened with
  | true, some path =>
    match desk.machine.files.append desk.machine.cwd path (Text.Utf8.encodeChars line) with
    | .ok files => { desk with machine := { desk.machine with files } }
    | .error _ => desk
  | _, _ => desk

/-- Write a record to the sinks, unless it is below the least severity. -/
def emit (desk : Desk) (logger : Log.Logger) (level : Log.Level) (message : Log.Value)
    (extra : Log.Fields) : Except Failure Unit × Desk :=
  if !level.passes desk.log.level then (.ok (), desk)
  else
    let record : Log.Record :=
      ⟨desk.machine.now, desk.machine.now - desk.log.last, level, message, logger.tags, extra⟩
    -- the time counts from here even if the record cannot be written, but not from a record below
    -- the least severity
    let desk := { desk with log := { desk.log with last := desk.machine.now } }
    match desk.checkYear with
    | .error failure => (.error failure, desk)
    | .ok () => (.ok (), desk.writeLine (record.line desk.log.format))

/-- Start a measurement and say so. -/
def startTimer (desk : Desk) (logger : Log.Logger) (message : Log.Value) (extra : Log.Fields) :
    Except Failure Log.Timer × Desk :=
  let (result, desk) :=
    desk.emit logger .info message (Assoc.insert "status" (Log.text "started") extra)
  (result.map fun _ => ⟨logger, message, extra, desk.machine.now⟩, desk)

/-- End a measurement and say how long it took. -/
def stopTimer (desk : Desk) (timer : Log.Timer) : Except Failure Unit × Desk :=
  let extra := Assoc.insert "status" (Log.text "completed") timer.extra
  desk.emit timer.logger .info timer.message
    (Assoc.insert "duration" (Log.number (desk.machine.now - timer.started)) extra)

/-- Close the log file. -/
def closeLog (desk : Desk) : Desk := { desk with log := { desk.log with opened := none } }

/-- What is named for a moment in the log directory, with its times of change. A path that is too
long for one of the names is at fault. -/
def stampedFiles (desk : Desk) (dir : String) : Except OsFault (List (String × Int)) :=
  let names := (desk.machine.files.list? desk.machine.cwd dir).getD []
  (names.filter Log.isStampedName).mapM fun name => do
    let entry ← desk.machine.files.stat desk.machine.cwd (Path.child dir name)
    return (name, entry.changed)

/-- Remove files one after the other; a directory among them ends it. -/
def removeAll (desk : Desk) (dir : String) : List String → Except Failure Unit × Desk
  | [] => (.ok (), desk)
  | name :: rest =>
    let path := Path.child dir name
    if desk.machine.isDirectory path then (.error (.os ⟨.isDirectory, path⟩), desk)
    else
      let files := desk.machine.files.remove desk.machine.cwd path
      removeAll { desk with machine := { desk.machine with files } } dir rest

/-- Remove the log files that are too many. -/
def rotate (desk : Desk) (dir : String) : Except Failure Unit × Desk :=
  match desk.stampedFiles dir with
  | .error fault => (.error (.os fault), desk)
  | .ok files => desk.removeAll dir (Log.outdated files)

/-- The name of the log file to open: one for development, or one named for the moment. -/
def logFileName (desk : Desk) (dev : Bool) : Except Failure String :=
  if dev then .ok "dev.log"
  else desk.checkYear.map fun _ => Clock.fileStamp desk.machine.now ++ ".log"

/-- Open a log file anew. -/
def openFile (desk : Desk) (path : String) : Except Failure Unit × Desk :=
  let desk := { desk with log := { desk.log with path := some path } }
  match desk.machine.files.write desk.machine.cwd path [] with
  | .error fault => (.error (.os fault), desk)
  | .ok files =>
    (.ok (), { desk with
      machine := { desk.machine with files }, log := { desk.log with opened := some path } })

/-- Open the log file. The settings are changed first, so they stay changed when the file cannot be
opened. -/
def openLog (desk : Desk) (dev : Bool) : Except Failure Unit × Desk :=
  let dir := Directories.log desk.machine
  match desk.machine.files.makeDirs desk.machine.cwd dir with
  | .error fault => (.error (.os fault), desk)
  | .ok files =>
    -- room is made before the new file is opened
    match { desk with machine := { desk.machine with files } }.rotate dir with
    | (.error failure, desk) => (.error failure, desk)
    | (.ok (), desk) =>
      match desk.logFileName dev with
      | .error failure => (.error failure, desk)
      | .ok name => desk.openFile (Path.child dir name)

/-- Set up the sinks. What is not given stays as it is, except that a file is written unless the
call says not to. -/
def configureLog (desk : Desk) (level : Option Log.Level) (format : Option Log.Format)
    (console file : Option Bool) (dev : Bool) : Except Failure Unit × Desk :=
  let log := { desk.log with
    level := level.getD desk.log.level, format := format.getD desk.log.format,
    console := console.getD desk.log.console, file := file.getD true }
  -- the file that was open is closed even if the new one cannot be opened
  let desk := { desk with log }.closeLog
  if desk.log.file then desk.openLog dev
  else (.ok (), { desk with log := { desk.log with path := none } })

end Desk

end JuliaSession
