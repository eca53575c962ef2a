import JuliaSession.Config.Load

/-!
# Setting up logging

How the logging settings of a run are found: an argument of the call wins over the logging section,
and that over what the kind of run wants.
-/

namespace JuliaSession.Log

/-- The logging settings of a run. -/
structure Setup where
  /-- The least severity written. -/
  level : Level
  /-- The line format. -/
  format : Format
  /-- Is the console a sink? -/
  console : Bool
  /-- Is a file a sink? -/
  file : Bool
  /-- Is it the file for development? -/
  devFile : Bool
  deriving DecidableEq, Repr

/-- What a call says about logging. -/
structure Wishes where
  /-- The name of the least severity. -/
  level : Option String := none
  /-- The name of the line format. -/
  format : Option String := none
  /-- Is the console a sink? -/
  console : Option Bool := none
  /-- Is a file a sink? -/
  file : Option Bool := none
  /-- Is it the file for development? -/
  devFile : Option Bool := none

/-- The severity that a text names. -/
def Level.parse (value : Option String) : Except Failure Level :=
  match value with
  | none => .ok .info
  | some text =>
    match named? text with
    | some level => .ok level
    | none => .error (.badValue ("invalid log level: " ++ text))

/-- The format that a text names. -/
def Format.parse (value : Option String) : Except Failure Format :=
  match value with
  | none => .ok .kv
  | some text =>
    match named? text with
    | some format => .ok format
    | none => .error (.badValue ("invalid log format: " ++ text))

/-- The first text unless it is absent or empty, otherwise the second. -/
def orText (first second : Option String) : Option String :=
  match first with
  | none | some "" => second
  | some text => some text

/-- The logging settings of a run; `session` says that the run is a whole session, which is logged
to a file. -/
def Setup.resolve (settings : Config.Settings) (session : Bool) (wishes : Wishes) :
    Except Failure Setup := do
  let given := settings.logging.getD {}
  let level ← Level.parse (orText (orText wishes.level given.level) settings.logLevel)
  let format ← Format.parse (orText wishes.format (given.format.map Format.name))
  return {
    level
    format
    console := (wishes.console.orElse fun _ => given.console).getD false
    file := (wishes.file.orElse fun _ => given.file).getD session
    devFile := (wishes.devFile.orElse fun _ => given.devFile).getD false }

/-- Set up logging for a run by the settings of the working directory. -/
def bootstrap (session : Bool) (wishes : Wishes) : Act Setup := do
  let settings ← Config.current
  let setup ← Step.ofExcept (Setup.resolve settings session wishes)
  Act.onDesk fun desk => desk.configureLog (some setup.level) (some setup.format)
    (some setup.console) (some setup.file) setup.devFile
  return setup

end JuliaSession.Log
