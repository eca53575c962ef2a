import JuliaSession.Console.Highlight
import JuliaSession.Console.Markup
import JuliaSession.Console.Wrap
import JuliaSession.Documents
import JuliaSession.Event
import JuliaSession.Log.State
import JuliaSession.Machine.Process

/-!
# The world of the program

Everything an operation can read or change, and the operations themselves: `Act` is a step that
changes the world and may fail. A failing step keeps what it had changed before.
-/

namespace JuliaSession

/-- Steps on a state that may fail; what was changed before a failure stays changed. -/
abbrev Step (σ α : Type) := ExceptT Failure (StateM σ) α

/-- Run a step. -/
def Step.perform {σ α : Type} (step : Step σ α) (state : σ) : Except Failure α × σ :=
  StateT.run (ExceptT.run step) state

/-- A step whose failure is part of its value. -/
def Step.attempt {σ α : Type} (step : Step σ α) : Step σ (Except Failure α) :=
  ExceptT.mk fun state =>
    let (result, state) := step.perform state
    (.ok result, state)

/-- A step on a part of the state. -/
def Step.onPart {σ τ α : Type} (get : σ → τ) (set : σ → τ → σ) (step : Step τ α) : Step σ α :=
  ExceptT.mk fun state =>
    let (result, part) := step.perform (get state)
    (result, set state part)

/-- A result as a step. -/
def Step.ofExcept {σ α : Type} : Except Failure α → Step σ α
  | .ok value => pure value
  | .error failure => throw failure

/-- The settings that were loaded. -/
structure LoadedSettings where
  /-- The settings, once they are loaded. -/
  cache : Option Config.Settings := none
  /-- The files they came from, in the order they were applied. -/
  sources : List String := []
  deriving Inhabited

/-- A command that was started where the user sees it. -/
structure Terminal where
  /-- Its label. -/
  label : String
  /-- Its exit code. -/
  code : Int
  deriving DecidableEq, Repr

/-- Everything an operation can read or change. -/
structure World where
  /-- The machine, the console and the logs. -/
  desk : Desk
  /-- The settings that were loaded. -/
  loaded : LoadedSettings := {}
  /-- The documents that are open in the host. -/
  documents : DocumentStore := {}
  /-- What was done to the outside, the first event first. -/
  events : List Event := []
  /-- The visible commands that were not waited for yet. -/
  terminals : List Terminal := []
  deriving Inhabited

/-- Steps on the world. -/
abbrev Act (α : Type) := Step World α

namespace Act

/-- The machine. -/
def machine : Act Machine := do return (← get).desk.machine

/-- Change the desk. -/
def modifyDesk (change : Desk → Desk) : Act Unit :=
  modify fun world => { world with desk := change world.desk }

/-- A step on the desk that may fail. -/
def onDesk {α : Type} (step : Desk → Except Failure α × Desk) : Act α := do
  let (result, desk) := step (← get).desk
  modifyDesk fun _ => desk
  Step.ofExcept result

/-- Change the files. -/
def setFiles (files : FileTree) : Act Unit :=
  modifyDesk fun desk => { desk with machine := { desk.machine with files } }

/-- Add an event. -/
def record (event : Event) : Act Unit :=
  modify fun world => { world with events := world.events ++ [event] }

/-- The logger of a service. -/
def logger (service : String) : Log.Logger := ⟨[("service", Log.text service)], 0⟩

/-- Log a record for a service. -/
def log (service : String) (level : Log.Level) (message : String) (fields : Log.Fields) :
    Act Unit :=
  onDesk fun desk => desk.emit (logger service) level (Log.text message) fields

/-- Start a measurement for a service. -/
def startTimer (service message : String) (fields : Log.Fields) : Act Log.Timer :=
  onDesk fun desk => desk.startTimer (logger service) (Log.text message) fields

/-- End a measurement. -/
def stopTimer (timer : Log.Timer) : Act Unit := onDesk fun desk => desk.stopTimer timer

/-- The value of a request to the operating system. -/
def ofOs {α : Type} : Except OsFault α → Act α
  | .ok value => pure value
  | .error fault => throw (.os fault)

/-- The message for a component of a colour that has a number of digits, none or too many. -/
def badComponentMessage (digits : Nat) : String :=
  if digits = 0 then "invalid literal for int() with base 10: ''"
  else
    "Exceeds the limit (" ++ toString Style.digitLimit
      ++ " digits) for integer string conversion: value has " ++ toString digits
      ++ " digits; use sys.set_int_max_str_digits() to increase the limit"

/-- The value of a reading of markup. -/
def ofMarkup {α : Type} : Except Markup.Fault α → Act α
  | .ok value => pure value
  | .error (.badComponent digits) => throw (.badValue (badComponentMessage digits))
  | .error _ => throw .badMarkup

/-- Write characters to the console. -/
def write (chars : List Char) : Act Unit :=
  modifyDesk fun desk => { desk with stdout := desk.stdout ++ chars }

/-- Write markup to the console with its highlights, broken into lines of its width. -/
def print (markup : List Char) : Act Unit := do
  let text ← ofMarkup (Markup.read markup)
  write (Console.shown (Console.highlighted text) ++ ['\n'])

/-- Write a line to the console as it stands, however long it is. -/
def printPlain (text : List Char) : Act Unit :=
  write (Console.unbroken (.ofChars (Markup.displayed text)) ++ ['\n'])

/-- Write a line of markup to the console, however long it is. -/
def printLine (markup : List Char) : Act Unit := do
  write (Console.unbroken (← ofMarkup (Markup.read markup)) ++ ['\n'])

/-- Write markup to the console as an error, broken into lines of its width. -/
def printError (markup : List Char) : Act Unit := do
  let chars := Console.shown (← ofMarkup (Markup.read markup)) ++ ['\n']
  modifyDesk fun desk => { desk with stderr := desk.stderr ++ chars }

/-- The names of the program's own sources of log records. -/
def services : List String :=
  ["config.loader", "config", "host.context", "host.ui", "lsp.client", "lsp.trace", "lsp.server",
    "lsp.resolver", "lsp.packages", "lsp.launch", "lsp.middleware", "lsp.fulltext",
    "lsp.supervisor", "cli.start"]

end Act

/-- Logging as it is when the program starts on a machine. -/
def Log.State.atStart (now : Clock.Millis) : Log.State :=
  Act.services.foldl (fun state service =>
    (state.logger [("service", Log.text service)]).2) { last := now }

/-- The world when the program starts on a machine. -/
def World.atStart (machine : Machine) : World :=
  { desk := { machine, log := Log.State.atStart machine.now } }

end JuliaSession
