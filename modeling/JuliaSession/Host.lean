import JuliaSession.Console.Layout
import JuliaSession.World

/-!
# The host's user interface

The three things the program asks of its host: a question answered by yes or no, a command that runs
where the user can watch it, and a message. `Host.console` does them on the console; `Host.scripted`
gives a fixed answer and only writes down what was asked for.
-/

namespace JuliaSession

/-- The user interface of the host. -/
structure Host where
  /-- Ask a question. -/
  confirm : String → Act Bool
  /-- Start a command with a label where the user sees it; nobody waits for it. -/
  runVisible : String → String → Act Unit
  /-- Show a message. -/
  showMessage : String → Severity → Act Unit

namespace Host

/-- A host that gives one answer to every question and writes down what was asked for. -/
def scripted (answer : Bool) : Host where
  confirm message := do
    Act.record (.confirm message)
    return answer
  runVisible command label := Act.record (.runVisible command label)
  showMessage message severity := Act.record (.showMessage message severity)

/-- The style of a message. -/
def style : Severity → String
  | .info => "cyan"
  | .warning => "yellow"
  | .error => "red"

/-- One line of the console's input, without its line feed; nothing at the end of input. -/
def readLine : Act (Option (List Char)) := do
  let world ← get
  match world.desk.stdin with
  | [] => return none
  | input => do
    let line := input.takeWhile (· ≠ '\n')
    Act.modifyDesk fun desk => { desk with stdin := input.drop (line.length + 1) }
    return some line

/-- Ask until the answer is `y` or `n`; every round uses up a line of input. -/
def askFor (prompt : List Char) : Nat → Act Bool
  | 0 => throw .endOfInput
  | rounds + 1 => do
    Act.write prompt
    match ← readLine with
    | none => throw .endOfInput
    | some line =>
      match (Text.strip line).map Char.toLower with
      | ['y'] => return true
      | ['n'] => return false
      | _ => do
        Act.write "Please enter Y or N\n".toList
        askFor prompt rounds

/-- Ask a question on the console, with the message as markup. -/
def ask (message : String) : Act Bool := do
  let question ← Act.ofMarkup (Markup.read message.toList)
  let choices := Console.StyledText.ofChars "[y/n]".toList
  let prompt := question ++ .ofChars [' '] ++ choices.whole ++ .ofChars ": ".toList
  askFor (Console.shown prompt) ((← get).desk.stdin.length + 1)

/-- Run a shell command to its end, with nothing to read and its output discarded; its exit code. -/
def runShell (command : String) : Act Int := do
  let machine ← Act.machine
  match Process.start machine "/bin/sh" ["-c", command] machine.env none with
  | .error fault => throw (.os fault)
  | .ok process => do
    let seen := (process.withInput [] true).observe machine.files
    Act.setFiles seen.files
    return seen.code.getD 0

/-- The console as host. When `assumeYes` is set every question is answered by yes. -/
def console (assumeYes : Bool) : Host where
  confirm message := do
    if assumeYes then
      Act.print (message.toList ++ " [dim](yes)[/dim]".toList)
      return true
    else ask message
  runVisible command label := do
    let title ← Act.ofMarkup (Markup.read (Markup.styled "bold" label))
    Act.write (Console.shown (Console.rule (Console.highlighted title)) ++ ['\n'])
    Act.print (Markup.styled "dim" ("$ " ++ command))
    Act.log "host.ui" .info "running visible command"
      [("label", Log.text label), ("command", Log.text command)]
    let code ← runShell command
    modify fun world => { world with terminals := world.terminals ++ [⟨label, code⟩] }
  showMessage message severity := Act.print (Markup.styled (style severity) message)

/-- Wait for the visible commands. -/
def waitTerminals : Act Unit := do
  for terminal in (← get).terminals do
    Act.log "host.ui" .info "visible command finished"
      [("label", Log.text terminal.label), ("code", Log.number terminal.code)]
  modify fun world => { world with terminals := [] }

end Host

end JuliaSession
