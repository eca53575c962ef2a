import JuliaSession.Client.Sessions
import JuliaSession.CommandLine.Arguments
import JuliaSession.Components
import JuliaSession.Config.Load
import JuliaSession.Log.Bootstrap

/-!
# The command line program

The terminal stands in for the editor: it answers questions and shows the commands that run. Every
command reports the failures of the session by one line on the error output and the exit code 1;
what else stops a command leaves the program as it is.
-/

namespace JuliaSession.CommandLine

/-! ### Commands -/

/-- The directory for temporary files: the first one that the environment names and that exists. -/
def tmpdir (machine : Machine) : String :=
  let named := ["TMPDIR", "TEMP", "TMP"].filterMap fun name =>
    match machine.envVar? name with
    | some "" => none
    | dir => dir
  let usual := ["/tmp", "/var/tmp", "/usr/tmp"]
  machine.absolute (((named ++ usual).find? machine.isDirectory).getD ".")

/-- The supervisor of a session in the working directory. -/
def supervisor (layout : ServerLayout) (host : Host) : Act Supervisor := do
  let settings := (← Config.current).julia
  let machine ← Act.machine
  let planner : Launch.Planner := ⟨settings, host, some machine.cwd⟩
  return { layout, tmpdir := tmpdir machine, settings, host, cwd := some machine.cwd,
           planner := planner.plan }

/-- The table of packages of a project. A fault of a cell is found before one of the title, and the
cells are read column by column. -/
def packageTable (project : String) (packages : List Package) :
    Except Markup.Fault (List (List Char)) := do
  let column (field : Package → String) : Except Markup.Fault (List Console.StyledText) :=
    packages.mapM fun package => Markup.read (field package).toList
  let names ← column (·.name)
  let versions ← column (·.version)
  let hashes ← column (·.hash)
  let title ← Markup.read ("Packages in " ++ project).toList
  let states := packages.map fun package => .ofChars package.state.name.toList
  let heading := ["State", "Name", "Version", "Hash"].map fun name => .ofChars name.toList
  return Console.table title heading
    ((states.zip (names.zip (versions.zip hashes))).map fun (state, name, version, hash) =>
      [state, name, version, hash])

/-- Write lines to the console. -/
def printLines (lines : List (List Char)) : Act Unit :=
  Act.write (lines.flatMap (· ++ ['\n']))

/-- Show the packages of the server and offer to install missing ones. -/
def deps (layout : ServerLayout) (host : Host) : Act Unit := do
  let settings := (← Config.current).julia
  match ← Julia.find settings with
  | none | some "" => throw (.configuration Launch.noInterpreter)
  | some julia => do
    let packages ← Julia.packages julia layout.serverProject
    printLines (← Act.ofMarkup (packageTable layout.serverProject packages))
    -- the offer asks for the status again: it may run long after the table was shown
    Julia.offerInstall host julia layout.serverProject
    Host.waitTerminals

/-- Show the command line that would start the server; the result is that line. -/
def plan (layout : ServerLayout) (host : Host) : Act String := do
  let spec ← (← supervisor layout host).plan
  let line := Shell.line spec.argv
  Act.print (Markup.styled "bold" (if spec.precompiled then "precompiled" else "interpreter"))
  Act.printPlain line.toList
  Host.waitTerminals
  return line

/-- Compile the server and wait for the end. -/
def compile (layout : ServerLayout) (host : Host) : Act Unit := do
  (← supervisor layout host).compile
  Host.waitTerminals

/-- Open files on the server. -/
def openFiles (client : Nat) : List String → Step (World × Sessions) Unit
  | [] => return
  | path :: rest => do
    let (world, _) ← get
    let (document, documents) ←
      Step.ofExcept (world.documents.openFile world.desk.machine path)
    modify fun (world, sessions) => ({ world with documents }, sessions)
    Sessions.within client (Dialog.update fun c => c.openDocument document)
    openFiles client rest

/-- Serve until the server ends; its exit code. -/
def serve (client : Nat) (files : List String) : Step (World × Sessions) Int := do
  openFiles client files
  let state := Markup.styled "green" (Sessions.clientName ++ " running")
  Sessions.within client (Dialog.act (Act.print (state ++ " [dim](Ctrl-C to stop)[/dim]".toList)))
  let code ← Sessions.within client Dialog.waitClosed
  Sessions.within client (Dialog.act
    (Act.log "cli.start" .info "server exited" [("code", .json (.ofInt? code))]))
  return code.getD 0

/-- Start a session and serve until it ends. -/
def session (supervisor : Supervisor) (files : List String) : Step (Activation Sessions) Int := do
  match ← supervisor.start Sessions.kind with
  | none => return 1
  | some client => Supervisor.onStage (Stage.withClients (serve client files))

/-- Start the server, open files and wait for the server to end. Whatever happens, the session is
torn down. -/
def start (layout : ServerLayout) (host : Host) (files : List String) : Act Int := do
  let supervisor ← supervisor layout host
  let activation : Activation Sessions := ⟨⟨← get, [], {}⟩, none⟩
  let (result, activation) := Step.perform (do
    -- the session is torn down also when a file cannot be opened
    let result ← (session supervisor files).attempt
    Supervisor.onStage (Registry.disposeSubscriptions Sessions.kind.toClientKind)
    Supervisor.act Host.waitTerminals
    Step.ofExcept result) activation
  set activation.stage.world
  Step.ofExcept result

/-- Show the settings, or where the settings of the user are. -/
def config (present path : Bool) : Act Unit := do
  if path then Act.printLine (Directories.config (← Act.machine)).toList
  else if present then
    Act.printPlain (← Config.current).dumpPresent.indented.toList
  else
    Act.print "Use --show to display configuration or --path to show the config directory".toList

/-! ### The program -/

/-- How a run of the program ends. -/
inductive Ending where
  /-- With an exit code. -/
  | exit (code : Int)
  /-- By a failure that nothing handles. -/
  | stopped (failure : Failure)

/-- The exit code of a run. -/
def Ending.code : Ending → Int
  | exit code => code
  | stopped _ => 1

/-- The directories of an installation, as far as the user does not name them: the working directory
and the storage of the user. -/
def Places.layout (places : Places) (machine : Machine) : ServerLayout :=
  let orElse (given : Option String) (fallback : String) : String :=
    match given with
    | none | some "" => fallback
    | some path => path
  ⟨machine.absolute (orElse places.extension machine.cwd),
    machine.absolute (orElse places.storage (Directories.storage machine))⟩

/-- Report a failure to the user. -/
def report (failure : Failure) : Act Ending := do
  Act.printError ("[red]Error:[/red] ".toList ++ failure.describe.toList)
  return .exit 1

/-- Carry out a command whose failures are reported if `own` says so. -/
def reporting (own : Failure → Bool) (step : Act Int) : Act Ending := do
  match ← step.attempt with
  | .ok code => return .exit code
  | .error failure => if own failure then report failure else throw failure

/-- Carry out a command. -/
def carryOut (command : Command) : Act Ending := do
  let machine ← Act.machine
  let done (step : Act Unit) : Act Int := do
    step
    return 0
  match command with
  | .start places files assumeYes =>
    reporting Failure.isOwn (start (places.layout machine) (.console assumeYes) files)
  | .compile places =>
    reporting (fun _ => false) (done (compile (places.layout machine) (.console false)))
  | .deps places assumeYes =>
    reporting Failure.isOwn (done (deps (places.layout machine) (.console assumeYes)))
  | .plan places assumeYes =>
    reporting Failure.isOwn (done do
      let _ ← plan (places.layout machine) (.console assumeYes))
  | .config present path => reporting (fun _ => false) (done (config present path))

/-- Is this a failure of the settings? -/
def isSettingsFailure : Failure → Bool
  | .settings .. => true
  | _ => false

/-- The exit code for a command line that cannot be understood. -/
def usageCode : Int := 2

/-- Set up logging and carry out the command of a name with its words. -/
def dispatch (found : Found) (name : String) (words : List String) : Act Ending := do
  let wishes : Log.Wishes :=
    { level := found.value? "level", console := if found.has "logs" then some true else none }
  match ← (Log.bootstrap (name == "start") wishes).attempt with
  | .error failure => if isSettingsFailure failure then report failure else throw failure
  | .ok _ => do
    match Command.read name words (← Act.machine).envVar? with
    | .help => return .exit 0
    | .unclear => return .exit usageCode
    | .act command => carryOut command

/-- Carry out a command line. -/
def interpret (words : List String) : Act Ending := do
  match readSwitches programSwitches (words.length + 1) words with
  | none => return .exit usageCode
  | some (found, rest) =>
    if found.has "version" then
      Act.print (Directories.appName ++ " " ++ version).toList
      return .exit 0
    else if found.has "help" then return .exit 0
    else
      match rest with
      | [] => return .exit usageCode
      | name :: words =>
        -- an unknown command is refused before logging is set up
        if (commandSwitches name).isNone then return .exit usageCode
        else dispatch found name words

/-- Run the program with the words of a command line. Lines of the input may end in any way; its end
at a question aborts the program. -/
def run (words : List String) : Act Ending := do
  Act.modifyDesk fun desk => { desk with stdin := Text.unifyNewlines desk.stdin }
  match ← (interpret words).attempt with
  | .ok ending => return ending
  | .error .endOfInput => do
    Act.modifyDesk fun desk => { desk with stderr := desk.stderr ++ "\nAborted.\n".toList }
    return .exit 1
  | .error failure => return .stopped failure

end JuliaSession.CommandLine
