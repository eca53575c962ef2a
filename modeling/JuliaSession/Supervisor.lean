import JuliaSession.FullText
import JuliaSession.Launch.Planner
import JuliaSession.Registry

/-!
# The supervisor

The supervisor owns the session of one activation of the extension: it plans the launch, makes a
client, hands it to the registry and connects it with the open documents. There is at most one
session; while the supervisor has a client, starting again gives that client back. A start that
fails leaves nothing behind, and the user is told about it once.
-/

namespace JuliaSession

/-- What the supervisor can do with clients beyond starting and stopping them. -/
structure SessionKind (σ : Type) extends ClientKind σ where
  /-- Make a client. -/
  create : ServerOptions → ClientOptions → Step (World × σ) Nat
  /-- Wait for a client to be ready. -/
  awaitReady : Nat → Step (World × σ) Unit
  /-- Let a client answer requests for whole texts. -/
  serveTexts : Nat → Step (World × σ) Unit
  /-- Let a client no longer answer requests for whole texts. -/
  refuseTexts : Nat → Step (World × σ) Unit

/-- What the supervisor works with. -/
structure Supervisor where
  /-- The directories of the installation. -/
  layout : ServerLayout
  /-- The directory for temporary files. -/
  tmpdir : String
  /-- The Julia section of the settings. -/
  settings : Config.JuliaSettings
  /-- The user interface. -/
  host : Host
  /-- The directory of the session; the program's own if there is none. -/
  cwd : Option String
  /-- Plan a launch for a storage and an extension directory. -/
  planner : String → String → Act LaunchSpec

/-- A session that was started. -/
structure Running where
  /-- Its client. -/
  client : Nat
  /-- The disposable that stops it. -/
  registration : Nat
  /-- Does the client answer requests for whole texts? -/
  serving : Bool
  deriving DecidableEq, Repr

/-- The host during an activation of the extension. -/
structure Activation (σ : Type) where
  /-- The host. -/
  stage : Stage σ
  /-- The session of the supervisor. -/
  session : Option Running := none

namespace Supervisor

variable {σ α : Type}

/-- A step on the host. -/
def onStage (step : Step (Stage σ) α) : Step (Activation σ) α :=
  step.onPart Activation.stage fun activation stage => { activation with stage }

/-- A step on the world. -/
def act (step : Act α) : Step (Activation σ) α := onStage (Stage.act step)

/-- Log a record. -/
def log (level : Log.Level) (message : String) (fields : Log.Fields) : Step (Activation σ) Unit :=
  act (Act.log "lsp.supervisor" level message fields)

/-- Set the session. -/
def setSession (session : Option Running) : Step (Activation σ) Unit :=
  modify fun activation => { activation with session }

/-- The variable that names the directory for temporary files. -/
def tmpdirVar : String := "TMPDIR"

/-- The environment of the server, before the variables of the plan. -/
def serverEnv (supervisor : Supervisor) (machine : Machine) : Assoc String String :=
  Assoc.insert tmpdirVar supervisor.tmpdir machine.env

/-- How the server is started by a plan. -/
def serverOptions (supervisor : Supervisor) (machine : Machine) (spec : LaunchSpec) :
    ServerOptions :=
  { command := spec.command, args := spec.args,
    env := Assoc.insertAll (supervisor.serverEnv machine) spec.env, cwd := supervisor.cwd }

/-- The settings that a session pushes. -/
def pushedSections : List String := ["julia.lint", "julia.format"]

/-- The root of the workspace. -/
def workspaceRoot (supervisor : Supervisor) : String :=
  match supervisor.cwd with
  | none | some "" => "."
  | some dir => dir

/-- How the client talks to the server. -/
def clientOptions (supervisor : Supervisor) : ClientOptions :=
  { root := supervisor.workspaceRoot,
    initializationOptions := supervisor.settings.dump,
    configurationSections := pushedSections,
    settings := some (Config.Settings.valueAt { julia := supervisor.settings }),
    widening := true }

/-- Plan the launch, once the directory of the compiled server is there. -/
def plan (supervisor : Supervisor) : Act LaunchSpec := do
  Launch.ensureRoot supervisor.layout
  supervisor.planner supervisor.layout.storage supervisor.layout.extension

/-- Compile the server. -/
def compile (supervisor : Supervisor) : Act Unit := do
  Launch.ensureRoot supervisor.layout
  Launch.compile supervisor.host supervisor.layout

/-- Log a failure and show it to the user. -/
def reportFailure (supervisor : Supervisor) (message : String) (failure : Failure) :
    Step (Activation σ) Unit := do
  log .error message [("error", Log.text failure.message)]
  act (supervisor.host.showMessage failure.describe .error)

/-- Make a client by a plan and register it; no session if the server does not start. -/
def registerBy (supervisor : Supervisor) (kind : SessionKind σ) (spec : LaunchSpec) :
    Step (Activation σ) (Option Running) := do
  let server := supervisor.serverOptions (← get).stage.world.desk.machine spec
  let client ← onStage (Stage.withClients (kind.create server supervisor.clientOptions))
  match ← (onStage (Registry.register kind.toClientKind client)).attempt with
  | .ok registration => return some ⟨client, registration, false⟩
  | .error failure =>
    match failure with
    | .serverStart _ => do
      supervisor.reportFailure "language server failed to start" failure
      return none
    | failure => throw failure

/-- Plan the launch and register a client; no session if there is nothing to run the server with. -/
def launch (supervisor : Supervisor) (kind : SessionKind σ) :
    Step (Activation σ) (Option (Running × LaunchSpec)) := do
  match ← (act supervisor.plan).attempt with
  | .ok spec => do
    return (← supervisor.registerBy kind spec).map fun session => (session, spec)
  | .error failure =>
    match failure with
    | .configuration _ => do
      supervisor.reportFailure "cannot plan server launch" failure
      return none
    | failure => throw failure

/-- Connect a session that was registered. -/
def connect (kind : SessionKind σ) (session : Running) (spec : LaunchSpec) :
    Step (Activation σ) Nat := do
  setSession (some session)
  -- from here on the extension stops the session when it is torn down
  onStage (Stage.modifyRegistry fun registry => registry.keep session.registration)
  onStage (Stage.withClients (kind.awaitReady session.client))
  onStage (Stage.withClients (kind.serveTexts session.client))
  setSession (some { session with serving := true })
  log .info "session started" [("precompiled", .json (.bool spec.precompiled))]
  return session.client

/-- Start the session; no client if the settings disable the server or it could not be started. -/
def start (supervisor : Supervisor) (kind : SessionKind σ) : Step (Activation σ) (Option Nat) := do
  if !supervisor.settings.enabled then
    log .info "language server disabled by configuration" []
    return none
  match (← get).session with
  -- there is a session already
  | some session => return some session.client
  | none => do
    let timer ← act (Act.startTimer "lsp.supervisor" "start" [])
    let outcome ← (supervisor.launch kind).attempt
    -- the measurement ends however the launch ends
    act (Act.stopTimer timer)
    match ← Step.ofExcept outcome with
    | none => return none
    | some (session, spec) => return some (← connect kind session spec)

/-- Give the session back to the host, which stops it. -/
def dispose (kind : SessionKind σ) : Step (Activation σ) Unit := do
  match (← get).session with
  | none => return
  | some session => do
    if session.serving then
      onStage (Stage.withClients (kind.refuseTexts session.client))
    -- forgotten before it is stopped, so that a failure leaves no session behind
    setSession none
    onStage (Stage.modifyRegistry fun registry => registry.release session.registration)
    onStage (Registry.dispose kind.toClientKind session.registration)

end Supervisor

end JuliaSession
