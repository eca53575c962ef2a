import JuliaSession.World

/-!
# Registered clients

The host's registry of language clients and the disposables it hands out. Registering a client
starts it; the disposable that comes back stops the client that is registered under the same id when
it is disposed. Disposables may be put on the extension's list of subscriptions, which are torn down
together, the last one first.

Clients are referred to by number. A `ClientKind` says what such a number means: how a client is
started and stopped.
-/

namespace JuliaSession

/-- What the host can do with clients; `σ` is what is known of them. -/
structure ClientKind (σ : Type) where
  /-- The id of a client. -/
  id : σ → Nat → String
  /-- Start a client. -/
  start : Nat → Step (World × σ) Unit
  /-- Stop a client. -/
  stop : Nat → Step (World × σ) Unit

/-- What happens when a disposable is disposed. -/
inductive Teardown where
  /-- The client that is registered under an id is taken out and stopped. -/
  | unregister (id : String)
  /-- Something of the host is disposed, which may fail. -/
  | foreign (name : String) (fault : Option Failure)
  deriving DecidableEq

/-- The registered clients and the disposables. -/
structure Registry where
  /-- The registered clients by their id, in the order of registration. -/
  clients : Assoc String Nat := []
  /-- The disposables that were handed out; one that is disposed has no teardown any more. -/
  disposables : List (Option Teardown) := []
  /-- The disposables that are torn down with the extension. -/
  subscriptions : List Nat := []
  deriving Inhabited

/-- The host with its clients. -/
structure Stage (σ : Type) where
  /-- The world. -/
  world : World
  /-- What is known of the clients. -/
  clients : σ
  /-- The registry. -/
  registry : Registry := {}

namespace Stage

variable {σ α : Type}

/-- A step on the world. -/
def act (step : Act α) : Step (Stage σ) α :=
  step.onPart Stage.world fun stage world => { stage with world }

/-- A step on the world and the clients. -/
def withClients (step : Step (World × σ) α) : Step (Stage σ) α :=
  step.onPart (fun stage => (stage.world, stage.clients))
    fun stage (world, clients) => { stage with world, clients }

/-- Change the registry. -/
def modifyRegistry (change : Registry → Registry) : Step (Stage σ) Unit :=
  modify fun stage => { stage with registry := change stage.registry }

end Stage

namespace Registry

/-- The registered client with an id. -/
def get? (registry : Registry) (id : String) : Option Nat := Assoc.get? id registry.clients

/-- The ids of the registered clients. -/
def ids (registry : Registry) : List String := Assoc.keys registry.clients

/-- Is a disposable disposed? -/
def isDisposed (registry : Registry) (handle : Nat) : Bool :=
  match registry.disposables[handle]? with
  | some (some _) => false
  | _ => true

/-- Hand out a disposable. -/
def handOut (registry : Registry) (teardown : Teardown) : Nat × Registry :=
  (registry.disposables.length,
    { registry with disposables := registry.disposables ++ [some teardown] })

/-- Put a disposable on the list of subscriptions. -/
def keep (registry : Registry) (handle : Nat) : Registry :=
  { registry with subscriptions := registry.subscriptions ++ [handle] }

/-- Take a disposable off the list of subscriptions. -/
def release (registry : Registry) (handle : Nat) : Registry :=
  { registry with subscriptions := registry.subscriptions.erase handle }

/-- Enter a client under its id. -/
def enter (registry : Registry) (id : String) (client : Nat) : Registry :=
  { registry with clients := Assoc.insert id client registry.clients }

/-- Take the client with an id out. -/
def leave (registry : Registry) (id : String) : Registry :=
  { registry with clients := Assoc.erase id registry.clients }

/-- Take the teardown of a disposable out, so that it happens once. -/
def disarm (registry : Registry) (handle : Nat) : Registry :=
  { registry with disposables := registry.disposables.set handle none }

variable {σ : Type}

/-- Log a record about a client. -/
def note (level : Log.Level) (message id : String) : Step (Stage σ) Unit :=
  Stage.act (Act.log "host.context" level message [("client_id", Log.text id)])

/-- Start a client and enter it; a client that does not start is not entered. The result is the
disposable that stops it. -/
def register (kind : ClientKind σ) (client : Nat) : Step (Stage σ) Nat := do
  let id := kind.id (← get).clients client
  if ((← get).registry.get? id).isSome then
    throw (.registration ("language client " ++ Text.quoted id ++ " is already registered"))
  -- the id is taken while the client starts, so that nobody else takes it
  Stage.modifyRegistry fun registry => registry.enter id client
  match ← (Stage.withClients (kind.start client)).attempt with
  | .error failure => do
    Stage.modifyRegistry fun registry => registry.leave id
    throw failure
  | .ok () => do
    note .info "registered language client" id
    let (handle, registry) := (← get).registry.handOut (.unregister id)
    Stage.modifyRegistry fun _ => registry
    return handle

/-- Take the client with an id out and stop it. -/
def unregister (kind : ClientKind σ) (id : String) : Step (Stage σ) Unit := do
  match (← get).registry.get? id with
  | none => return
  | some client => do
    Stage.modifyRegistry fun registry => registry.leave id
    -- the client is out of the registry already, even if stopping it fails
    Stage.withClients (kind.stop client)
    note .info "unregistered language client" id

/-- Carry out a teardown. -/
def tearDown (kind : ClientKind σ) : Teardown → Step (Stage σ) Unit
  | .unregister id => unregister kind id
  | .foreign name fault => do
    Stage.act (Act.record (.disposed name))
    match fault with
    | none => return
    | some failure => throw failure

/-- Dispose a disposable; nothing happens the second time. -/
def dispose (kind : ClientKind σ) (handle : Nat) : Step (Stage σ) Unit := do
  match (← get).registry.disposables[handle]? with
  | some (some teardown) => do
    -- disarmed before the teardown, which may fail and is not tried again
    Stage.modifyRegistry fun registry => registry.disarm handle
    tearDown kind teardown
  | _ => return

/-- Stop the client with an id; it stays registered. -/
def stop (kind : ClientKind σ) (id : String) : Step (Stage σ) Unit := do
  match (← get).registry.get? id with
  | none => return
  | some client => Stage.withClients (kind.stop client)

/-- Stop the client with an id and start it again. -/
def restart (kind : ClientKind σ) (id : String) : Step (Stage σ) Unit := do
  match (← get).registry.get? id with
  | none => return
  | some client => do
    note .info "restarting language client" id
    Stage.withClients (kind.stop client)
    Stage.withClients (kind.start client)

/-- A step whose failure is handled, unless it is a request to stop. -/
def guarded (step : Step (Stage σ) Unit) (report : Failure → Step (Stage σ) Unit) :
    Step (Stage σ) Unit := do
  match ← step.attempt with
  | .ok () => return
  | .error failure => if failure.isInterruption then throw failure else report failure

/-- Take out and stop the clients with some ids; a failure is logged. -/
def unregisterEach (kind : ClientKind σ) : List String → Step (Stage σ) Unit
  | [] => return
  | id :: rest => do
    guarded (unregister kind id) fun failure =>
      Stage.act (Act.log "host.context" .error "failed to stop language client"
        [("client_id", Log.text id), ("error", Log.text failure.message)])
    unregisterEach kind rest

/-- Take out and stop every client; a failure is logged. -/
def disposeAll (kind : ClientKind σ) : Step (Stage σ) Unit := do
  -- the ids at the start: clients that are entered meanwhile are left alone
  unregisterEach kind (← get).registry.ids

/-- Dispose the last `count` subscriptions, the last one first; a failure is logged. -/
def disposeLast (kind : ClientKind σ) : Nat → Step (Stage σ) Unit
  | 0 => return
  | count + 1 => do
    match (← get).registry.subscriptions.getLast? with
    | none => return
    | some handle => do
      Stage.modifyRegistry fun registry =>
        { registry with subscriptions := registry.subscriptions.dropLast }
      guarded (dispose kind handle) fun failure =>
        Stage.act (Act.log "host.context" .error "failed to dispose subscription"
          [("error", Log.text failure.message)])
      disposeLast kind count

/-- Tear down the extension: dispose all subscriptions. -/
def disposeSubscriptions (kind : ClientKind σ) : Step (Stage σ) Unit := do
  disposeLast kind (← get).registry.subscriptions.length

end Registry

end JuliaSession
