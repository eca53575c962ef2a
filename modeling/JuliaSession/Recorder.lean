import JuliaSession.Supervisor

/-!
# Recorders

Clients that only write down what is asked of them, and fail as they are told to. They stand in for
language clients where only the host's side of a session matters.
-/

namespace JuliaSession

/-- A client that writes down what is asked of it. -/
structure Recorder where
  /-- Its id. -/
  id : String
  /-- What starting it fails with. -/
  startFault : Option Failure := none
  /-- What stopping it fails with. -/
  stopFault : Option Failure := none
  /-- Does it answer requests for whole texts? -/
  serving : Bool := false
  deriving Inhabited

/-- The recorders that were made. -/
structure Recorders where
  /-- What the next one is going to be like. -/
  model : Recorder
  /-- The recorders, in the order in which they were made. -/
  made : List Recorder := []
  deriving Inhabited

namespace Recorders

/-- A recorder by its number. -/
def at? (recorders : Recorders) (client : Nat) : Recorder :=
  (recorders.made[client]?).getD recorders.model

/-- Change a recorder. -/
def update (recorders : Recorders) (client : Nat) (change : Recorder → Recorder) : Recorders :=
  { recorders with made := recorders.made.modify client change }

/-- Write down an event. -/
def record (event : Event) : Step (World × Recorders) Unit :=
  (Act.record event).onPart Prod.fst fun state world => (world, state.2)

/-- Change the recorders. -/
def modifyAll (change : Recorders → Recorders) : Step (World × Recorders) Unit :=
  modify fun (world, recorders) => (world, change recorders)

/-- Make a recorder. -/
def make (recorder : Recorder) : Step (World × Recorders) Nat := do
  let (_, recorders) ← get
  modifyAll fun recorders => { recorders with made := recorders.made ++ [recorder] }
  return recorders.made.length

/-- Fail with a fault, if there is one. -/
def failWith : Option Failure → Step (World × Recorders) Unit
  | none => return
  | some failure => throw failure

/-- Recorders as clients of the host. -/
def kind : SessionKind Recorders where
  id recorders client := (recorders.at? client).id
  start client := do
    let recorder := (← get).2.at? client
    record (.start recorder.id)
    failWith recorder.startFault
  stop client := do
    let recorder := (← get).2.at? client
    record (.stop recorder.id)
    failWith recorder.stopFault
  create server options := do
    record (.create server)
    record (.options options)
    make (← get).2.model
  awaitReady client := do record (.awaitReady ((← get).2.at? client).id)
  serveTexts client := do
    record (.subscribe DocumentStore.fullTextRequest)
    modifyAll fun recorders => recorders.update client fun r => { r with serving := true }
  refuseTexts client := do
    record (.unsubscribe DocumentStore.fullTextRequest)
    modifyAll fun recorders => recorders.update client fun r => { r with serving := false }

/-- Let the newest recorder handle a request for a whole text; nothing happens, and the result is
false, when it does not answer such requests. -/
def requestText (params : Json) : Step (World × Recorders) Bool := do
  if ((← get).2.made.getLast?).any Recorder.serving then
    match ← (FullText.answer params).onPart Prod.fst fun state world => (world, state.2) with
    | none => return true
    | some answer => do
      record (.notify DocumentStore.fullTextAnswer answer)
      return true
  else return false

end Recorders

end JuliaSession
