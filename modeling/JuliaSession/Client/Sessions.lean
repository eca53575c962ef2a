import JuliaSession.Client.Session
import JuliaSession.Supervisor

/-!
# Sessions as clients of the host

The language clients of the host, referred to by number, and what the supervisor does with them.
-/

namespace JuliaSession

/-- The sessions that were made, in order. -/
abbrev Sessions := List Session

namespace Sessions

variable {α : Type}

/-- A step of the session with a number. -/
def within (client : Nat) (dialog : Dialog α) : Step (World × Sessions) α := do
  match (← get).2[client]? with
  | none => throw (.missingKey (toString client))
  | some session =>
    dialog.onPart (fun (world, _) => ⟨world, session⟩)
      fun (_, sessions) talk => (talk.world, sessions.set client talk.session)

/-- What the host calls the client of the extension. -/
def clientId : String := "julia"

/-- What the user calls it. -/
def clientName : String := "Julia Language Server"

/-- The handler that answers requests for whole texts. -/
def textHandler : Handler := ⟨0, .fullText⟩

/-- Sessions as clients of the host; their servers are programs. -/
def kind : SessionKind Sessions where
  id sessions client := (sessions[client]?).elim "" fun session => session.client.id
  start client := within client Dialog.start
  stop client := within client Dialog.stop
  create server options := do
    let (world, sessions) ← get
    let session : Session :=
      { client := { id := clientId, name := clientName, options }, server, launch := Peer.launch }
    set (world, sessions ++ [session])
    return sessions.length
  awaitReady client := within client Dialog.awaitReady
  serveTexts client := within client
    (Dialog.modifyClient fun c => c.subscribe DocumentStore.fullTextRequest textHandler)
  refuseTexts client := within client
    (Dialog.modifyClient fun c => c.unsubscribe DocumentStore.fullTextRequest textHandler)

end Sessions

end JuliaSession
