import JuliaSession.Proofs.Client.Runs

/-!
# The requests of a session in use

What the host does with a session, and what the server does on its own, is a run of moves
(`Talk.Reaches`): a handshake sends a request and handles what comes back, stopping sends another
one and takes the process down, and output of the server is handled message by message. So the rules
for requests hold in a session however it is used (`requests_orderly`).
-/

namespace JuliaSession

open Step (Leads)

variable {α : Type}

namespace Talk

/-- Some moves lead from one moment of a session to another. -/
def Reaches (before after : Talk) : Prop := ∃ moves, Runs before moves after

instance : Std.Refl Reaches := ⟨fun talk => ⟨[], .nil talk⟩⟩

instance : Trans Reaches Reaches Reaches :=
  ⟨fun ⟨_, h⟩ ⟨_, h'⟩ => ⟨_, h.append h'⟩⟩

theorem Moves.reaches {before after : Talk} {move : Move} (h : Moves before move after) :
    Reaches before after := ⟨[move], .cons h (.nil after)⟩

theorem reaches_of_sameRequests {step : Dialog α} (h : Leads SameRequests step) :
    Leads Reaches step := h.mono fun hsame => (Moves.other hsame).reaches

end Talk

namespace Dialog

open Talk (Reaches SameRequests reaches_of_sameRequests)

/-! ### Handling what arrives -/

theorem reaches_deliver (message : Json) : Leads Reaches (deliver message) :=
  fun _ => (Talk.Moves.receive message).reaches

theorem reaches_deliverAll (messages : List Json) : Leads Reaches (deliverAll messages) := by
  induction messages with
  | nil => exact .pure _
  | cons message rest ih => exact .bind (reaches_deliver message) fun _ => ih

theorem reaches_endReading : Leads Reaches endReading :=
  fun _ => (Talk.Moves.close ⟨rfl, rfl, rfl, rfl⟩).reaches

theorem reaches_modifySession {change : Session → Session}
    (h : ∀ session : Session, session.client.SameRequests (change session).client) :
    Leads Reaches (modifySession change) :=
  reaches_of_sameRequests (sameRequests_modifySession h)

theorem reaches_session : Leads Reaches session := leads_session

theorem reaches_client : Leads Reaches client := leads_client

theorem reaches_cwd : Leads Reaches cwd := leads_cwd

theorem reaches_act (step : Act α) : Leads Reaches (act step) :=
  reaches_of_sameRequests (sameRequests_act step)

theorem reaches_log (level : Log.Level) (message : String) (more : Log.Fields) :
    Leads Reaches (log level message more) :=
  reaches_of_sameRequests (quiet_sameRequests.log level message more)

theorem reaches_send (messages : List Json) : Leads Reaches (send messages) :=
  reaches_of_sameRequests (sameRequests_send messages)

theorem reaches_notify (method : String) (params : Json) :
    Leads Reaches (notify method params) :=
  reaches_of_sameRequests (sameRequests_notify method params)

theorem reaches_exchangeWithin (rounds : Nat) : Leads Reaches (exchangeWithin rounds) := by
  -- by induction on the number of rounds; a round ends the reading, or it delivers and goes on
  induction rounds with
  | zero => exact .pure _
  | succ rounds ih =>
    refine .bind reaches_session fun _ => ?_
    split
    · exact .pure _
    · refine .bind reaches_session fun _ => ?_
      dsimp only
      refine .bind (reaches_modifySession fun _ => ⟨rfl, rfl, rfl, rfl⟩) fun _ => ?_
      refine .bind (reaches_deliverAll _) fun _ => ?_
      split
      · split
        · exact .pure _
        · exact ih
      · exact reaches_endReading
      · exact .bind (reaches_log _ _ _) fun _ => reaches_endReading

theorem reaches_exchange : Leads Reaches exchange := reaches_exchangeWithin roundLimit

/-! ### Requests -/

theorem reaches_request (method : String) (params : Json) (token : Option Completion.Token) :
    Leads Reaches (request method params token) :=
  leads_request (fun _ => Talk.Moves.reaches (.request method params token ⟨rfl, rfl, rfl, rfl⟩))
    (fun _ => reaches_send _) reaches_exchange

theorem reaches_outcome (id : Nat) : Leads Reaches (outcome id) :=
  leads_outcome fun _ => Talk.Moves.reaches (.pickUp id ⟨rfl, rfl, rfl, rfl⟩)

theorem reaches_cancel (id : Nat) : Leads Reaches (cancel id) :=
  fun _ => (Talk.Moves.cancel id ⟨rfl, rfl, rfl, rfl⟩).reaches

theorem reaches_complete (uri : String) (line character : Int)
    (token : Option Completion.Token) : Leads Reaches (complete uri line character token) :=
  .bind reaches_client fun _ => reaches_request _ _ _

/-- A change of the client that keeps its requests, and what is sent because of it. -/
theorem reaches_update {change : Client → Client × List Json}
    (h : ∀ client : Client, client.SameRequests (change client).1) :
    Leads Reaches (update change) :=
  leads_update (fun talk => Talk.Moves.reaches (.other (h talk.session.client)))
    (fun _ => reaches_send _) reaches_exchange

theorem reaches_forwardFile (path : String) (kind : Int) :
    Leads Reaches (forwardFile path kind) :=
  leads_forwardFile reaches_send reaches_exchange path kind

/-! ### Life of the process -/

theorem reaches_readOut : Leads Reaches readOut := by
  refine .bind reaches_session fun _ => ?_
  split
  · exact .pure _
  · exact reaches_deliverAll _

theorem reaches_kill : Leads Reaches kill := by
  refine .bind (reaches_modifySession fun _ => ⟨rfl, rfl, rfl, rfl⟩) fun _ => ?_
  refine .bind reaches_session fun _ => ?_
  have hlast : Leads Reaches (modifySession fun session =>
      { session with peer := none, reader := none, client := session.client.disconnected }) :=
    fun _ => (Talk.Moves.disconnect ⟨rfl, rfl, rfl, rfl⟩).reaches
  have hrest := Leads.bind (reaches_of_sameRequests quiet_sameRequests.endErrors) fun _ =>
    Leads.bind reaches_readOut fun _ => hlast
  dsimp only
  split
  · exact hrest
  · exact .bind (reaches_act _) fun _ => hrest

theorem reaches_shakeHands : Leads Reaches shakeHands := by
  refine .bind (leads_fields _) fun _ => ?_
  refine .bind (reaches_act _) fun _ => .bind reaches_client fun _ => ?_
  refine .bind reaches_cwd fun _ => .bind (reaches_request _ _ _) fun _ => ?_
  refine .bind (reaches_outcome _) fun _ => .bind (reaches_act _) fun _ => ?_
  refine .bind reaches_client fun _ => ?_
  dsimp only
  split
  · exact .bind reaches_kill fun _ => .throw _
  · exact .bind reaches_kill fun _ => .throw _
  · exact reaches_modifySession fun _ => ⟨rfl, rfl, rfl, rfl⟩

theorem reaches_begin : Leads Reaches begin := by
  refine .bind (reaches_notify _ _) fun _ => .bind reaches_client fun _ => ?_
  refine .bind (.ofExcept _) fun _ => .bind (reaches_send _) fun _ => ?_
  refine .bind reaches_exchange fun _ => ?_
  refine .bind (reaches_modifySession fun _ => ⟨rfl, rfl, rfl, rfl⟩) fun _ => ?_
  exact reaches_log _ _ _

theorem reaches_start : Leads Reaches start := by
  refine .bind reaches_session fun _ => ?_
  dsimp only
  split
  · exact .pure _
  · refine .bind (reaches_modifySession fun _ => ⟨rfl, rfl, rfl, rfl⟩) fun _ => ?_
    refine .bind reaches_session fun _ => .bind reaches_session fun _ => ?_
    refine .bind (reaches_act _) fun _ => ?_
    refine .bind (reaches_modifySession fun _ => ⟨rfl, rfl, rfl, rfl⟩) fun _ => ?_
    have hconnect : Leads Reaches (modifySession fun session =>
        { session with
          reader := some {}, errLine := [],
          client := { session.client with connected := true } }) :=
      reaches_modifySession fun _ => ⟨rfl, rfl, rfl, rfl⟩
    -- the rest of the start stands behind both branches, though after the failure it is not reached
    have hopen := Leads.bind hconnect fun _ => .bind reaches_shakeHands fun _ => reaches_begin
    split
    · exact .bind reaches_kill fun _ => .bind reaches_client fun _ =>
        .bind (.throw _) fun _ => hopen
    · exact hopen

theorem reaches_askToShutDown : Leads Reaches askToShutDown := by
  refine .bind (reaches_request _ _ _) fun _ => .bind (reaches_outcome _) fun _ => ?_
  split
  · exact reaches_notify _ _
  · exact reaches_log _ _ _
  · exact reaches_log _ _ _

theorem reaches_stop : Leads Reaches stop := by
  refine .bind reaches_session fun _ => ?_
  dsimp only
  split
  · exact .pure _
  · have hunready : Leads Reaches (modifyClient fun client => { client with ready := false }) :=
      reaches_modifySession fun _ => ⟨rfl, rfl, rfl, rfl⟩
    have hdown := Leads.bind hunready fun _ =>
      .bind reaches_kill fun _ => reaches_log .info "stopped" []
    refine .bind (reaches_log _ _ _) fun _ => .bind reaches_client fun _ => ?_
    refine .bind reaches_session fun _ => ?_
    split
    · exact .bind reaches_askToShutDown fun _ => hdown
    · exact hdown

theorem reaches_waitClosed : Leads Reaches waitClosed := leads_waitClosed (reaches_act _)

/-! ### What the server does on its own -/

theorem reaches_takeIn (arrival : Arrival) : Leads Reaches (takeIn arrival) :=
  reaches_of_sameRequests (quiet_sameRequests.takeIn arrival)

theorem reaches_serverWrites (bytes : Text.Utf8.Bytes) : Leads Reaches (serverWrites bytes) :=
  leads_serverWrites (reaches_takeIn _) reaches_exchange

theorem reaches_serverReports (bytes : Text.Utf8.Bytes) :
    Leads Reaches (serverReports bytes) := leads_serverReports (reaches_takeIn _)

theorem reaches_serverExits (code : Int) : Leads Reaches (serverExits code) :=
  leads_serverExits (reaches_modifySession fun _ => ⟨rfl, rfl, rfl, rfl⟩)
    (reaches_of_sameRequests quiet_sameRequests.endErrors) reaches_exchange

end Dialog

/-! ### Sessions in use -/

/-- What is done with a session, by the host or by the server. -/
inductive Use where
  /-- The server is started. -/
  | start
  /-- The server is stopped. -/
  | stop
  /-- The host waits until the server is ready. -/
  | awaitReady
  /-- The host waits for the process to end. -/
  | waitClosed
  /-- A request is sent. -/
  | request (method : String) (params : Json)
  /-- Completions are requested at a place of a document. -/
  | complete (uri : String) (line character : Int) (token : Option Completion.Token)
  /-- The outcome of a request is picked up. -/
  | pickUp (id : Nat)
  /-- A request is given up. -/
  | cancel (id : Nat)
  /-- The server is notified. -/
  | notify (method : String) (params : Json)
  /-- A document is opened. -/
  | openDocument (document : Document)
  /-- A document changes. -/
  | changeDocument (document : Document)
  /-- A document is closed. -/
  | closeDocument (uri : String)
  /-- A file changes. -/
  | forwardFile (path : String) (kind : Int)
  /-- A handler is registered. -/
  | subscribe (method : String) (handler : Handler)
  /-- A handler is taken back. -/
  | unsubscribe (method : String) (handler : Handler)
  /-- A message of the server is handled. -/
  | deliver (message : Json)
  /-- The server writes to its output. -/
  | serverWrites (bytes : Text.Utf8.Bytes)
  /-- The server writes to its error output. -/
  | serverReports (bytes : Text.Utf8.Bytes)
  /-- The server process ends. -/
  | serverExits (code : Int)

/-- What the session does when it is used. -/
def Use.dialog : Use → Dialog Unit
  | .start => Dialog.start
  | .stop => Dialog.stop
  | .awaitReady => Dialog.awaitReady
  | .waitClosed => do let _ ← Dialog.waitClosed
  | .request method params => do let _ ← Dialog.request method params none
  | .complete uri line character token => do let _ ← Dialog.complete uri line character token
  | .pickUp id => do let _ ← Dialog.outcome id
  | .cancel id => Dialog.cancel id
  | .notify method params => Dialog.notify method params
  | .openDocument document => Dialog.update fun client => client.openDocument document
  | .changeDocument document => Dialog.update fun client => client.changeDocument document
  | .closeDocument uri => Dialog.update fun client => client.closeDocument uri
  | .forwardFile path kind => do let _ ← Dialog.forwardFile path kind
  | .subscribe method handler => Dialog.modifyClient fun client => client.subscribe method handler
  | .unsubscribe method handler =>
    Dialog.modifyClient fun client => client.unsubscribe method handler
  | .deliver message => Dialog.deliver message
  | .serverWrites bytes => Dialog.serverWrites bytes
  | .serverReports bytes => Dialog.serverReports bytes
  | .serverExits code => Dialog.serverExits code

namespace Client

theorem sameRequests_openDocument (client : Client) (document : Document) :
    client.SameRequests (client.openDocument document).1 := by
  unfold openDocument
  split <;> exact ⟨rfl, rfl, rfl, rfl⟩

theorem sameRequests_changeDocument (client : Client) (document : Document) :
    client.SameRequests (client.changeDocument document).1 := by
  unfold changeDocument
  split
  · exact ⟨rfl, rfl, rfl, rfl⟩
  · exact sameRequests_openDocument client document

theorem sameRequests_closeDocument (client : Client) (uri : String) :
    client.SameRequests (client.closeDocument uri).1 := by
  unfold closeDocument
  split <;> exact ⟨rfl, rfl, rfl, rfl⟩

theorem sameRequests_unsubscribe (client : Client) (method : String) (handler : Handler) :
    client.SameRequests (client.unsubscribe method handler) := by
  unfold unsubscribe
  split
  · split <;> exact ⟨rfl, rfl, rfl, rfl⟩
  · exact ⟨rfl, rfl, rfl, rfl⟩

end Client

namespace Talk

/-- Whatever is done with a session is a run of moves. -/
theorem reaches_use (use : Use) : Leads Reaches use.dialog := by
  cases use with
  | start => exact Dialog.reaches_start
  | stop => exact Dialog.reaches_stop
  | awaitReady => exact Dialog.leads_awaitReady
  | waitClosed => exact .bind Dialog.reaches_waitClosed fun _ => .pure _
  | request method params => exact .bind (Dialog.reaches_request _ _ _) fun _ => .pure _
  | complete uri line character token =>
    exact .bind (Dialog.reaches_complete _ _ _ _) fun _ => .pure _
  | pickUp id => exact .bind (Dialog.reaches_outcome id) fun _ => .pure _
  | cancel id => exact Dialog.reaches_cancel id
  | notify method params => exact Dialog.reaches_notify method params
  | openDocument document =>
    exact Dialog.reaches_update fun client => client.sameRequests_openDocument document
  | changeDocument document =>
    exact Dialog.reaches_update fun client => client.sameRequests_changeDocument document
  | closeDocument uri =>
    exact Dialog.reaches_update fun client => client.sameRequests_closeDocument uri
  | forwardFile path kind => exact .bind (Dialog.reaches_forwardFile _ _) fun _ => .pure _
  | subscribe method handler => exact Dialog.reaches_modifySession fun _ => ⟨rfl, rfl, rfl, rfl⟩
  | unsubscribe method handler =>
    exact Dialog.reaches_modifySession fun session =>
      session.client.sameRequests_unsubscribe method handler
  | deliver message => exact Dialog.reaches_deliver message
  | serverWrites bytes => exact Dialog.reaches_serverWrites bytes
  | serverReports bytes => exact Dialog.reaches_serverReports bytes
  | serverExits code => exact Dialog.reaches_serverExits code

/-- A session after it was used in some ways, each of which may have failed. -/
def after (talk : Talk) (uses : List Use) : Talk :=
  uses.foldl (fun talk use => (use.dialog.perform talk).2) talk

theorem after_append (talk : Talk) (uses later : List Use) :
    talk.after (uses ++ later) = (talk.after uses).after later := List.foldl_append

theorem after_concat (talk : Talk) (uses : List Use) (use : Use) :
    talk.after (uses ++ [use]) = (use.dialog.perform (talk.after uses)).2 := by
  rw [after_append]
  rfl

theorem reaches_after (talk : Talk) (uses : List Use) : Reaches talk (talk.after uses) := by
  induction uses generalizing talk with
  | nil => exact ⟨[], .nil talk⟩
  | cons use rest ih => exact Trans.trans (reaches_use use talk) (ih _)

/-- A session with a server that answers as it should. -/
def rehearsed : Talk :=
  ⟨default,
    { client := { id := "julia", name := "Julia", options := { root := "/" } }
      server := default
      launch := Peer.pretend (.ok { engine := .rehearsed [] }) }⟩

/-- A new session keeps to the rules for requests over all runs of moves, in whatever order requests
are sent, messages arrive, the connection closes and the process goes; and however the session is
used, what happens to its requests is such a run. -/
theorem requests_orderly (id name : String) (options : ClientOptions) (server : ServerOptions)
    (launch : ServerOptions → Act Peer) (world : World) :
    let talk : Talk := ⟨world, { client := { id, name, options }, server, launch }⟩
    Orderly talk ∧ ∀ uses : List Use, ∃ moves, Runs talk moves (talk.after uses) :=
  ⟨Idle.orderly ⟨rfl, rfl⟩, fun uses => reaches_after _ uses⟩

/-- Two requests are answered in the other order, one under the id `true`; a second answer and an
answer to nobody change nothing. -/
example :
    let answer (id : Json) (value : Int) : Json := .obj [("id", id), ("result", .int value)]
    let talk : Talk := ⟨default,
      { client := { id := "julia", name := "Julia", options := default }, server := default,
        launch := fun _ => throw .timedOut }⟩
    let talk := talk.after [.request "a" .null, .request "b" .null, .deliver (answer (.int 2) 20),
      .deliver (answer (.bool true) 10), .deliver (answer (.int 2) 21),
      .deliver (answer (.int 9) 90)]
    talk.outcome? 1 = some (.ok (.int 10)) ∧ talk.outcome? 2 = some (.ok (.int 20)) ∧
      talk.session.client.pending = [] := by
  refine ⟨?_, ?_, ?_⟩ <;> rfl

end Talk

end JuliaSession
