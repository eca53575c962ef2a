import JuliaSession.Proofs.Client.Frames

/-!
# What a session upholds

A property of a session that holds however its streams are read and its requests end, and that does
not mind requests being sent while they may be answered, is upheld by every use of the session. Most
steps keep such a property (`Talk.Keeps`); a step that sends a request first needs that the property
holds whatever the client waits for (`Talk.Secures`).

* `Dialog.Upholds`: what a property has to be kept by.
* `Dialog.Upholds.use`: then every use of a session upholds it.
-/

namespace JuliaSession

open Step (Leads)
open Text.Utf8 (Bytes)

variable {α β : Type}

namespace Client

/-- No request starts to wait. -/
def Fewer (before after : Client) : Prop :=
  ∀ id, Assoc.get? id before.pending = none → Assoc.get? id after.pending = none

theorem SameRequests.fewer {before after : Client} (h : before.SameRequests after) :
    before.Fewer after := fun id hnone => by rw [h.pending, hnone]

theorem fewer_settle (client : Client) (id : Nat) (outcome : Except Failure Json) :
    client.Fewer (client.settle id outcome) := by
  intro other hnone
  rw [pending_settle, hnone, ite_self]

theorem fewer_withdraw (client : Client) (id : Nat) :
    client.Fewer ((client.collect id).2.withdraw id) := by
  intro other hnone
  refine (Assoc.get?_erase id other client.pending).trans ?_
  rw [hnone, ite_self]

end Client

namespace Talk

/-- The session is the same. -/
def SameSession (before after : Talk) : Prop := after.session = before.session

instance : Std.Refl SameSession := ⟨fun _ => rfl⟩

instance : Trans SameSession SameSession SameSession := ⟨fun h h' => h'.trans h⟩

/-- A property of the session is kept. -/
def Keeps (holds : Session → Prop) (before after : Talk) : Prop :=
  holds before.session → holds after.session

instance (holds : Session → Prop) : Std.Refl (Keeps holds) := ⟨fun _ h => h⟩

instance (holds : Session → Prop) : Trans (Keeps holds) (Keeps holds) (Keeps holds) :=
  ⟨fun h h' hbefore => h' (h hbefore)⟩

/-- A property of the session holds afterwards if it held before whatever the client waited for. -/
def Secures (holds : Session → Prop) (before after : Talk) : Prop :=
  (∀ client, holds { before.session with client }) → holds after.session

theorem Keeps.secures {holds : Session → Prop} {before after : Talk}
    (h : Keeps holds before after) : Secures holds before after :=
  fun hbefore => h (hbefore before.session.client)

end Talk

namespace Dialog

open Talk (SameSession Keeps Secures)

theorem sameSession_act (step : Act α) : Leads SameSession (act step) := fun _ => rfl

theorem sameSession_log (level : Log.Level) (text : String) (more : Log.Fields) :
    Leads SameSession (log level text more) :=
  .bind (leads_fields more) fun _ => sameSession_act _

/-- A property of sessions that is kept when requests end, whatever is read of the process, and when
the process comes and goes. -/
structure Upholds (holds : Session → Prop) : Prop where
  /-- The client changes, but no request starts to wait. -/
  client {session : Session} {client : Client} (h : session.client.Fewer client)
    (hbefore : holds session) : holds { session with client }
  /-- A process is held. -/
  hold {session : Session} (peer : Peer) (hbefore : holds session) :
    holds { session with peer := some peer }
  /-- The process ends. -/
  exit {session : Session} (code : Int) (hbefore : holds session) :
    holds { session with peer := session.peer.map fun peer => peer.exited code }
  /-- Output of the process is kept, while there is a reader for it. -/
  feed {session : Session} (bytes : Bytes) (hbefore : holds session) :
    holds { session with reader := session.reader.map fun reader => reader.feed bytes }
  /-- The messages that have come are taken out of the output. -/
  drain {session : Session} {reader : Reader} (h : session.reader = some reader) (rest : Reader)
    (hbefore : holds session) : holds { session with reader := some rest }
  /-- Error output of the process is kept. -/
  errLine {session : Session} (line : Bytes) (hbefore : holds session) :
    holds { session with errLine := line }
  /-- The client is connected to the process. -/
  connect {session : Session} {peer : Peer} (h : session.peer = some peer) (client : Client) :
    holds { session with reader := some {}, errLine := [], client }
  /-- The output has ended, and no request waits. -/
  ended {session : Session} {client : Client} (h : ∀ id, Assoc.get? id client.pending = none)
    (hbefore : holds session) : holds { session with reader := none, client }
  /-- The process is gone, and no request waits. -/
  gone {session : Session} {client : Client} (h : ∀ id, Assoc.get? id client.pending = none)
    (hbefore : holds session) : holds { session with peer := none, reader := none, client }

namespace Upholds

variable {holds : Session → Prop} (h : Upholds holds)
include h

/-! ### Steps that keep the property -/

theorem reads : Reads (Keeps holds) where
  emit _ _ _ _ _ hbefore := hbefore
  accept _ _ _ hbefore := hbefore
  hold _ peer := h.hold peer
  feed _ bytes := h.feed bytes
  errLine _ line := h.errLine line
  settle id outcome talk := h.client (talk.session.client.fewer_settle id outcome)
  sent _ _ hbefore := hbefore
  handled _ _ _ hbefore := hbefore
  drain hreader rest := h.drain hreader rest
  ended _ := h.ended fun id => Client.pending_settleAll _ id _
  exit _ code := h.exit code

omit h in
theorem act (step : Act α) : Leads (Keeps holds) (act step) := fun _ hbefore => hbefore

theorem modifyClient {change : Client → Client}
    (hchange : ∀ client : Client, client.Fewer (change client)) :
    Leads (Keeps holds) (modifyClient change) :=
  fun talk => h.client (hchange talk.session.client)

theorem send (messages : List Json) : Leads (Keeps holds) (send messages) :=
  h.reads.send fun _ _ => act _

theorem notify (method : String) (params : Json) : Leads (Keeps holds) (notify method params) :=
  h.reads.notify (act _)

theorem outcome (id : Nat) : Leads (Keeps holds) (outcome id) :=
  leads_outcome (h.modifyClient fun client => client.fewer_withdraw id)

theorem cancel (id : Nat) : Leads (Keeps holds) (cancel id) :=
  h.modifyClient fun client => client.fewer_settle id _

theorem update {change : Client → Client × List Json}
    (hchange : ∀ client : Client, client.Fewer (change client).1) :
    Leads (Keeps holds) (update change) :=
  leads_update (h.modifyClient hchange) (fun _ => h.send _) h.reads.exchange

theorem forwardFile (path : String) (kind : Int) :
    Leads (Keeps holds) (forwardFile path kind) :=
  leads_forwardFile h.send h.reads.exchange path kind

theorem kill : Leads (Keeps holds) kill := by
  refine .bind (h.modifyClient fun _ _ hnone => hnone) fun _ => .bind leads_session fun _ => ?_
  -- the process is let go together with the requests that wait, whether or not it had to be killed
  have hlast : Leads (Keeps holds) (modifySession fun session =>
      { session with peer := none, reader := none, client := session.client.disconnected }) :=
    fun _ => h.gone fun id => Client.pending_settleAll _ id _
  have hrest := Leads.bind h.reads.endErrors fun _ => .bind h.reads.readOut fun _ => hlast
  dsimp only
  split
  · exact hrest
  · exact .bind (act _) fun _ => hrest

theorem begin : Leads (Keeps holds) begin := by
  refine .bind (h.notify _ _) fun _ => .bind leads_client fun _ => .bind (.ofExcept _) fun _ => ?_
  refine .bind (h.send _) fun _ => .bind h.reads.exchange fun _ => ?_
  exact .bind (h.modifyClient fun _ _ hnone => hnone) fun _ => h.reads.log _ _ _

/-! ### Requests -/

omit h in
/-- What does not touch the session may come first. -/
theorem after_sameSession {step : Dialog α} {next : α → Dialog β} (hstep : Leads SameSession step)
    (hnext : ∀ value, Leads (Secures holds) (next value)) :
    Leads (Secures holds) (step >>= next) := by
  refine hstep.bind_of hnext ?_ ?_
  · intro before after hsame hbefore
    rw [hsame]
    exact hbefore before.session.client
  · intro before between after hsame hrest hbefore
    exact hrest (hsame ▸ hbefore)

omit h in
/-- What keeps the property may come afterwards. -/
theorem before_keeps {step : Dialog α} {next : α → Dialog β} (hstep : Leads (Secures holds) step)
    (hnext : ∀ value, Leads (Keeps holds) (next value)) :
    Leads (Secures holds) (step >>= next) :=
  hstep.bind_of hnext (fun hfirst => hfirst) fun hfirst hrest hbefore => hrest (hfirst hbefore)

theorem request (method : String) (params : Json) (token : Option Completion.Token) :
    Leads (Secures holds) (request method params token) := by
  intro talk hbefore
  unfold Dialog.request
  rw [Step.perform_bind_ok (perform_client talk)]
  dsimp only
  rw [Step.perform_bind_ok (perform_modifyClient _ talk)]
  exact Leads.bind (h.send _) (fun _ => .bind h.reads.exchange fun _ => .pure _) _ (hbefore _)

theorem complete (uri : String) (line character : Int) (token : Option Completion.Token) :
    Leads (Secures holds) (complete uri line character token) :=
  after_sameSession leads_client fun _ => h.request _ _ _

theorem shakeHands : Leads (Secures holds) shakeHands := by
  refine after_sameSession (leads_fields _) fun _ => ?_
  refine after_sameSession (sameSession_act _) fun _ => ?_
  refine after_sameSession leads_client fun _ => after_sameSession leads_cwd fun _ => ?_
  refine before_keeps (h.request _ _ _) fun _ => ?_
  refine .bind (h.outcome _) fun _ => .bind (act _) fun _ => .bind leads_client fun _ => ?_
  dsimp only
  split
  · exact .bind h.kill fun _ => .throw _
  · exact .bind h.kill fun _ => .throw _
  · exact h.modifyClient fun _ _ hnone => hnone

theorem askToShutDown : Leads (Secures holds) askToShutDown := by
  refine before_keeps (h.request _ _ _) fun _ => .bind (h.outcome _) fun _ => ?_
  split
  · exact h.notify _ _
  · exact h.reads.log _ _ _
  · exact h.reads.log _ _ _

/-! ### Life of the process -/

/-- The client is connected to the process before it sends its first request. -/
theorem connect_shakeHands {talk : Talk} {peer : Peer} (hpeer : talk.session.peer = some peer) :
    holds (((modifySession fun session =>
        { session with
          reader := some {}, errLine := [],
          client := { session.client with connected := true } }) >>= fun _ =>
      Dialog.shakeHands >>= fun _ => Dialog.begin).perform talk).2.session :=
  before_keeps h.shakeHands (fun _ => h.begin)
    { talk with session :=
        { talk.session with
          reader := some {}, errLine := [],
          client := { talk.session.client with connected := true } } }
    (h.connect hpeer)

theorem start : Leads (Keeps holds) start := by
  refine .bind leads_session fun _ => ?_
  dsimp only
  split
  · exact .pure _
  · refine .bind (h.modifyClient fun _ _ hnone => hnone) fun _ => .bind leads_session fun _ => ?_
    refine .bind leads_session fun _ => .bind (act _) fun peer => ?_
    intro talk hbefore
    have hheld := h.hold peer hbefore
    -- a process without streams is taken down, any other one is connected to
    rw [modifySession, Step.perform_modify_bind]
    split
    · exact Leads.bind h.kill (fun _ => .bind leads_client fun _ => .throw_bind _ _) _ hheld
    · exact h.connect_shakeHands rfl

theorem stop : Leads (Secures holds) stop := by
  refine after_sameSession leads_session fun _ => ?_
  dsimp only
  split
  · exact fun _ hbefore => hbefore _
  -- the property holds again when the process is killed, whatever was asked of the server before
  · have hunready : Leads (Keeps holds)
        (Dialog.modifyClient fun client => { client with ready := false }) :=
      h.modifyClient fun _ _ hnone => hnone
    have hdown := Leads.bind hunready fun _ =>
      .bind h.kill fun _ => h.reads.log .info "stopped" []
    refine after_sameSession (sameSession_log _ _ _) fun _ => ?_
    refine after_sameSession leads_client fun _ => after_sameSession leads_session fun _ => ?_
    split
    · exact before_keeps h.askToShutDown fun _ => hdown
    · exact hdown.mono Keeps.secures

/-! ### Uses -/

/-- Every use of a session upholds the property. -/
theorem use (use : Use) : Leads (Secures holds) use.dialog := by
  cases use with
  | start => exact h.start.mono Keeps.secures
  | stop => exact h.stop
  | awaitReady => exact leads_awaitReady.mono Keeps.secures
  | waitClosed => exact (Leads.bind (leads_waitClosed (act _)) fun _ => .pure _).mono Keeps.secures
  | request method params => exact before_keeps (h.request _ _ _) fun _ => .pure _
  | complete uri line character token => exact before_keeps (h.complete _ _ _ _) fun _ => .pure _
  | pickUp id => exact (Leads.bind (h.outcome id) fun _ => .pure _).mono Keeps.secures
  | cancel id => exact (h.cancel id).mono Keeps.secures
  | notify method params => exact (h.notify method params).mono Keeps.secures
  | openDocument document =>
    exact (h.update fun client => (client.sameRequests_openDocument document).fewer).mono
      Keeps.secures
  | changeDocument document =>
    exact (h.update fun client => (client.sameRequests_changeDocument document).fewer).mono
      Keeps.secures
  | closeDocument uri =>
    exact (h.update fun client => (client.sameRequests_closeDocument uri).fewer).mono
      Keeps.secures
  | forwardFile path kind =>
    exact (Leads.bind (h.forwardFile path kind) fun _ => .pure _).mono Keeps.secures
  | subscribe method handler =>
    have hfewer (client : Client) : client.Fewer (client.subscribe method handler) :=
      fun _ hnone => hnone
    exact (h.modifyClient hfewer).mono Keeps.secures
  | unsubscribe method handler =>
    exact (h.modifyClient fun client =>
      (client.sameRequests_unsubscribe method handler).fewer).mono Keeps.secures
  | deliver message => exact (h.reads.deliver message).mono Keeps.secures
  | serverWrites bytes => exact (h.reads.serverWrites bytes).mono Keeps.secures
  | serverReports bytes => exact (h.reads.serverReports bytes).mono Keeps.secures
  | serverExits code => exact (h.reads.serverExits code).mono Keeps.secures

end Upholds

end Dialog

end JuliaSession
