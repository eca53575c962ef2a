import JuliaSession.Proofs.Client.Frames
import JuliaSession.Proofs.Client.Notes

/-!
# What leaves the documents alone

Almost nothing a session does is about documents: no note about one is written, and the client's
table of open documents stays as it is (`Talk.SameDocuments`). Only when the process is taken down
the table is emptied (`Talk.ClearsDocuments`), and nothing is written then either.

* `World.SameNotes`: no note about a document was written. So it is for whatever a server process
  does in reaction to a message (`sameNotes_accept`).
* `Dialog.respects_sameDocuments`: handling what comes from the server is not about documents.
* `Dialog.sameDocuments_request` and its kin: nor are requests and other messages that are no notes.
* `Dialog.clearsDocuments_start`: a start writes no notes, also if it fails.
* `Dialog.connected_of_start_ok`: a start that ends well leaves the client connected.
-/

namespace JuliaSession

open Step (Leads LeadsWell)
open Text.Utf8 (Bytes)

variable {α : Type}

/-! ### In the world -/

/-- No note about a document was written in between. -/
def World.SameNotes (before after : World) : Prop := after.notes = before.notes

namespace World

instance : Std.Refl SameNotes := ⟨fun _ => rfl⟩

instance : Trans SameNotes SameNotes SameNotes := ⟨fun h h' => h'.trans h⟩

/-- Where nothing is done, nothing is noted. -/
theorem SameEvents.notes {before after : World} (h : before.SameEvents after) :
    before.SameNotes after := congrArg (List.filterMap Event.note?) h

/-- The notes after one more event. -/
theorem notes_concat (world : World) (event : Event) :
    World.notes { world with events := world.events ++ [event] } =
      world.notes ++ event.note?.toList := by
  unfold notes
  rw [List.filterMap_append]
  cases hnote : event.note? <;> simp [hnote]

end World

namespace Act

open World (SameNotes)

theorem sameNotes_onDesk (step : Desk → Except Failure α × Desk) :
    Leads SameNotes (onDesk step) := (sameEvents_onDesk step).mono World.SameEvents.notes

/-- An event that is no note about a document. -/
theorem sameNotes_record {event : Event} (h : event.note? = none) :
    Leads SameNotes (record event) := by
  intro world
  exact (World.notes_concat world event).trans (by rw [h, Option.toList_none, List.append_nil])

end Act

open World (SameEvents SameNotes)

/-- Whatever a server does with a message, it writes no notes for the client. -/
theorem sameNotes_accept (peer : Peer) (message : Json) :
    Leads SameNotes (peer.accept message) := (sameEvents_accept peer message).mono
      World.SameEvents.notes

theorem sameNotes_takeDown (peer : Peer) : Leads SameNotes (Dialog.takeDown peer) := by
  refine .bind (Act.sameNotes_record rfl) fun _ => .bind (Act.sameNotes_record rfl) fun _ => ?_
  split
  · exact .bind (Act.sameNotes_record rfl) fun _ => Act.sameNotes_record rfl
  · exact .pure _

/-- Starting a program writes no notes. -/
theorem sameNotes_launch (server : ServerOptions) : Leads SameNotes (Peer.launch server) := by
  have hlog (service : String) (level : Log.Level) (message : String) (fields : Log.Fields) :
      Leads SameEvents (Act.log service level message fields) := Act.sameEvents_onDesk _
  -- on every way the program is started or refused, and a record of it is written at most
  have hspawn : Leads SameEvents (Command.spawn server.argv server.env server.cwd) := by
    unfold Command.spawn
    split
    · exact .throw _
    · refine .bind Act.sameEvents_machine fun _ => ?_
      split
      · dsimp only
        split
        · exact .throw _
        · exact .bind (hlog _ _ _ _) fun _ => .throw _
      · exact .bind (hlog _ _ _ _) fun _ => .pure _
  have hlaunch : Leads SameEvents (Peer.launch server) :=
    .bind Act.sameEvents_machine fun _ => .bind hspawn fun _ => .pure _
  exact hlaunch.mono World.SameEvents.notes

/-- Starting a rehearsed server writes no notes, also if it fails. -/
theorem sameNotes_pretend (peer : Except Failure Peer) (server : ServerOptions) :
    Leads SameNotes (Peer.pretend peer server) :=
  .bind (Act.sameNotes_record rfl) fun _ => .ofExcept _

/-! ### In a session -/

namespace Talk

/-- Two moments of a session between which nothing happens to documents: no note is written, and the
client is connected as before and has the same documents open. -/
structure SameDocuments (before after : Talk) : Prop where
  /-- No note was written. -/
  notes : after.world.notes = before.world.notes
  /-- The client is connected as before. -/
  connected : after.session.client.connected = before.session.client.connected
  /-- The same documents are open. -/
  opened : after.session.client.opened = before.session.client.opened

instance : Std.Refl SameDocuments := ⟨fun _ => ⟨rfl, rfl, rfl⟩⟩

instance : Trans SameDocuments SameDocuments SameDocuments where
  trans h h' := ⟨h'.notes.trans h.notes, h'.connected.trans h.connected, h'.opened.trans h.opened⟩

/-- What a step does not change, after a moment that is the same. -/
theorem SameDocuments.perform {before after : Talk} {step : Dialog α}
    (h : SameDocuments before after) (hstep : Leads SameDocuments step) :
    SameDocuments before (step.perform after).2 := Trans.trans h (hstep after)

/-- Two moments of a session between which no note is written, and documents are closed all at once
at most. -/
structure ClearsDocuments (before after : Talk) : Prop where
  /-- No note was written. -/
  notes : after.world.notes = before.world.notes
  /-- The same documents are open, or none. -/
  opened : after.session.client.opened = before.session.client.opened ∨
    after.session.client.opened = []

theorem SameDocuments.clears {before after : Talk} (h : SameDocuments before after) :
    ClearsDocuments before after := ⟨h.notes, .inl h.opened⟩

instance : Std.Refl ClearsDocuments := ⟨fun _ => ⟨rfl, .inl rfl⟩⟩

instance : Trans ClearsDocuments ClearsDocuments ClearsDocuments where
  trans h h' := by
    refine ⟨h'.notes.trans h.notes, ?_⟩
    rcases h'.opened with hsame | hnone
    · rw [hsame]
      exact h.opened
    · exact .inr hnone

theorem ClearsDocuments.perform {before after : Talk} {step : Dialog α}
    (h : ClearsDocuments before after) (hstep : Leads ClearsDocuments step) :
    ClearsDocuments before (step.perform after).2 := Trans.trans h (hstep after)

end Talk

namespace Dialog

open Talk (SameDocuments ClearsDocuments)

/-- A step on the world that writes no notes. -/
theorem sameDocuments_act {step : Act α} (h : Leads SameNotes step) :
    Leads SameDocuments (act step) := h.onPart fun hnotes => ⟨hnotes, rfl, rfl⟩

/-- A change of the client that leaves the connection and the open documents as they are. -/
theorem sameDocuments_modifyClient {change : Client → Client}
    (h : ∀ client, (change client).connected = client.connected ∧
      (change client).opened = client.opened) : Leads SameDocuments (modifyClient change) :=
  fun talk => ⟨rfl, (h talk.session.client).1, (h talk.session.client).2⟩

/-- A message is written that is no note about a document. -/
theorem sameDocuments_sent {message : Json} (h : DocumentNote.of message = none) :
    Leads SameDocuments (act (Act.record (.sent message))) :=
  sameDocuments_act (Act.sameNotes_record h)

/-- Handling what comes from the server is not about documents. -/
theorem respects_sameDocuments : Respects SameDocuments where
  emit _ _ _ _ := sameDocuments_act (Act.sameNotes_onDesk _)
  accept peer message := sameDocuments_act (sameNotes_accept peer message)
  hold _ _ _ _ := ⟨rfl, rfl, rfl⟩
  settle id outcome := by
    refine sameDocuments_modifyClient fun client => ?_
    obtain ⟨pending, ended, hsettled⟩ := client.settle_eq id outcome
    rw [hsettled]
    exact ⟨rfl, rfl⟩
  sent hmessage := by
    -- what handling a message writes: a response, a refusal or a whole text, and none is a note
    refine sameDocuments_sent ?_
    cases hmessage with
    | response id result => exact DocumentNote.of_response id result
    | refusal id method => exact DocumentNote.of_refusal id method
    | text answer => exact DocumentNote.of_notification_eq_none (by decide) answer
  handled _ _ := sameDocuments_act (Act.sameNotes_record rfl)

/-! ### Messages to the server -/

/-- A note about a document is sent. -/
theorem tells_send {message : Json} {note : DocumentNote}
    (h : DocumentNote.of message = some note) (talk : Talk) :
    ((send [message]).perform talk).2.world.notes = talk.world.notes ++ [note] ∧
      ((send [message]).perform talk).2.session.client.connected =
        talk.session.client.connected ∧
      ((send [message]).perform talk).2.session.client.opened = talk.session.client.opened := by
  have hsome : (Event.sent message).note? = some note := h
  have hnothing : Leads SameDocuments (send []) := .pure ()
  have hsent := respects_sameDocuments.handles.send_cons hnothing message talk
  refine ⟨hsent.notes.trans ?_, hsent.connected, hsent.opened⟩
  rw [World.notes_concat, hsome, Option.toList_some]

/-- A message that is no note about a document is written if the client is connected. -/
theorem sameDocuments_posted (client : Client) {message : Json}
    (h : DocumentNote.of message = none) :
    Leads SameDocuments (send (client.posted message)) :=
  respects_sameDocuments.handles.posted client (sameDocuments_sent h)

theorem sameDocuments_notify {method : String} (h : method ∉ DocumentNote.methods)
    (params : Json) : Leads SameDocuments (notify method params) :=
  respects_sameDocuments.handles.notify
    (sameDocuments_sent (DocumentNote.of_notification_eq_none h params))

theorem sameDocuments_request (method : String) (params : Json)
    (token : Option Completion.Token) : Leads SameDocuments (request method params token) :=
  leads_request (fun _ => ⟨rfl, rfl, rfl⟩)
    (fun _ => sameDocuments_posted _ (DocumentNote.of_request _ _ _))
    respects_sameDocuments.reads.exchange

theorem sameDocuments_outcome (id : Nat) : Leads SameDocuments (outcome id) :=
  leads_outcome fun _ => ⟨rfl, rfl, rfl⟩

theorem sameDocuments_complete (uri : String) (line character : Int)
    (token : Option Completion.Token) :
    Leads SameDocuments (complete uri line character token) :=
  .bind leads_client fun _ => sameDocuments_request _ _ _

theorem sameDocuments_forwardFile (path : String) (kind : Int) :
    Leads SameDocuments (forwardFile path kind) := by
  refine .bind leads_client fun client => .bind leads_cwd fun _ => ?_
  split
  · exact .throw _
  next watched messages hevent =>
    -- a forwarded file is a notification of its own, not one about a document
    have hsend : Leads SameDocuments (send messages) := by
      obtain ⟨matched, -, hresult⟩ := bind_eq_ok_iff.1 hevent
      split at hresult
      · cases hresult
        exact sameDocuments_posted client (DocumentNote.of_notification_eq_none (by decide) _)
      · cases hresult
        exact .pure _
    exact .bind hsend fun _ => .bind respects_sameDocuments.reads.exchange fun _ => .pure _

theorem sameDocuments_unsubscribe (method : String) (handler : Handler) :
    Leads SameDocuments (modifyClient fun client => client.unsubscribe method handler) := by
  refine sameDocuments_modifyClient fun client => ?_
  unfold Client.unsubscribe
  split
  · split <;> exact ⟨rfl, rfl⟩
  · exact ⟨rfl, rfl⟩

/-! ### Life of the process -/

theorem sameDocuments_waitClosed : Leads SameDocuments waitClosed :=
  leads_waitClosed (sameDocuments_act (Act.sameNotes_record rfl))

theorem clears_of_same {step : Dialog α} (h : Leads SameDocuments step) :
    Leads ClearsDocuments step := h.mono Talk.SameDocuments.clears

/-- Taking the process down closes all documents without a word. -/
theorem clearsDocuments_kill : Leads ClearsDocuments kill := by
  have hlast : Leads ClearsDocuments (modifySession fun session =>
      { session with peer := none, reader := none, client := session.client.disconnected }) :=
    fun _ => ⟨rfl, .inr rfl⟩
  have hrest := Leads.bind (clears_of_same respects_sameDocuments.handles.endErrors) fun _ =>
    Leads.bind (clears_of_same respects_sameDocuments.handles.readOut) fun _ => hlast
  refine .bind (fun _ => ⟨rfl, .inl rfl⟩) fun _ => ?_
  refine .bind leads_session fun _ => ?_
  dsimp only
  split
  · exact hrest
  · exact .bind (clears_of_same (sameDocuments_act (sameNotes_takeDown _))) fun _ => hrest

/-- A handshake writes no notes, and documents are closed only if it fails. -/
theorem clearsDocuments_shakeHands : Leads ClearsDocuments shakeHands := by
  refine .bind (leads_fields _) fun _ => ?_
  refine .bind (clears_of_same (sameDocuments_act (Act.sameNotes_onDesk _))) fun _ => ?_
  refine .bind leads_client fun _ => ?_
  refine .bind leads_cwd fun _ => ?_
  refine .bind (clears_of_same (sameDocuments_request _ _ _)) fun _ => ?_
  refine .bind (clears_of_same (sameDocuments_outcome _)) fun _ => ?_
  refine .bind (clears_of_same (sameDocuments_act (Act.sameNotes_onDesk _))) fun _ => ?_
  refine .bind leads_client fun _ => ?_
  dsimp only
  -- by the outcome: without one or with a failure the process is taken down
  split
  · exact .bind clearsDocuments_kill fun _ => .throw _
  · exact .bind clearsDocuments_kill fun _ => .throw _
  · exact clears_of_same (sameDocuments_modifyClient fun _ => ⟨rfl, rfl⟩)

/-- A handshake that ends well leaves the client connected as it is. -/
theorem sameDocuments_shakeHands : LeadsWell SameDocuments shakeHands := by
  refine .bind (Leads.well (leads_fields _)) fun _ => ?_
  refine .bind (sameDocuments_act (Act.sameNotes_onDesk _)).well fun _ => ?_
  refine .bind (Leads.well leads_client) fun _ => .bind (Leads.well leads_cwd) fun _ => ?_
  refine .bind (sameDocuments_request _ _ _).well fun _ => ?_
  refine .bind (sameDocuments_outcome _).well fun _ => ?_
  refine .bind (sameDocuments_act (Act.sameNotes_onDesk _)).well fun _ => ?_
  refine .bind (Leads.well leads_client) fun _ => ?_
  dsimp only
  -- the two ways in which the process is taken down end in a failure
  split
  · exact .bind_throw _ _
  · exact .bind_throw _ _
  · refine Leads.well ?_
    exact sameDocuments_modifyClient fun _ => ⟨rfl, rfl⟩

/-- The settings are pushed by a message that is no note about a document. -/
theorem sameDocuments_pushed {client : Client} {messages : List Json}
    (h : client.pushed = .ok messages) : Leads SameDocuments (send messages) := by
  unfold Client.pushed at h
  split at h
  · cases h
    exact .pure _
  · obtain ⟨tree, -, hposted⟩ := bind_eq_ok_iff.1 h
    cases hposted
    exact sameDocuments_posted client (DocumentNote.of_notification_eq_none (by decide) _)

theorem sameDocuments_begin : Leads SameDocuments begin := by
  refine .bind (sameDocuments_notify (by decide) _) fun _ => ?_
  refine .bind leads_client fun client => .ofExcept_bind fun messages hpushed => ?_
  refine .bind (sameDocuments_pushed hpushed) fun _ => ?_
  refine .bind respects_sameDocuments.reads.exchange fun _ => ?_
  refine .bind (sameDocuments_modifyClient fun _ => ⟨rfl, rfl⟩) fun _ => ?_
  exact respects_sameDocuments.handles.log _ _ _

/-- A start writes no notes, whether it ends well or not. -/
theorem clearsDocuments_start (talk : Talk)
    (hlaunch : ∀ server, Leads SameNotes (talk.session.launch server)) :
    ClearsDocuments talk (start.perform talk).2 := by
  unfold start
  rw [Step.perform_bind_ok (perform_session talk)]
  -- a process that runs already is kept as it is
  split
  · exact ⟨rfl, .inl rfl⟩
  · rw [Step.perform_bind_ok (perform_modifyClient _ talk),
      Step.perform_bind_ok (perform_session _), Step.perform_bind_ok (perform_session _)]
    have hconnect : Leads ClearsDocuments (modifySession fun session =>
        { session with
          reader := some {}, errLine := [],
          client := { session.client with connected := true } }) := fun _ => ⟨rfl, .inl rfl⟩
    have hopen := Leads.bind hconnect fun _ =>
      .bind clearsDocuments_shakeHands fun _ => clears_of_same sameDocuments_begin
    refine Talk.ClearsDocuments.perform ⟨rfl, .inl rfl⟩ ?_
    refine .bind (clears_of_same (sameDocuments_act (hlaunch _))) fun _ => ?_
    -- the launch comes first, then the process is held, and the streams are only looked at after
    -- that
    have hheld (peer : Peer) : Leads SameDocuments (modifySession fun session =>
        { session with peer := some peer }) := fun _ => ⟨rfl, rfl, rfl⟩
    refine .bind (clears_of_same (hheld _)) fun _ => ?_
    dsimp only
    split
    · refine .bind clearsDocuments_kill fun _ => .bind leads_client ?_
      exact fun _ => .bind (.throw _) fun _ => hopen
    · exact hopen

/-- A start that ends well leaves the client connected, unless a process was running. -/
theorem connected_of_start_ok {talk after : Talk} (hidle : talk.session.running = false)
    (h : start.perform talk = (.ok (), after)) : after.session.client.connected = true := by
  obtain ⟨peer, world, -, hjoined⟩ := joined_of_start_ok hidle h
  obtain ⟨_, greeted, hgreet, hbegin⟩ := Step.perform_bind_eq_ok_iff.1 hjoined
  rw [(sameDocuments_begin.ends hbegin).connected,
    (sameDocuments_shakeHands _ _ _ hgreet).connected]
  rfl

end Dialog

end JuliaSession
