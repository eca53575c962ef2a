import JuliaSession.Client.Session
import JuliaSession.Proofs.Step

/-!
# What handling messages leaves alone

A session handles what comes from the server by a few elementary steps: it writes records, holds the
process and keeps its output until it is read (`Dialog.Quiet`), and it posts answers and ends
requests (`Dialog.Carries`, or `Dialog.Handles` if whatever is posted may be written). A relation
between moments of a session that these steps respect is respected by everything that is made of
them.

* `World.SameEvents`: nothing was done to the outside. So it is where records are written and where
  a server reacts to a message (`sameEvents_accept`).
* `Dialog.Quiet.send_cons`: sending a message respects it, apart from the message itself.
* `Dialog.Carries.deliver`: handling a message of the server respects it, also if that fails.
* `Dialog.perform_start_launched` and its kin: what a start does once the process is launched.
-/

namespace JuliaSession

open Step (Leads)
open Text.Utf8 (Bytes)

variable {α : Type}

namespace Client

/-- The messages that a client sends because of a message of the server: answers to its requests,
and the whole texts that it asks for. -/
inductive Automatic : Json → Prop where
  /-- A request of the server is answered. -/
  | response (id result : Json) : Automatic (response id result)
  /-- A request of the server is refused. -/
  | refusal (id method : Json) : Automatic (refusal id method)
  /-- A whole text is sent. -/
  | text (answer : Json) : Automatic (notification DocumentStore.fullTextAnswer answer)

end Client

/-! ### What is done to the outside -/

/-- Nothing was done to the outside in between. -/
def World.SameEvents (before after : World) : Prop := after.events = before.events

namespace World

instance : Std.Refl SameEvents := ⟨fun _ => rfl⟩

instance : Trans SameEvents SameEvents SameEvents := ⟨fun h h' => h'.trans h⟩

end World

open World (SameEvents)

namespace Act

theorem sameEvents_machine : Leads SameEvents machine := fun _ => rfl

theorem sameEvents_modifyDesk (change : Desk → Desk) : Leads SameEvents (modifyDesk change) :=
  fun _ => rfl

theorem sameEvents_onDesk (step : Desk → Except Failure α × Desk) :
    Leads SameEvents (onDesk step) := by
  intro world
  rw [perform_onDesk]
  rfl

end Act

/-- All that a server may change with a message are the files. -/
theorem leads_accept {relation : World → World → Prop} [Std.Refl relation]
    [Trans relation relation relation] (h : ∀ files, Leads relation (Act.setFiles files))
    (peer : Peer) (message : Json) : Leads relation (peer.accept message) := by
  unfold Peer.accept
  split
  · split <;> exact .pure _
  · -- only a program that has not ended goes on with its input
    split
    · refine .bind (fun world => Std.Refl.refl world) fun _ => .bind (h _) fun _ => ?_
      dsimp only
      split <;> exact .pure _
    · exact .pure _

/-- Whatever a server does with a message, it is not done by the client. -/
theorem sameEvents_accept (peer : Peer) (message : Json) :
    Leads SameEvents (peer.accept message) :=
  leads_accept (fun _ => Act.sameEvents_modifyDesk _) peer message

/-- Nothing was done to the outside between two moments of a session. -/
def Talk.SameEvents (before after : Talk) : Prop := before.world.SameEvents after.world

instance : Std.Refl Talk.SameEvents := ⟨fun _ => rfl⟩

instance : Trans Talk.SameEvents Talk.SameEvents Talk.SameEvents := ⟨fun h h' => h'.trans h⟩

namespace Dialog

/-! ### Reading and writing the session -/

@[simp]
theorem perform_session (talk : Talk) : session.perform talk = (.ok talk.session, talk) := rfl

@[simp]
theorem perform_client (talk : Talk) :
    client.perform talk = (.ok talk.session.client, talk) := rfl

@[simp]
theorem perform_cwd (talk : Talk) :
    cwd.perform talk = (.ok talk.world.desk.machine.cwd, talk) := rfl

@[simp]
theorem perform_modifyClient (change : Client → Client) (talk : Talk) :
    (modifyClient change).perform talk =
      (.ok (), { talk with
        session := { talk.session with client := change talk.session.client } }) := rfl

section Reading

variable {relation : Talk → Talk → Prop} [hrefl : Std.Refl relation]

theorem leads_session : Leads relation session := hrefl.refl

theorem leads_client : Leads relation client := hrefl.refl

theorem leads_cwd : Leads relation cwd := hrefl.refl

theorem leads_act_pure (value : α) : Leads relation (act (pure value)) := hrefl.refl

theorem leads_act_get : Leads relation (act get) := hrefl.refl

variable [Trans relation relation relation]

theorem leads_fields (more : Log.Fields) : Leads relation (fields more) :=
  .bind leads_client fun _ => .pure _

end Reading

/-- A sequence on the world is a sequence of steps on the world. -/
theorem leads_act_bind {relation : Talk → Talk → Prop} [Trans relation relation relation]
    {β : Type} {step : Act α} {next : α → Act β} (hstep : Leads relation (act step))
    (hnext : ∀ value, Leads relation (act (next value))) :
    Leads relation (act (step >>= next)) := by
  intro talk
  have hsequence : ((act (step >>= next)).perform talk).2 =
      ((act step >>= fun value => act (next value)).perform talk).2 := by
    simp only [act, Step.perform_bind, Step.perform_onPart]
    rcases step.perform talk.world with ⟨_ | _, _⟩ <;> rfl
  rw [hsequence]
  exact Leads.bind hstep hnext talk

/-! ### Records and streams -/

/-- A relation between moments of a session that is respected when records are written, and when the
streams of the server process are written to and read. -/
structure Quiet (relation : Talk → Talk → Prop) : Prop where
  /-- A record is written. -/
  emit (logger : Log.Logger) (level : Log.Level) (message : Log.Value) (extra : Log.Fields) :
    Leads relation (act (Act.onDesk fun desk => desk.emit logger level message extra))
  /-- A server reacts to a message. -/
  accept (peer : Peer) (message : Json) : Leads relation (act (peer.accept message))
  /-- The process is held as it is by then. -/
  hold (talk : Talk) (peer : Peer) :
    relation talk { talk with session := { talk.session with peer := some peer } }
  /-- Output of the process is kept, while there is a reader for it. -/
  feed (talk : Talk) (bytes : Bytes) :
    relation talk { talk with
      session := { talk.session with
        reader := talk.session.reader.map fun reader => reader.feed bytes } }
  /-- Error output of the process is kept. -/
  errLine (talk : Talk) (line : Bytes) :
    relation talk { talk with session := { talk.session with errLine := line } }

namespace Quiet

variable {relation : Talk → Talk → Prop}

theorem act_log (h : Quiet relation) (service : String) (level : Log.Level) (message : String)
    (fields : Log.Fields) : Leads relation (act (Act.log service level message fields)) :=
  h.emit _ _ _ _

variable [hrefl : Std.Refl relation] [htrans : Trans relation relation relation]
variable (h : Quiet relation)
include h

theorem log (level : Log.Level) (message : String) (more : Log.Fields) :
    Leads relation (log level message more) :=
  .bind (leads_fields more) fun _ => h.emit _ _ _ _

theorem trace (message : Json) (more : Log.Fields) : Leads relation (trace message more) :=
  .bind (leads_fields more) fun _ => h.emit _ _ _ _

theorem passLine (line : Bytes) : Leads relation (passLine line) := by
  unfold Dialog.passLine
  dsimp only
  split
  · exact .pure _
  · exact .bind (h.trace _ _).attempt fun _ => .pure _

theorem passLines (lines : List Bytes) : Leads relation (passLines lines) := by
  induction lines using passLines.induct with
  | case1 => exact fun talk => h.errLine talk _
  | case2 rest => exact fun talk => h.errLine talk _
  | case3 line rest hmore ih =>
    rw [passLines.eq_3 line rest hmore]
    exact .bind (h.passLine line) fun _ => ih

theorem takeIn (arrival : Arrival) : Leads relation (takeIn arrival) := by
  refine .bind (fun talk => h.feed talk _) fun _ => .bind leads_session fun _ => ?_
  split
  · exact .bind leads_session fun _ => h.passLines _
  · exact .pure _

theorem endErrors : Leads relation endErrors :=
  .bind leads_session fun _ => .bind (h.passLine _) fun _ talk => h.errLine talk _

/-- After a message was written, whatever comes back for it is taken in before the rest is sent. -/
theorem send_cons {rest : List Json} (hrest : Leads relation (send rest)) (message : Json)
    (talk : Talk) :
    relation
      { talk with world := { talk.world with events := talk.world.events ++ [.sent message] } }
      ((send (message :: rest)).perform talk).2 := by
  have hrecord : (act (Act.record (.sent message))).perform talk =
      (.ok (), { talk with
        world := { talk.world with events := talk.world.events ++ [.sent message] } }) := rfl
  unfold send
  rw [Step.perform_bind_ok hrecord]
  refine Leads.bind leads_session (fun _ => ?_) _
  dsimp only
  -- without a process there is nobody to answer
  split
  · exact hrest
  · refine .bind (h.accept _ _) fun (peer, arrival) => ?_
    refine .bind (fun talk => h.hold talk _) fun _ => .bind (h.takeIn _) fun _ => ?_
    -- the answer may be the end of the output, and then the rest is sent to nobody
    split
    · exact .bind h.endErrors fun _ => hrest
    · exact hrest

/-- Messages are sent if each of them may be written. -/
theorem send {messages : List Json}
    (hsent : ∀ message ∈ messages, Leads relation (act (Act.record (.sent message)))) :
    Leads relation (send messages) := by
  induction messages with
  | nil => exact .pure _
  | cons message rest ih =>
    intro talk
    have hwritten := hsent message List.mem_cons_self talk
    have hrest := ih fun other hother => hsent other (List.mem_cons_of_mem _ hother)
    exact htrans.trans hwritten (h.send_cons hrest message talk)

/-- A message is written if the client is connected. -/
theorem posted (client : Client) {message : Json}
    (hsent : Leads relation (act (Act.record (.sent message)))) :
    Leads relation (Dialog.send (client.posted message)) := by
  refine h.send fun other hother => ?_
  unfold Client.posted at hother
  split at hother
  · rwa [List.mem_singleton.1 hother]
  · cases hother

theorem notify {method : String} {params : Json}
    (hsent : Leads relation (act (Act.record (.sent (Client.notification method params))))) :
    Leads relation (notify method params) :=
  .bind leads_client fun client => h.posted client hsent

end Quiet

/-- What comes back on the streams is not done by the client. -/
theorem quiet_sameEvents : Quiet Talk.SameEvents where
  emit _ _ _ _ := (Act.sameEvents_onDesk _).onPart fun hevents => hevents
  accept peer message := (sameEvents_accept peer message).onPart fun hevents => hevents
  hold _ _ := rfl
  feed _ _ := rfl
  errLine _ _ := rfl

/-- Sending a message writes this message and does nothing else to the outside. -/
theorem events_send (message : Json) (talk : Talk) :
    ((send [message]).perform talk).2.world.events = talk.world.events ++ [.sent message] :=
  quiet_sameEvents.send_cons (.pure _) message talk

/-! ### Messages of the server -/

/-- A relation between moments of a session that is respected when a message of the server is
handled, whatever is posted then comes to. -/
structure Carries (relation : Talk → Talk → Prop) : Prop extends Quiet relation where
  /-- A request ends. -/
  settle (id : Nat) (outcome : Except Failure Json) :
    Leads relation (modifyClient fun client => client.settle id outcome)
  /-- An answer is posted. -/
  post {message : Json} (h : Client.Automatic message) :
    Leads relation (client >>= fun client => Dialog.send (client.posted message))
  /-- The call of a handler is written down. -/
  handled (name : String) (params : Json) :
    Leads relation (act (Act.record (.handled name params)))

namespace Carries

variable {relation : Talk → Talk → Prop} [hrefl : Std.Refl relation]
  [htrans : Trans relation relation relation]
variable (h : Carries relation)
include h

theorem act_answer (params : Json) : Leads relation (act (FullText.answer params)) := by
  refine leads_act_bind leads_act_get fun world => ?_
  split
  · exact leads_act_bind (h.act_log _ _ _ _) fun _ => leads_act_pure _
  · exact leads_act_bind (h.act_log _ _ _ _) fun _ => leads_act_pure _
  · exact leads_act_bind (h.act_log _ _ _ _) fun _ => leads_act_pure _

theorem act_reconciled (token : Option Completion.Token) (outcome : Except Failure Json) :
    Leads relation (act (reconciled token outcome)) := by
  cases outcome with
  | error failure => exact leads_act_pure _
  | ok response =>
    -- a response that is attempted to be reconciled leads where reconciling it leads
    have hreconcile : Leads relation (act (Completion.reconcile token response)) := by
      cases token with
      | none => exact leads_act_pure _
      | some token =>
        unfold Completion.reconcile Completion.widenReported
        dsimp only
        split
        · exact leads_act_bind (h.act_log _ _ _ _) fun _ => leads_act_pure _
        · exact leads_act_pure _
    exact hreconcile

theorem callHandler (handler : Handler) (params : Json) :
    Leads relation (callHandler handler params) := by
  unfold Dialog.callHandler
  split
  · refine .bind (h.act_answer _) fun answer => ?_
    split
    · exact .pure _
    · exact h.post (.text _)
  · refine .bind (h.handled _ _) fun _ => ?_
    split
    · exact .throw _
    · exact .pure _

theorem carryOut (reaction : Reaction) : Leads relation (carryOut reaction) := by
  cases reaction with
  | ignore => exact .pure _
  | settle id outcome =>
    exact .bind leads_client fun _ => .bind (h.act_reconciled _ _) fun _ => h.settle _ _
  | respond id result => exact h.post (.response _ _)
  | refuse id method => exact .bind (h.log _ _ _) fun _ => h.post (.refusal _ _)
  | call handler params => exact h.callHandler handler params
  | serverLog message type => exact h.trace _ _
  | progress kind title => exact h.log _ _ _
  | unhandled method => exact h.log _ _ _

theorem handle (message : Json) : Leads relation (handle message) :=
  .bind leads_client fun _ => .bind leads_cwd fun _ => .bind (.ofExcept _) fun reaction =>
    h.carryOut reaction

/-- Any message is handled, also if handling it fails. -/
theorem deliver (message : Json) : Leads relation (deliver message) := by
  refine .bind (h.handle message).attempt fun _ => ?_
  split
  · exact .pure _
  · exact .bind (h.log _ _ _).attempt fun _ => .pure _

theorem deliverAll (messages : List Json) : Leads relation (deliverAll messages) := by
  induction messages with
  | nil => exact .pure _
  | cons message rest ih => exact .bind (h.deliver message) fun _ => ih

theorem readOut : Leads relation readOut := by
  refine .bind leads_session fun _ => ?_
  split
  · exact .pure _
  · exact h.deliverAll _

/-- The requests that wait end one after the other. -/
theorem settleAll (talk : Talk) (outcome : Except Failure Json) :
    relation talk { talk with
      session := { talk.session with client := talk.session.client.settleAll outcome } } := by
  -- the entries are those of the client at first, while the client changes with each of them
  have heach : ∀ (entries : Assoc Nat (Option Completion.Token)) (talk : Talk),
      relation talk { talk with
        session := { talk.session with
          client := entries.foldl (fun client entry => client.settle entry.1 outcome)
            talk.session.client } } := by
    intro entries
    induction entries with
    | nil => exact hrefl.refl
    | cons entry rest ih => exact fun talk => htrans.trans (h.settle entry.1 outcome talk) (ih _)
  exact heach talk.session.client.pending talk

end Carries

/-- A relation between moments of a session that the elementary steps respect by which the session
handles a message of the server. -/
structure Handles (relation : Talk → Talk → Prop) : Prop extends Quiet relation where
  /-- A request ends. -/
  settle (id : Nat) (outcome : Except Failure Json) :
    Leads relation (modifyClient fun client => client.settle id outcome)
  /-- An answer is written. -/
  sent {message : Json} (h : Client.Automatic message) :
    Leads relation (act (Act.record (.sent message)))
  /-- The call of a handler is written down. -/
  handled (name : String) (params : Json) :
    Leads relation (act (Act.record (.handled name params)))

namespace Handles

variable {relation : Talk → Talk → Prop} [hrefl : Std.Refl relation]
  [htrans : Trans relation relation relation]
variable (h : Handles relation)
include h

/-- What may be written may be posted. -/
theorem carries : Carries relation where
  toQuiet := h.toQuiet
  settle := h.settle
  post hmessage := .bind leads_client fun client => h.posted client (h.sent hmessage)
  handled := h.handled

theorem handle (message : Json) : Leads relation (handle message) := h.carries.handle message

theorem deliver (message : Json) : Leads relation (deliver message) := h.carries.deliver message

theorem deliverAll (messages : List Json) : Leads relation (deliverAll messages) :=
  h.carries.deliverAll messages

theorem readOut : Leads relation readOut := h.carries.readOut

theorem settleAll (talk : Talk) (outcome : Except Failure Json) :
    relation talk { talk with
      session := { talk.session with client := talk.session.client.settleAll outcome } } :=
  h.carries.settleAll talk outcome

end Handles

/-! ### What the client does -/

section Doing

variable {relation : Talk → Talk → Prop} [hrefl : Std.Refl relation]
  [htrans : Trans relation relation relation]

/-- A request is registered, sent and answered. -/
theorem leads_request {method : String} {params : Json} {token : Option Completion.Token}
    (hregister : Leads relation
      (modifyClient fun client => (client.request method params token).2.1))
    (hsend : ∀ client : Client, Leads relation (send (client.request method params token).2.2))
    (hexchange : Leads relation exchange) : Leads relation (request method params token) := by
  intro talk
  have hrest := Leads.bind (hsend talk.session.client) fun _ =>
    .bind hexchange fun _ => .pure (talk.session.client.request method params token).1
  exact htrans.trans (hregister talk) (hrest _)

omit hrefl htrans in
theorem leads_outcome {id : Nat}
    (h : Leads relation (modifyClient fun client => (client.collect id).2.withdraw id)) :
    Leads relation (outcome id) := h

omit hrefl in
/-- The client changes, and what that leads to is sent. -/
theorem leads_update {change : Client → Client × List Json}
    (hchange : Leads relation (modifyClient fun client => (change client).1))
    (hsend : ∀ client, Leads relation (send (change client).2))
    (hexchange : Leads relation exchange) : Leads relation (update change) := by
  intro talk
  have hrest := Leads.bind (hsend talk.session.client) fun _ => hexchange
  exact htrans.trans (hchange talk) (hrest _)

theorem leads_forwardFile (hsend : ∀ messages, Leads relation (send messages))
    (hexchange : Leads relation exchange) (path : String) (kind : Int) :
    Leads relation (forwardFile path kind) := by
  refine .bind leads_client fun _ => .bind leads_cwd fun _ => ?_
  split
  · exact .throw _
  · exact .bind (hsend _) fun _ => .bind hexchange fun _ => .pure _

omit htrans in
theorem leads_awaitReady : Leads relation awaitReady := by
  intro talk
  unfold awaitReady
  rw [Step.perform_bind_ok (perform_client talk)]
  split <;> exact hrefl.refl talk

theorem leads_waitClosed (hwait : Leads relation (act (Act.record (.wait none)))) :
    Leads relation waitClosed := by
  refine .bind leads_session fun _ => ?_
  split
  · exact .pure _
  · refine .bind hwait fun _ => ?_
    split
    · exact .pure _
    · exact .throw _

/-! ### What the server does on its own -/

theorem leads_serverWrites {bytes : Bytes} (htakeIn : Leads relation (takeIn { out := bytes }))
    (hexchange : Leads relation exchange) : Leads relation (serverWrites bytes) := by
  refine .bind leads_session fun _ => ?_
  split
  · exact .bind htakeIn fun _ => hexchange
  · exact .pure _

theorem leads_serverReports {bytes : Bytes} (htakeIn : Leads relation (takeIn { err := bytes })) :
    Leads relation (serverReports bytes) := by
  refine .bind leads_session fun _ => ?_
  split
  · exact htakeIn
  · exact .pure _

/-- The process ends, and what it has written before is handled. -/
theorem leads_serverExits {code : Int}
    (hexit : Leads relation (modifySession fun session =>
      { session with peer := session.peer.map fun peer => peer.exited code }))
    (hendErrors : Leads relation endErrors) (hexchange : Leads relation exchange) :
    Leads relation (serverExits code) := by
  refine .bind leads_session fun _ => ?_
  split
  · exact .bind hexit fun _ => .bind hendErrors fun _ => hexchange
  · exact .pure _

end Doing

/-- What the last step of taking a process down brings about holds after it. -/
theorem after_kill {holds : Talk → Prop}
    (h : ∀ talk : Talk, holds { talk with session := { talk.session with
      peer := none, reader := none, client := talk.session.client.disconnected } }) :
    Step.LeadsWell (fun _ after => holds after) kill := by
  have hlast : Step.LeadsWell (fun _ after => holds after)
      (modifySession fun session =>
        { session with peer := none, reader := none, client := session.client.disconnected }) := by
    rintro talk _ _ ⟨⟩
    exact h talk
  have hrest := Step.LeadsWell.last endErrors fun _ => .last readOut fun _ => hlast
  refine .last _ fun _ => .last _ fun _ => ?_
  dsimp only
  split
  · exact hrest
  · exact .last _ fun _ => hrest

end Dialog

/-! ### The start of a session -/

namespace Talk

/-- The session after its process was launched. -/
def launched (talk : Talk) (peer : Peer) (world : World) : Talk :=
  ⟨world, { talk.session with
    peer := some peer, client := { talk.session.client with ready := false } }⟩

/-- The session after its client was connected to the process that was launched. -/
def joined (talk : Talk) (peer : Peer) (world : World) : Talk :=
  ⟨world, { talk.session with
    peer := some peer, reader := some {}, errLine := [],
    client := { talk.session.client with ready := false, connected := true } }⟩

/-- The launch of the process comes to a result, and to a world. -/
def Launches (talk : Talk) (result : Except Failure Peer) (world : World) : Prop :=
  (talk.session.launch talk.session.server).perform talk.world = (result, world)

end Talk

namespace Dialog

section Start

variable {talk : Talk} {world : World} (hidle : talk.session.running = false)
include hidle

/-- If the launch fails, so does the start. -/
theorem perform_start_unlaunched {failure : Failure} (h : talk.Launches (.error failure) world) :
    start.perform talk = (.error failure, ⟨world, { talk.session with
      client := { talk.session.client with ready := false } }⟩) := by
  have hact : (act (talk.session.launch talk.session.server)).perform
      { talk with session := { talk.session with
        client := { talk.session.client with ready := false } } } =
      (.error failure, ⟨world, { talk.session with
        client := { talk.session.client with ready := false } }⟩) := by
    rw [act, Step.perform_onPart, h]
  unfold start
  rw [Step.perform_bind_ok (perform_session talk), hidle, if_neg Bool.false_ne_true,
    Step.perform_bind_ok (perform_modifyClient _ _), Step.perform_bind_ok (perform_session _),
    Step.perform_bind_ok (perform_session _), Step.perform_bind_error hact]

/-- After the launch the start goes on with the process. -/
theorem perform_start_launched {peer : Peer} (h : talk.Launches (.ok peer) world) :
    start.perform talk =
      if peer.piped then (shakeHands >>= fun _ => begin).perform (talk.joined peer world)
      else
        (kill >>= fun _ => client >>= fun client =>
          (throw (.serverStart (client.name ++ ": server stdio not available")) :
            Dialog Unit)).perform (talk.launched peer world) := by
  have hact : (act (talk.session.launch talk.session.server)).perform
      { talk with session := { talk.session with
        client := { talk.session.client with ready := false } } } =
      (.ok peer, ⟨world, { talk.session with
        client := { talk.session.client with ready := false } }⟩) := by
    rw [act, Step.perform_onPart, h]
  -- before the launch the client is only marked as not ready
  unfold start
  rw [Step.perform_bind_ok (perform_session talk), hidle, if_neg Bool.false_ne_true,
    Step.perform_bind_ok (perform_modifyClient _ _), Step.perform_bind_ok (perform_session _),
    Step.perform_bind_ok (perform_session _), Step.perform_bind_ok hact]
  rw [modifySession, Step.perform_modify_bind]
  cases peer.piped <;> rfl

/-- A start that ends well has launched a process and ended well with it. -/
theorem joined_of_start_ok {after : Talk} (h : start.perform talk = (.ok (), after)) :
    ∃ peer world, talk.Launches (.ok peer) world ∧
      (shakeHands >>= fun _ => begin).perform (talk.joined peer world) = (.ok (), after) := by
  -- a launch that fails is a start that fails
  cases hlaunch : (talk.session.launch talk.session.server).perform talk.world with
  | mk result world =>
    cases result with
    | error failure =>
      rw [perform_start_unlaunched hidle hlaunch] at h
      cases h
    | ok peer =>
      rw [perform_start_launched hidle hlaunch] at h
      split at h
      · exact ⟨peer, world, hlaunch, h⟩
      · -- without streams the start fails
        obtain ⟨_, _, -, h⟩ := Step.perform_bind_eq_ok_iff.1 h
        obtain ⟨_, _, -, h⟩ := Step.perform_bind_eq_ok_iff.1 h
        cases h

end Start

end Dialog

end JuliaSession
