import JuliaSession.Proofs.Client.Bookkeeping

/-!
# What a client keeps

Whatever a session exchanges with a server, the client keeps its handlers, its connection and
whether it is ready, and it keeps hold of the process (`Talk.Even`). A start and a stop change the
last three: the client is connected after the process is launched and ready after that, and the
process goes together with both (`Session.Grounded`). The handlers stay through all of it.

* `Dialog.reads_even`: what comes from a server is handled evenly.
* `Dialog.kept_start`, `Dialog.kept_stop`: a start and a stop keep the handlers, and a grounded
  session grounded.
* `Dialog.ready_of_start_ok`: a start that ends well leaves the client ready.
* `Talk.grounded_after`: a session is grounded however it is used.
-/

namespace JuliaSession

open Step (Leads LeadsWell)

variable {α : Type}

namespace Talk

/-- Between two moments of a session the client keeps its handlers and its connection, and a process
that was held is held. -/
structure Bound (before after : Talk) : Prop where
  /-- The handlers are the same. -/
  handlers : after.session.client.handlers = before.session.client.handlers
  /-- The client is connected as before. -/
  connected : after.session.client.connected = before.session.client.connected
  /-- A process that was held is held. -/
  held : before.session.peer.isSome → after.session.peer.isSome

instance : Std.Refl Bound := ⟨fun _ => ⟨rfl, rfl, id⟩⟩

instance : Trans Bound Bound Bound where
  trans h h' := ⟨h'.handlers.trans h.handlers, h'.connected.trans h.connected, h'.held ∘ h.held⟩

/-- Moreover the client is as ready as before. -/
structure Even (before after : Talk) : Prop extends Bound before after where
  /-- The client is ready as before. -/
  ready : after.session.client.ready = before.session.client.ready

instance : Std.Refl Even := ⟨fun _ => ⟨⟨rfl, rfl, id⟩, rfl⟩⟩

instance : Trans Even Even Even where
  trans h h' := ⟨Trans.trans h.toBound h'.toBound, h'.ready.trans h.ready⟩

end Talk

namespace Talk

/-- A client that is not connected stays so; it keeps its handlers, and is as ready as before. -/
structure Hushed (before after : Talk) : Prop where
  /-- The handlers are the same. -/
  handlers : after.session.client.handlers = before.session.client.handlers
  /-- The client is ready as before. -/
  ready : after.session.client.ready = before.session.client.ready
  /-- A client that is not connected stays so. -/
  connected : before.session.client.connected = false → after.session.client.connected = false

instance : Std.Refl Hushed := ⟨fun _ => ⟨rfl, rfl, id⟩⟩

instance : Trans Hushed Hushed Hushed where
  trans h h' := ⟨h'.handlers.trans h.handlers, h'.ready.trans h.ready, h'.connected ∘ h.connected⟩

theorem Even.hushed {before after : Talk} (h : Even before after) : Hushed before after :=
  ⟨h.handlers, h.ready, fun hconnected => h.connected.trans hconnected⟩

end Talk

namespace Session

/-- A client that is ready is connected, and one that is connected holds a process. -/
structure Grounded (session : Session) : Prop where
  /-- A client that is ready is connected. -/
  connected : session.client.ready = true → session.client.connected = true
  /-- A client that is connected holds a process. -/
  held : session.client.connected = true → session.peer.isSome

/-- Without a process a client is neither connected nor ready. -/
theorem Grounded.idle {session : Session} (h : session.Grounded) (hnone : session.peer = none) :
    session.client.connected = false ∧ session.client.ready = false := by
  have hconnected : session.client.connected = false := by
    refine Bool.eq_false_iff.2 fun hconnected => ?_
    have hheld := h.held hconnected
    rw [hnone] at hheld
    cases hheld
  refine ⟨hconnected, Bool.eq_false_iff.2 fun hready => ?_⟩
  rw [h.connected hready] at hconnected
  cases hconnected

/-- The client is not ready yet, and holds a process if it is connected. -/
structure Rising (session : Session) : Prop where
  /-- The client is not ready. -/
  ready : session.client.ready = false
  /-- A client that is connected holds a process. -/
  held : session.client.connected = true → session.peer.isSome

theorem Rising.grounded {session : Session} (h : session.Rising) : session.Grounded where
  connected hready := by
    rw [h.ready] at hready
    cases hready
  held := h.held

end Session

namespace Talk

/-- The handlers are kept, and so is a property of the session. -/
structure Kept (holds : Session → Prop) (before after : Talk) : Prop where
  /-- The handlers are the same. -/
  handlers : after.session.client.handlers = before.session.client.handlers
  /-- The property is kept. -/
  keeps : holds before.session → holds after.session

instance (holds : Session → Prop) : Std.Refl (Kept holds) := ⟨fun _ => ⟨rfl, id⟩⟩

instance (holds : Session → Prop) : Trans (Kept holds) (Kept holds) (Kept holds) where
  trans h h' := ⟨h'.handlers.trans h.handlers, h'.keeps ∘ h.keeps⟩

theorem Even.rising {before after : Talk} (h : Even before after) :
    Kept Session.Rising before after where
  handlers := h.handlers
  keeps hrising := by
    refine ⟨h.ready.trans hrising.ready, fun hconnected => h.held (hrising.held ?_)⟩
    rw [← h.connected, hconnected]

theorem Even.grounded {before after : Talk} (h : Even before after) :
    Kept Session.Grounded before after where
  handlers := h.handlers
  keeps hgrounded := by
    constructor
    · rw [h.ready, h.connected]
      exact hgrounded.connected
    · rw [h.connected]
      exact h.held ∘ hgrounded.held

end Talk

namespace Dialog

open Talk (Bound Even Hushed Kept)
open Session (Grounded Rising)

/-! ### Exchanges -/

theorem even_act (step : Act α) : Leads Even (act step) := fun _ => ⟨⟨rfl, rfl, id⟩, rfl⟩

theorem handles_even : Handles Even where
  emit _ _ _ _ := even_act _
  accept _ _ := even_act _
  hold _ _ := ⟨⟨rfl, rfl, fun _ => rfl⟩, rfl⟩
  feed _ _ := ⟨⟨rfl, rfl, id⟩, rfl⟩
  errLine _ _ := ⟨⟨rfl, rfl, id⟩, rfl⟩
  settle id outcome talk := by
    obtain ⟨pending, ended, hsettled⟩ := talk.session.client.settle_eq id outcome
    rw [perform_modifyClient, hsettled]
    exact ⟨⟨rfl, rfl, fun hheld => hheld⟩, rfl⟩
  sent _ := even_act _
  handled _ _ := even_act _

/-- Whatever is read of a server, the client stays even. -/
theorem reads_even : Reads Even where
  toHandles := handles_even
  drain _ _ := ⟨⟨rfl, rfl, id⟩, rfl⟩
  ended talk := by
    have hsettled := handles_even.settleAll talk (.error talk.session.client.closedFailure)
    exact ⟨⟨hsettled.handlers, hsettled.connected, hsettled.held⟩, hsettled.ready⟩
  exit talk code := ⟨⟨rfl, rfl, fun hheld => by rwa [Option.isSome_map]⟩, rfl⟩

theorem even_send (messages : List Json) : Leads Even (send messages) :=
  handles_even.send fun _ _ => even_act _

theorem even_notify (method : String) (params : Json) : Leads Even (notify method params) :=
  handles_even.notify (even_act _)

theorem even_request (method : String) (params : Json) (token : Option Completion.Token) :
    Leads Even (request method params token) :=
  leads_request (fun _ => ⟨⟨rfl, rfl, id⟩, rfl⟩) (fun _ => even_send _) reads_even.exchange

theorem even_outcome (id : Nat) : Leads Even (outcome id) :=
  leads_outcome fun _ => ⟨⟨rfl, rfl, fun hheld => hheld⟩, rfl⟩

theorem even_log (level : Log.Level) (message : String) (more : Log.Fields) :
    Leads Even (log level message more) :=
  handles_even.log level message more

/-! ### Taking the process down -/

theorem hushed_kill : Leads Hushed kill := by
  -- ending the requests that wait touches neither handlers nor readiness, and then the process is
  -- gone
  have hlast : Leads Hushed (modifySession fun session =>
      { session with peer := none, reader := none, client := session.client.disconnected }) := by
    intro talk
    have hsettled := handles_even.settleAll talk (.error .cancelled)
    exact ⟨hsettled.handlers, hsettled.ready, fun _ => rfl⟩
  have hrest := Leads.bind (handles_even.endErrors.mono Even.hushed) fun _ =>
    .bind (handles_even.readOut.mono Even.hushed) fun _ => hlast
  have hoff : Leads Hushed (modifyClient fun client => { client with connected := false }) :=
    fun _ => ⟨rfl, rfl, fun _ => rfl⟩
  refine .bind hoff fun _ => .bind leads_session fun _ => ?_
  dsimp only
  split
  · exact hrest
  · exact .bind ((even_act _).mono Even.hushed) fun _ => hrest

/-- Taking the process down disconnects the client. -/
theorem disconnected_of_kill (talk : Talk) :
    (kill.perform talk).2.session.client.connected = false := by
  have hkill : LeadsWell (fun _ after => after.session.client.connected = false) kill :=
    after_kill fun _ => rfl
  obtain ⟨_, hrun⟩ := total_kill.exists_run talk
  exact hkill _ _ _ hrun

/-- Taking the process down keeps a client unready. -/
theorem kept_kill : Leads (Kept Rising) kill := by
  intro talk
  have hhushed := hushed_kill talk
  refine ⟨hhushed.handlers, fun hrising => ⟨hhushed.ready.trans hrising.ready, ?_⟩⟩
  rw [disconnected_of_kill]
  exact nofun

/-! ### The start -/

theorem kept_of_even {step : Dialog α} (h : Leads Even step) : Leads (Kept Rising) step :=
  h.mono Even.rising

theorem kept_shakeHands : Leads (Kept Rising) shakeHands := by
  refine .bind (leads_fields _) fun _ => .bind (kept_of_even (even_act _)) fun _ => ?_
  refine .bind leads_client fun _ => .bind leads_cwd fun _ => ?_
  refine .bind (kept_of_even (even_request _ _ _)) fun _ => ?_
  refine .bind (kept_of_even (even_outcome _)) fun _ => ?_
  refine .bind (kept_of_even (even_act _)) fun _ => .bind leads_client fun _ => ?_
  dsimp only
  split
  · exact .bind kept_kill fun _ => .throw _
  · exact .bind kept_kill fun _ => .throw _
  · exact fun _ => ⟨rfl, fun hrising => ⟨hrising.ready, hrising.held⟩⟩

theorem bound_begin : Leads Bound begin := by
  have hready : Leads Bound (modifyClient fun client => { client with ready := true }) :=
    fun _ => ⟨rfl, rfl, id⟩
  refine .bind ((even_notify _ _).mono Even.toBound) fun _ => .bind leads_client fun _ => ?_
  refine .bind (.ofExcept _) fun _ => .bind ((even_send _).mono Even.toBound) fun _ => ?_
  refine .bind (reads_even.exchange.mono Even.toBound) fun _ => ?_
  exact .bind hready fun _ => (even_log _ _ _).mono Even.toBound

/-- What begins well leaves the client ready. -/
theorem ready_of_begin : LeadsWell (fun _ after => after.session.client.ready = true) begin := by
  have hready : LeadsWell (fun _ after : Talk => after.session.client.ready = true)
      (modifyClient fun client => { client with ready := true }) := by
    rintro talk _ _ ⟨⟩
    rfl
  refine .last _ fun _ => .last _ fun _ => .last _ fun _ => .last _ fun _ => .last _ fun _ => ?_
  refine hready.kept fun _ => (even_log _ _ _).mono ?_
  intro before after heven hbefore
  rw [heven.ready, hbefore]

/-- A start that ends well leaves the client ready. -/
theorem ready_of_start_ok {talk after : Talk} (hidle : talk.session.running = false)
    (h : start.perform talk = (.ok (), after)) : after.session.client.ready = true := by
  obtain ⟨peer, world, -, hjoined⟩ := joined_of_start_ok hidle h
  obtain ⟨_, greeted, -, hbegin⟩ := Step.perform_bind_eq_ok_iff.1 hjoined
  exact ready_of_begin _ _ _ hbegin

/-- What begins at a process that is held keeps hold of it. -/
theorem grounded_greet {talk : Talk} (hrising : talk.session.Rising)
    (hconnected : talk.session.client.connected = true) :
    Kept Grounded talk ((shakeHands >>= fun _ => begin).perform talk).2 := by
  have hkept := kept_shakeHands talk
  rw [Step.perform_bind]
  -- a handshake that fails has taken the process down again
  cases hgreet : shakeHands.perform talk with
  | mk result greeted =>
    rw [hgreet] at hkept
    have hrisen := hkept.keeps hrising
    cases result with
    | error failure => exact ⟨hkept.handlers, fun _ => hrisen.grounded⟩
    | ok =>
      have hbound := bound_begin greeted
      have hstill : greeted.session.client.connected = true :=
        (sameDocuments_shakeHands _ _ _ hgreet).connected.trans hconnected
      refine ⟨hbound.handlers.trans hkept.handlers, fun _ => ⟨fun _ => ?_, fun _ => ?_⟩⟩
      · exact hbound.connected.trans hstill
      · exact hbound.held (hrisen.held hstill)

/-- A start keeps the handlers, and a grounded session grounded. -/
theorem kept_start : Leads (Kept Grounded) start := by
  intro talk
  cases hidle : talk.session.running with
  | true =>
    unfold start
    rw [Step.perform_bind_ok (perform_session talk), hidle]
    exact ⟨rfl, id⟩
  | false =>
    cases hlaunch : (talk.session.launch talk.session.server).perform talk.world with
    | mk result world =>
      cases result with
      -- nothing was launched: the process before is held on to if the client is connected to it
      | error failure =>
        rw [perform_start_unlaunched hidle hlaunch]
        exact ⟨rfl, fun hgrounded => ⟨nofun, hgrounded.held⟩⟩
      | ok peer =>
        rw [perform_start_launched hidle hlaunch]
        split
        · have hjoined : (talk.joined peer world).session.Rising := ⟨rfl, fun _ => rfl⟩
          have hgreet := grounded_greet hjoined rfl
          exact ⟨hgreet.handlers, fun _ => hgreet.keeps hjoined.grounded⟩
        · have hlaunched : (talk.launched peer world).session.Rising := ⟨rfl, fun _ => rfl⟩
          have hkilled := Leads.bind kept_kill
            (fun _ => .bind leads_client fun client => .throw (α := Unit)
              (.serverStart (client.name ++ ": server stdio not available")))
            (talk.launched peer world)
          exact ⟨hkilled.handlers, fun _ => (hkilled.keeps hlaunched).grounded⟩

/-! ### The stop -/

theorem even_askToShutDown : Leads Even askToShutDown := by
  refine .bind (even_request _ _ _) fun _ => .bind (even_outcome _) fun _ => ?_
  split
  · exact even_notify _ _
  · exact even_log _ _ _
  · exact even_log _ _ _

/-- How a stop ends, whether or not the server was asked to shut down. -/
def goDown : Dialog Unit := do
  modifyClient fun client => { client with ready := false }
  kill
  log .info "stopped" []

theorem kept_goDown : Leads (Kept Grounded) goDown := by
  intro talk
  -- once it is not ready, the client counts as one that rises, and a kill keeps that
  have hrest := Leads.bind kept_kill (fun _ => kept_of_even (even_log .info "stopped" []))
    { talk with session := { talk.session with
      client := { talk.session.client with ready := false } } }
  unfold goDown
  rw [Step.perform_bind_ok (perform_modifyClient _ talk)]
  exact ⟨hrest.handlers, fun hgrounded => (hrest.keeps ⟨rfl, hgrounded.held⟩).grounded⟩

/-- A stop keeps the handlers, and a grounded session grounded. -/
theorem kept_stop : Leads (Kept Grounded) stop := by
  refine .bind leads_session fun _ => ?_
  dsimp only
  split
  · exact .pure _
  · refine .bind ((even_log _ _ _).mono Even.grounded) fun _ => .bind leads_client fun _ => ?_
    refine .bind leads_session fun _ => ?_
    split
    · exact .bind (even_askToShutDown.mono Even.grounded) fun _ => kept_goDown
    · exact kept_goDown

end Dialog

/-! ### Uses -/

/-- The use changes which handlers are registered. -/
def Use.Rewires : Use → Prop
  | .subscribe .. | .unsubscribe .. => True
  | _ => False

namespace Talk

open Dialog (even_request even_send even_act reads_even handles_even kept_start kept_stop)
open Session (Grounded)

/-- What a client says about documents is said evenly. -/
theorem even_update {change : Client → Client × List Json} {use : Use}
    (h : ∀ client : Client, client.Says (use.said? client) (change client)) :
    Leads Even (Dialog.update change) := by
  refine Dialog.leads_update (fun talk => ?_) (fun _ => even_send _) reads_even.exchange
  rw [Dialog.perform_modifyClient, (h talk.session.client).table]
  exact ⟨⟨rfl, rfl, id⟩, rfl⟩

/-- Every use that does not register or take back a handler keeps the handlers, and a grounded
session grounded. -/
theorem kept_use {use : Use} (hkeeps : ¬ use.Rewires) : Leads (Kept Grounded) use.dialog := by
  have heven (h : Leads Even use.dialog) : Leads (Kept Grounded) use.dialog :=
    h.mono Even.grounded
  -- starts and stops alone are not even: they take a process on or down
  cases use with
  | start => exact kept_start
  | stop => exact kept_stop
  | awaitReady => exact heven Dialog.leads_awaitReady
  | waitClosed => exact heven (.bind (Dialog.leads_waitClosed (even_act _)) fun _ => .pure _)
  | request method params => exact heven (.bind (even_request _ _ _) fun _ => .pure _)
  | complete uri line character token =>
    exact heven (.bind (.bind Dialog.leads_client fun _ => even_request _ _ _) fun _ => .pure _)
  | pickUp id => exact heven (.bind (Dialog.even_outcome id) fun _ => .pure _)
  | cancel id => exact heven (handles_even.settle id _)
  | notify method params => exact heven (Dialog.even_notify method params)
  | openDocument document =>
    exact heven (even_update fun client => client.says_openDocument document)
  | changeDocument document =>
    exact heven (even_update fun client => client.says_changeDocument document)
  | closeDocument uri => exact heven (even_update fun client => client.says_closeDocument uri)
  | forwardFile path kind =>
    exact heven (.bind (Dialog.leads_forwardFile even_send reads_even.exchange path kind)
      fun _ => .pure _)
  | subscribe method handler => exact absurd trivial hkeeps
  | unsubscribe method handler => exact absurd trivial hkeeps
  | deliver message => exact heven (handles_even.deliver message)
  | serverWrites bytes => exact heven (reads_even.serverWrites bytes)
  | serverReports bytes => exact heven (reads_even.serverReports bytes)
  | serverExits code => exact heven (reads_even.serverExits code)

/-- Every use keeps a grounded session grounded. -/
theorem grounded_use (use : Use) : Leads (Keeps Grounded) use.dialog := by
  cases use with
  | subscribe method handler => exact fun talk hgrounded => ⟨hgrounded.connected, hgrounded.held⟩
  | unsubscribe method handler =>
    intro talk hgrounded
    rw [Use.dialog, Dialog.perform_modifyClient]
    unfold Client.unsubscribe
    split
    · split <;> exact ⟨hgrounded.connected, hgrounded.held⟩
    · exact ⟨hgrounded.connected, hgrounded.held⟩
  | _ => exact (kept_use id).mono Kept.keeps

/-- A session is grounded however it is used. -/
theorem grounded_after {talk : Talk} (h : talk.session.Grounded) (uses : List Use) :
    (talk.after uses).session.Grounded := by
  induction uses generalizing talk with
  | nil => exact h
  | cons use rest ih => exact ih (grounded_use use talk h)

end Talk

end JuliaSession
