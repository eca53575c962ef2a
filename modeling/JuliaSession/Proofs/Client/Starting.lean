import JuliaSession.Proofs.Client.Documents
import JuliaSession.Proofs.Client.Unfailing
import JuliaSession.Proofs.Machine.Logging

/-!
# Starting a session

A start launches the process, shakes hands with it and tells it that the session begins. If the
handshake fails the process is taken down again; but what comes after the handshake may fail as
well, and then the process is left behind.

* `Talk.Steady`: nothing happens to the process, the documents and the clock. So it is for whatever
  is exchanged with a server, and none of that fails while the time of day can be written
  (`Dialog.discipline_safe`).
* `Dialog.vacates_kill`: taking the process down leaves nothing behind.
* `Dialog.ends_shakeHands`: a handshake ends well, or it leaves nothing behind.
* `Talk.start_all_or_nothing_iff`: a start is all or nothing exactly if the settings that it pushes
  fit together.
-/

namespace JuliaSession

open Step (Leads Total Safe)
open Text.Utf8 (Bytes)

variable {α β : Type}

/-! ### Steady sessions -/

namespace Talk

/-- Two moments of a session between which the client keeps its process and its documents, with the
same options and the same way to launch a process. -/
structure Attends (before after : Talk) : Prop where
  /-- The options are the same. -/
  options : after.session.client.options = before.session.client.options
  /-- A process is launched the same way. -/
  launch : after.session.launch = before.session.launch
  /-- The same documents are open. -/
  opened : after.session.client.opened = before.session.client.opened
  /-- A process that was held is held. -/
  held : before.session.peer.isSome → after.session.peer.isSome

instance : Std.Refl Attends := ⟨fun _ => ⟨rfl, rfl, rfl, id⟩⟩

instance : Trans Attends Attends Attends where
  trans h h' := ⟨h'.options.trans h.options, h'.launch.trans h.launch, h'.opened.trans h.opened,
    h'.held ∘ h.held⟩

/-- Two moments of a session that attends to its process all the time, with the client as ready as
before, and between which no time passes. -/
structure Steady (before after : Talk) : Prop extends Attends before after where
  /-- The client is ready as before. -/
  ready : after.session.client.ready = before.session.client.ready
  /-- It is the same time. -/
  now : after.world.desk.machine.now = before.world.desk.machine.now

instance : Std.Refl Steady := ⟨fun _ => ⟨⟨rfl, rfl, rfl, id⟩, rfl, rfl⟩⟩

instance : Trans Steady Steady Steady where
  trans h h' := ⟨Trans.trans h.toAttends h'.toAttends, h'.ready.trans h.ready, h'.now.trans h.now⟩

/-- The time of day can be written. -/
def Dated (talk : Talk) : Prop := talk.world.desk.checkYear = .ok ()

theorem Steady.dated {before after : Talk} (h : Steady before after) (hdated : before.Dated) :
    after.Dated := by
  rw [Dated, Desk.checkYear, h.now]
  exact hdated

end Talk

/-- No time passes between two moments of the world. -/
def World.SameTime (before after : World) : Prop :=
  after.desk.machine.now = before.desk.machine.now

instance : Std.Refl World.SameTime := ⟨fun _ => rfl⟩

instance : Trans World.SameTime World.SameTime World.SameTime := ⟨fun h h' => h'.trans h⟩

theorem Desk.now_emit (desk : Desk) (logger : Log.Logger) (level : Log.Level)
    (message : Log.Value) (extra : Log.Fields) :
    (desk.emit logger level message extra).2.machine.now = desk.machine.now := by
  have hlog := (logsOnly_emit logger level message extra { (default : World) with desk }).now
  rwa [perform_onDesk] at hlog

theorem Desk.emit_of_checkYear {desk : Desk} (h : desk.checkYear = .ok ()) (logger : Log.Logger)
    (level : Log.Level) (message : Log.Value) (extra : Log.Fields) :
    (desk.emit logger level message extra).1 = .ok () := by
  rw [emit_fst, h, ite_self]

namespace Dialog

open Talk (Attends Steady Dated)

/-- A step on the world in which no time passes. -/
theorem steady_act {step : Act α} (h : Leads World.SameTime step) : Leads Steady (act step) :=
  h.onPart fun hnow => ⟨⟨rfl, rfl, rfl, id⟩, rfl, hnow⟩

theorem steady_record (event : Event) : Leads Steady (act (Act.record event)) :=
  steady_act (.modify fun _ => rfl)

/-- Whatever is handled of a server's messages, the session stays steady. -/
theorem handles_steady : Handles Steady where
  emit logger level message extra :=
    steady_act ((logsOnly_emit logger level message extra).mono LogsOnly.now)
  accept peer message := steady_act (leads_accept (fun _ => .modify fun _ => rfl) peer message)
  hold _ _ := ⟨⟨rfl, rfl, rfl, fun _ => rfl⟩, rfl, rfl⟩
  feed _ _ := ⟨⟨rfl, rfl, rfl, id⟩, rfl, rfl⟩
  errLine _ _ := ⟨⟨rfl, rfl, rfl, id⟩, rfl, rfl⟩
  settle id outcome talk := by
    obtain ⟨pending, ended, hsettled⟩ := talk.session.client.settle_eq id outcome
    rw [perform_modifyClient, hsettled]
    exact ⟨⟨rfl, rfl, rfl, fun hheld => hheld⟩, rfl, rfl⟩
  sent _ := steady_record _
  handled _ _ := steady_record _

/-- Whatever is read of a server, the session stays steady. -/
theorem reads_steady : Reads Steady where
  toHandles := handles_steady
  drain _ _ := ⟨⟨rfl, rfl, rfl, id⟩, rfl, rfl⟩
  ended talk := by
    have hsettled := handles_steady.settleAll talk (.error talk.session.client.closedFailure)
    exact ⟨⟨hsettled.options, hsettled.launch, hsettled.opened, hsettled.held⟩, hsettled.ready,
      hsettled.now⟩
  exit talk code := by
    refine ⟨⟨rfl, rfl, rfl, fun hheld => ?_⟩, rfl, rfl⟩
    rwa [Option.isSome_map]

theorem steady_send (messages : List Json) : Leads Steady (send messages) :=
  handles_steady.send fun _ _ => steady_record _

theorem steady_notify (method : String) (params : Json) : Leads Steady (notify method params) :=
  handles_steady.notify (steady_record _)

theorem steady_request (method : String) (params : Json) (token : Option Completion.Token) :
    Leads Steady (request method params token) :=
  leads_request (fun _ => ⟨⟨rfl, rfl, rfl, id⟩, rfl, rfl⟩) (fun _ => steady_send _)
    reads_steady.exchange

theorem steady_outcome (id : Nat) : Leads Steady (outcome id) :=
  leads_outcome fun _ => ⟨⟨rfl, rfl, rfl, fun hheld => hheld⟩, rfl, rfl⟩

theorem steady_startTimer (service message : String) (fields : Log.Fields) :
    Leads Steady (act (Act.startTimer service message fields)) := by
  refine steady_act fun world => ?_
  rw [Act.startTimer, perform_onDesk]
  exact Desk.now_emit _ _ _ _ _

theorem steady_stopTimer (timer : Log.Timer) : Leads Steady (act (Act.stopTimer timer)) := by
  refine steady_act fun world => ?_
  rw [Act.stopTimer, perform_onDesk]
  exact Desk.now_emit _ _ _ _ _

/-! ### While the time of day can be written -/

theorem safe_of_steady {step : Dialog α} (h : Total step) (hsteady : Leads Steady step) :
    Safe Dated step := .of_total h (hsteady.mono Steady.dated)

/-- What is written down does not fail while the time of day can be written. -/
theorem safe_act {step : Act α} (hsteady : Leads Steady (act step))
    (h : ∀ world : World, world.desk.checkYear = .ok () →
      ∃ value, (step.perform world).1 = .ok value) : Safe Dated (act step) := by
  intro talk hdated
  obtain ⟨value, hvalue⟩ := h talk.world hdated
  exact ⟨value, _, Prod.ext hvalue rfl, (hsteady talk).dated hdated⟩

theorem safe_log (level : Log.Level) (text : String) (more : Log.Fields) :
    Safe Dated (log level text more) := by
  have hfields : Total (fields more) := discipline_total.bind discipline_total.client fun _ =>
    discipline_total.pure _
  refine .bind (safe_of_steady hfields (leads_fields more)) fun _ => ?_
  refine safe_act (handles_steady.emit _ _ _ _) fun world hyear => ⟨(), ?_⟩
  rw [Act.log, perform_onDesk, Desk.emit_of_checkYear hyear]

theorem safe_startTimer (service message : String) (fields : Log.Fields) :
    Safe Dated (act (Act.startTimer service message fields)) := by
  refine safe_act (steady_startTimer service message fields) fun world hyear => ?_
  rw [Act.startTimer, perform_onDesk, Desk.startTimer]
  dsimp only
  rw [Desk.emit_of_checkYear hyear]
  exact ⟨_, rfl⟩

theorem safe_stopTimer (timer : Log.Timer) : Safe Dated (act (Act.stopTimer timer)) := by
  refine safe_act (steady_stopTimer timer) fun world hyear => ⟨(), ?_⟩
  rw [Act.stopTimer, perform_onDesk, Desk.stopTimer]
  exact Desk.emit_of_checkYear hyear _ _ _ _

/-- Messages are sent and handled while the time of day can be written. -/
theorem discipline_safe : Discipline (Safe Dated) where
  pure value := safe_of_steady (discipline_total.pure value) (.pure value)
  bind := .bind
  session := safe_of_steady discipline_total.session leads_session
  modifySession change := .of_total (discipline_total.modifySession change) fun _ hdated => hdated
  record event := safe_of_steady (discipline_total.record event) (steady_record event)
  accept peer message :=
    safe_of_steady (discipline_total.accept peer message) (handles_steady.accept peer message)
  trace message more :=
    safe_of_steady (discipline_total.trace message more) (handles_steady.trace message more)
  log level text more :=
    safe_of_steady (discipline_total.log level text more) (handles_steady.log level text more)

theorem safe_exchangeWithin (rounds : Nat) : Safe Dated (exchangeWithin rounds) := by
  have hhandle (message : Json) : Safe Dated (handle message).attempt :=
    safe_of_steady (.attempt _) (handles_steady.handle message).attempt
  -- on the rounds that are left: each handles what has come, and more may have come meanwhile
  induction rounds with
  | zero => exact discipline_safe.pure _
  | succ rounds ih =>
    refine .bind discipline_safe.session fun _ => ?_
    split
    · exact discipline_safe.pure _
    · refine .bind discipline_safe.session fun _ => ?_
      dsimp only
      refine .bind (discipline_safe.modifySession _) fun _ => ?_
      refine .bind (discipline_safe.deliverAll hhandle _) fun _ => ?_
      split
      · split
        · exact discipline_safe.pure _
        · exact ih
      · exact discipline_safe.modifySession _
      · exact .bind (safe_log _ _ _) fun _ => discipline_safe.modifySession _

theorem safe_exchange : Safe Dated exchange := safe_exchangeWithin roundLimit

theorem safe_request (method : String) (params : Json) (token : Option Completion.Token) :
    Safe Dated (request method params token) := by
  refine .bind discipline_safe.client fun client => ?_
  dsimp only
  refine .bind (discipline_safe.modifySession _) fun _ => .bind (discipline_safe.send _) fun _ => ?_
  exact .bind safe_exchange fun _ => discipline_safe.pure _

theorem safe_outcome (id : Nat) : Safe Dated (outcome id) :=
  .bind discipline_safe.client fun _ => .bind (discipline_safe.modifySession _) fun _ =>
    discipline_safe.pure _

end Dialog

/-! ### Nothing left behind -/

namespace Talk

/-- Between two moments of a session everything is let go: no process is held, no request waits and
no document is open. The options and the way to launch a process are the same. -/
structure Releases (before after : Talk) : Prop where
  /-- The options are the same. -/
  options : after.session.client.options = before.session.client.options
  /-- A process is launched the same way. -/
  launch : after.session.launch = before.session.launch
  /-- No process is held. -/
  peer : after.session.peer = none
  /-- No request waits. -/
  pending : ∀ id, Assoc.get? id after.session.client.pending = none
  /-- No document is open. -/
  opened : after.session.client.opened = []

/-- Everything is let go, and the client is ready as before. -/
structure Vacates (before after : Talk) : Prop extends Releases before after where
  /-- The client is ready as before. -/
  ready : after.session.client.ready = before.session.client.ready

theorem Attends.releases {before between after : Talk} (h : Attends before between)
    (h' : Releases between after) : Releases before after :=
  { h' with options := h'.options.trans h.options, launch := h'.launch.trans h.launch }

theorem Steady.vacates {before between after : Talk} (h : Steady before between)
    (h' : Vacates between after) : Vacates before after :=
  ⟨h.releases h'.toReleases, h'.ready.trans h.ready⟩

/-- How a step of a session may end. -/
inductive Ends (before : Talk) : Except Failure α × Talk → Prop where
  /-- It ends well, and the session was steady. -/
  | well {value : α} {after : Talk} (h : Steady before after) : Ends before (.ok value, after)
  /-- It fails where the time of day cannot be written, and the session was steady. -/
  | undated {failure : Failure} {after : Talk} (h : Steady before after) (hdate : ¬ before.Dated) :
    Ends before (.error failure, after)
  /-- It fails and leaves nothing behind. -/
  | vacant {failure : Failure} {after : Talk} (h : Vacates before after) :
    Ends before (.error failure, after)

end Talk

namespace Dialog

open Talk (Attends Steady Dated Vacates Ends)

/-- Everything is let go after a step that does not fail. -/
theorem vacates_bind {step : Dialog α} {next : α → Dialog β} (h : Total step)
    (hsteady : Leads Steady step) (hnext : ∀ value, Leads Vacates (next value)) :
    Leads Vacates (step >>= next) := by
  intro talk
  obtain ⟨value, hrun⟩ := h.exists_run talk
  rw [Step.perform_bind_ok hrun]
  exact (hsteady talk).vacates (hnext value _)

theorem steady_takeDown (peer : Peer) : Leads Steady (act (takeDown peer)) := by
  have hrecord (event : Event) : Leads World.SameTime (Act.record event) := .modify fun _ => rfl
  refine steady_act (.bind (hrecord _) fun _ => .bind (hrecord _) fun _ => ?_)
  split
  · exact .bind (hrecord _) fun _ => hrecord _
  · exact .pure _

/-- Taking the process down leaves nothing behind. -/
theorem vacates_kill : Leads Vacates kill := by
  have hlast : Leads Vacates (modifySession fun session =>
      { session with peer := none, reader := none, client := session.client.disconnected }) := by
    -- settling the requests leaves the rest of the client as it is
    intro talk
    have hsettled := handles_steady.settleAll talk (.error .cancelled)
    exact ⟨⟨hsettled.options, hsettled.launch, rfl, fun id => Client.pending_settleAll _ id _, rfl⟩,
      hsettled.ready⟩
  have hrest := vacates_bind discipline_total.endErrors handles_steady.endErrors fun _ =>
    vacates_bind total_readOut handles_steady.readOut fun _ => hlast
  refine vacates_bind (discipline_total.modifySession _)
    (fun _ => ⟨⟨rfl, rfl, rfl, id⟩, rfl, rfl⟩) fun _ => ?_
  refine vacates_bind discipline_total.session leads_session fun _ => ?_
  dsimp only
  split
  · exact hrest
  · exact vacates_bind (total_act (total_takeDown _)) (steady_takeDown _) fun _ => hrest

/-! ### The handshake -/

/-- A step that does not fail while the time of day can be written. -/
theorem ends_of_safe {step : Dialog α} (h : Safe Dated step) (hsteady : Leads Steady step)
    (talk : Talk) : talk.Ends (step.perform talk) := by
  have hafter := hsteady talk
  -- where the time of day cannot be written the step may end well all the same
  by_cases hdated : talk.Dated
  · obtain ⟨value, after, hrun, -⟩ := h talk hdated
    rw [hrun] at hafter ⊢
    exact .well hafter
  · cases hrun : step.perform talk with
    | mk result after =>
      rw [hrun] at hafter
      cases result with
      | ok value => exact .well hafter
      | error failure => exact .undated hafter hdated

/-- A sequence ends as its parts do. -/
theorem ends_bind {step : Dialog α} {next : α → Dialog β}
    (h : ∀ talk : Talk, talk.Ends (step.perform talk))
    (hnext : ∀ value (talk : Talk), talk.Ends ((next value).perform talk)) (talk : Talk) :
    talk.Ends ((step >>= next).perform talk) := by
  have hstep := h talk
  rw [Step.perform_bind]
  -- by how the first step ends; only after a step that returned is there a second one, and then the
  -- dialog ends as the second does
  cases hrun : step.perform talk with
  | mk result between =>
    rw [hrun] at hstep
    cases hstep with
    | @well value _ hsteady =>
      have hrest := hnext value between
      dsimp only
      cases hrun : (next value).perform between with
      | mk result after =>
        rw [hrun] at hrest
        cases hrest with
        | well hlater => exact .well (Trans.trans hsteady hlater)
        | undated hlater hdate =>
          exact .undated (Trans.trans hsteady hlater) fun hdated => hdate (hsteady.dated hdated)
        | vacant hlater => exact .vacant (hsteady.vacates hlater)
    | undated hsteady hdate => exact .undated hsteady hdate
    | vacant hvacant => exact .vacant hvacant

/-- A step that takes the process down and fails leaves nothing behind. -/
theorem ends_kill_throw (failure : Failure) (talk : Talk) :
    talk.Ends ((kill >>= fun _ => (throw failure : Dialog α)).perform talk) := by
  obtain ⟨_, hrun⟩ := total_kill.exists_run talk
  rw [Step.perform_bind_ok hrun]
  exact .vacant (vacates_kill talk)

/-- A handshake ends well, or it leaves nothing behind, while the time of day can be written. -/
theorem ends_shakeHands (talk : Talk) : talk.Ends (shakeHands.perform talk) := by
  refine ends_bind (ends_of_safe ?_ (leads_fields [])) (fun _ => ?_) talk
  · exact .bind discipline_safe.client fun _ => discipline_safe.pure _
  refine ends_bind (ends_of_safe (safe_startTimer _ _ _) (steady_startTimer _ _ _)) fun _ => ?_
  refine ends_bind (ends_of_safe discipline_safe.client leads_client) fun _ => ?_
  refine ends_bind (ends_of_safe ?_ leads_cwd) fun _ => ?_
  · exact fun talk hdated => ⟨_, talk, perform_cwd talk, hdated⟩
  refine ends_bind (ends_of_safe (safe_request _ _ _) (steady_request _ _ _)) fun _ => ?_
  refine ends_bind (ends_of_safe (safe_outcome _) (steady_outcome _)) fun outcome => ?_
  refine ends_bind (ends_of_safe (safe_stopTimer _) (steady_stopTimer _)) fun _ => ?_
  refine ends_bind (ends_of_safe discipline_safe.client leads_client) fun _ => ?_
  -- up to here nothing can go wrong while the date can be written; the server did not answer, it
  -- answered with an error, or it sent its capabilities
  dsimp only
  split
  · exact ends_kill_throw _
  · exact ends_kill_throw _
  · exact ends_of_safe (discipline_safe.modifySession _) fun _ => ⟨⟨rfl, rfl, rfl, id⟩, rfl, rfl⟩

/-! ### After the handshake -/

/-- The settings are pushed if they fit together. -/
theorem exists_pushed {client : Client} {tree : Json.Members}
    (h : Pushed.tree client.options.setting client.options.configurationSections = .ok tree) :
    ∃ messages, client.pushed = .ok messages := by
  unfold Client.pushed
  split
  · exact ⟨_, rfl⟩
  · exact ⟨_, bind_eq_ok_iff.2 ⟨tree, h, rfl⟩⟩

theorem pushed_of_conflict {client : Client} {failure : Failure}
    (h : Pushed.tree client.options.setting client.options.configurationSections =
      .error failure) : client.pushed = .error failure := by
  unfold Client.pushed
  split
  next hnone =>
    rw [List.isEmpty_iff.1 hnone] at h
    cases h
  next =>
    rw [h]
    rfl

/-- After the handshake the client attends to the process, whatever happens. -/
theorem attends_begin : Leads Attends begin := by
  refine .bind ((steady_notify _ _).mono Steady.toAttends) fun _ => ?_
  refine .bind leads_client fun _ => .bind (.ofExcept _) fun _ => ?_
  refine .bind ((steady_send _).mono Steady.toAttends) fun _ => ?_
  refine .bind (reads_steady.exchange.mono Steady.toAttends) fun _ => ?_
  refine .bind (fun _ => ⟨rfl, rfl, rfl, id⟩) fun _ => ?_
  exact (handles_steady.log _ _ _).mono Steady.toAttends

/-- With settings that fit together the client gets ready. -/
theorem begin_of_tree {talk : Talk} (hdated : talk.Dated) {tree : Json.Members}
    (h : Pushed.tree talk.session.client.options.setting
      talk.session.client.options.configurationSections = .ok tree) :
    ∃ after, begin.perform talk = (.ok (), after) ∧ after.session.client.ready = true := by
  obtain ⟨_, told, htold, hstill⟩ := discipline_safe.notify "initialized" (.obj []) talk hdated
  have hoptions := ((steady_notify "initialized" (.obj [])).ends htold).options
  rw [← hoptions] at h
  obtain ⟨messages, hpushed⟩ := exists_pushed h
  obtain ⟨_, sent, hsent, hstill⟩ := discipline_safe.send messages told hstill
  obtain ⟨_, heard, hheard, hstill⟩ := safe_exchange sent hstill
  unfold begin
  rw [Step.perform_bind_ok htold, Step.perform_bind_ok (perform_client told), hpushed,
    Step.perform_bind_ok (Step.perform_ofExcept _ _), Step.perform_bind_ok hsent,
    Step.perform_bind_ok hheard, Step.perform_bind_ok (perform_modifyClient _ _)]
  -- the client is ready before that is written down
  obtain ⟨_, after, hlog, -⟩ := safe_log .info "language client ready"
    [("pid", Log.number Peer.processNumber)] { heard with
      session := { heard.session with
        client := { heard.session.client with ready := true } } } hstill
  refine ⟨after, hlog, ?_⟩
  rw [((handles_steady.log _ _ _).ends hlog).ready]

/-- Settings that do not fit together stop the start while the process is held. -/
theorem begin_of_conflict {talk : Talk} (hdated : talk.Dated) {failure : Failure}
    (h : Pushed.tree talk.session.client.options.setting
      talk.session.client.options.configurationSections = .error failure) :
    ∃ after, begin.perform talk = (.error failure, after) ∧ talk.Steady after := by
  obtain ⟨_, told, htold, -⟩ := discipline_safe.notify "initialized" (.obj []) talk hdated
  have hsteady := (steady_notify "initialized" (.obj [])).ends htold
  rw [← hsteady.options] at h
  refine ⟨told, ?_, hsteady⟩
  unfold begin
  rw [Step.perform_bind_ok htold, Step.perform_bind_ok (perform_client told),
    pushed_of_conflict h, Step.perform_bind_error (Step.perform_ofExcept _ _)]

end Dialog

/-! ### All or nothing -/

/-- The client is ready, and holds a process. -/
structure Session.Serving (session : Session) : Prop where
  /-- The client is ready. -/
  ready : session.client.ready = true
  /-- A process is held. -/
  held : session.peer.isSome

/-- The client is not ready, holds no process and waits for no request. -/
structure Session.Vacant (session : Session) : Prop where
  /-- The client is not ready. -/
  ready : session.client.ready = false
  /-- No process is held. -/
  peer : session.peer = none
  /-- No request waits. -/
  pending : ∀ id, Assoc.get? id session.client.pending = none

namespace Talk

open Dialog (start shakeHands begin)

/-- A start ends well with a client that serves, or it fails and leaves a client with nothing. -/
def AllOrNothing (talk : Talk) : Prop :=
  (∃ after, start.perform talk = (.ok (), after) ∧ after.session.Serving) ∨
    ∃ failure after, start.perform talk = (.error failure, after) ∧ after.session.Vacant

/-- The settings that are pushed fit together. -/
def Fits (talk : Talk) : Prop :=
  ∃ tree, Pushed.tree talk.session.client.options.setting
    talk.session.client.options.configurationSections = .ok tree

section Start

variable {talk : Talk} {world : World}

theorem allOrNothing_of_error {failure : Failure} {after : Talk}
    (h : start.perform talk = (.error failure, after)) :
    talk.AllOrNothing ↔ after.session.Vacant := by
  constructor
  · rintro (⟨_, hok, -⟩ | ⟨_, _, herror, hvacant⟩)
    · rw [h] at hok
      cases hok
    · rw [h] at herror
      cases herror
      exact hvacant
  · exact fun hvacant => .inr ⟨failure, after, h, hvacant⟩

/-- After a handshake that ended well, the process is kept whether or not the settings fit. -/
theorem allOrNothing_greeted_iff {greeted : Talk} (hdated : greeted.Dated)
    (hheld : greeted.session.peer.isSome)
    (hoptions : greeted.session.client.options = talk.session.client.options)
    (hstart : start.perform talk = begin.perform greeted) : talk.AllOrNothing ↔ talk.Fits := by
  unfold Fits
  rw [← hoptions]
  cases htree : Pushed.tree greeted.session.client.options.setting
    greeted.session.client.options.configurationSections with
  | ok tree =>
    obtain ⟨after, hbegin, hready⟩ := Dialog.begin_of_tree hdated htree
    rw [hbegin] at hstart
    have hstill := (Dialog.attends_begin.ends hbegin).held hheld
    exact ⟨fun _ => ⟨tree, rfl⟩, fun _ => .inl ⟨after, hstart, hready, hstill⟩⟩
  | error failure =>
    obtain ⟨after, hbegin, hafter⟩ := Dialog.begin_of_conflict hdated htree
    rw [hbegin] at hstart
    rw [allOrNothing_of_error hstart]
    -- the settings conflict, so that the start fails with the process still held
    constructor
    · intro hvacant
      have hstill := hafter.held hheld
      rw [hvacant.peer] at hstill
      cases hstill
    · rintro ⟨tree, ⟨⟩⟩

variable (hidle : talk.session.running = false)
include hidle

/-- A start whose launch fails leaves the requests waiting that waited before. -/
theorem allOrNothing_unlaunched_iff {failure : Failure} (hnone : talk.session.peer = none)
    (h : talk.Launches (.error failure) world) :
    talk.AllOrNothing ↔ ∀ id, Assoc.get? id talk.session.client.pending = none := by
  rw [allOrNothing_of_error (Dialog.perform_start_unlaunched hidle h)]
  exact ⟨fun hvacant => hvacant.pending, fun hpending => ⟨rfl, hnone, hpending⟩⟩

/-- A process without streams is taken down. -/
theorem allOrNothing_unpiped {peer : Peer} (h : talk.Launches (.ok peer) world)
    (hpiped : peer.piped = false) : talk.AllOrNothing := by
  obtain ⟨_, hkill⟩ := Dialog.total_kill.exists_run (talk.launched peer world)
  have hvacates := Dialog.vacates_kill (talk.launched peer world)
  have hstart := Dialog.perform_start_launched hidle h
  rw [hpiped, if_neg Bool.false_ne_true, Step.perform_bind_ok hkill,
    Step.perform_bind_ok (Dialog.perform_client _), Step.perform_throw] at hstart
  rw [allOrNothing_of_error hstart]
  exact ⟨hvacates.ready, hvacates.peer, hvacates.pending⟩

/-- A process with streams is taken down if the handshake fails, and kept otherwise, whether or not
the client can go on. -/
theorem allOrNothing_joined_iff {peer : Peer} (h : talk.Launches (.ok peer) world)
    (hpiped : peer.piped = true) (hdate : world.desk.checkYear = .ok ()) :
    talk.AllOrNothing ↔ ∀ greeted,
      shakeHands.perform (talk.joined peer world) = (.ok (), greeted) → talk.Fits := by
  have hstart := Dialog.perform_start_launched hidle h
  rw [hpiped, if_pos rfl] at hstart
  have hends := Dialog.ends_shakeHands (talk.joined peer world)
  cases hshake : shakeHands.perform (talk.joined peer world) with
  | mk result greeted =>
    rw [hshake] at hends
    cases hends with
    | undated _ hundated => exact absurd hdate hundated
    | vacant hvacates =>
      rw [Step.perform_bind_error hshake] at hstart
      rw [allOrNothing_of_error hstart]
      refine ⟨fun _ _ => nofun, fun _ => ⟨hvacates.ready, hvacates.peer, hvacates.pending⟩⟩
    | well hsteady =>
      rw [Step.perform_bind_ok hshake] at hstart
      -- the options are those of the client before the start
      have hoptions : greeted.session.client.options = talk.session.client.options :=
        hsteady.options
      rw [allOrNothing_greeted_iff (hsteady.dated hdate) (hsteady.held rfl) hoptions hstart]
      exact ⟨fun hfits _ _ => hfits, fun hfits => hfits greeted rfl⟩

end Start

/-- A start of a client that holds no process is all or nothing, whatever the server does, exactly
if no request waits where the launch fails, and the settings that are pushed fit together where the
server answers the handshake as it should. -/
theorem start_all_or_nothing_iff {talk : Talk} (hnone : talk.session.peer = none)
    (hdate : ∀ peer world, talk.Launches (.ok peer) world → world.desk.checkYear = .ok ()) :
    talk.AllOrNothing ↔
      (∀ failure world, talk.Launches (.error failure) world →
        ∀ id, Assoc.get? id talk.session.client.pending = none) ∧
      ∀ peer world greeted, talk.Launches (.ok peer) world → peer.piped = true →
        shakeHands.perform (talk.joined peer world) = (.ok (), greeted) → talk.Fits := by
  have hidle : talk.session.running = false := by
    rw [Session.running, hnone, Option.any_none]
  cases hlaunch : (talk.session.launch talk.session.server).perform talk.world with
  | mk result world =>
    -- the launch comes to one result only
    have hsame {other : Except Failure Peer} {world' : World} (h : talk.Launches other world') :
        other = result ∧ world' = world := by
      rw [Launches, hlaunch, Prod.mk.injEq] at h
      exact ⟨h.1.symm, h.2.symm⟩
    cases result with
    | error failure =>
      rw [allOrNothing_unlaunched_iff hidle hnone hlaunch]
      constructor
      · refine fun hpending => ⟨fun _ _ _ => hpending, fun peer world' greeted h => ?_⟩
        cases (hsame h).1
      · exact fun h => h.1 failure world hlaunch
    | ok peer =>
      cases hpiped : peer.piped with
      | false =>
        refine ⟨fun _ => ⟨?_, ?_⟩, fun _ => allOrNothing_unpiped hidle hlaunch hpiped⟩
        · intro failure world' h
          cases (hsame h).1
        · intro peer' world' greeted h hpiped'
          obtain ⟨hpeer, -⟩ := hsame h
          cases hpeer
          rw [hpiped] at hpiped'
          cases hpiped'
      | true =>
        rw [allOrNothing_joined_iff hidle hlaunch hpiped (hdate peer world hlaunch)]
        constructor
        · refine fun hfits => ⟨?_, ?_⟩
          · intro failure world' h
            cases (hsame h).1
          · intro peer' world' greeted h _ hgreeted
            obtain ⟨hpeer, rfl⟩ := hsame h
            cases hpeer
            exact hfits greeted hgreeted
        · exact fun h greeted hgreeted => h.2 peer world greeted hlaunch hpiped hgreeted

/-- A session that pushes two settings of which one is in the way of the other. -/
def conflicting : Talk :=
  ⟨default,
    { client :=
        { id := "julia", name := "Julia",
          options := { root := "/", configurationSections := ["a", "a.b"] } }
      server := default
      launch := Peer.pretend (.ok { engine := .rehearsed [] }) }⟩

/-- The server answers as it should, and the start of the session fails with the process held. -/
theorem start_leaves_process :
    conflicting.session.peer = none ∧ ¬ conflicting.AllOrNothing := by
  refine ⟨rfl, ?_⟩
  have hlaunch : conflicting.Launches (.ok { engine := .rehearsed [] })
      { (default : World) with events := [.spawn [""] [] none] } := rfl
  have hdate : ∀ peer world, conflicting.Launches (.ok peer) world →
      world.desk.checkYear = .ok () := by
    intro peer world h
    rw [Launches, hlaunch, Prod.mk.injEq] at h
    rw [← h.2]
    rfl
  rw [start_all_or_nothing_iff rfl hdate]
  rintro ⟨-, hfits⟩
  -- the handshake itself succeeds, so that only the settings can be what keeps the start back
  have hgreeted : ((shakeHands.perform (conflicting.joined { engine := .rehearsed [] }
      { (default : World) with events := [.spawn [""] [] none] })).1.isOk) = true := by
    decide +kernel
  obtain ⟨_, greeted, hshake⟩ := Step.exists_run_of_isOk hgreeted
  obtain ⟨tree, htree⟩ := hfits _ _ _ hlaunch rfl hshake
  cases htree

end Talk

end JuliaSession
