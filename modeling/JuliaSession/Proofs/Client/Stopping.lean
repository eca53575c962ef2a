import JuliaSession.Proofs.Client.Keeping

/-!
# How a session is stopped

A stop asks a server that is ready to shut down, lets it exit if it agrees, and takes the process
down in any case. While the server is asked it can ask back, and the client answers; once the
process is taken down nothing is written any more.

* `Dialog.reads_answers`: whatever comes from a server, nothing but answers is written for it.
* `Dialog.sent_kill`: taking the process down writes nothing.
* `Talk.Parting`: what a stop may write, and `Dialog.parting_stop`, that it does.
* `Talk.stop_leaves_nothing`: a stop of a session, however it was used before, ends well and leaves
  nothing of the process.
-/

namespace JuliaSession

open Step (Leads LeadsWell Safe)

/-! ### What is written -/

/-- The message that was written to the server, if that is what was done. -/
def Event.sent? : Event → Option Json
  | .sent message => some message
  | _ => none

/-- The messages that were written to the server, the first one first. -/
def World.sent (world : World) : List Json := world.events.filterMap Event.sent?

theorem World.SameEvents.sent {before after : World} (h : before.SameEvents after) :
    after.sent = before.sent := congrArg (List.filterMap Event.sent?) h

theorem Act.sent_record (event : Event) (world : World) :
    ((record event).perform world).2.sent = world.sent ++ event.sent?.toList := by
  change (world.events ++ [event]).filterMap Event.sent? = _
  rw [List.filterMap_append]
  cases hsent : event.sent? with
  | none => rw [List.filterMap_cons_none hsent]; rfl
  | some message => rw [List.filterMap_cons_some hsent]; rfl

namespace Talk

/-- Between two moments of a session nothing but answers was written to the server. -/
def Answers (before after : Talk) : Prop :=
  ∃ answers, (∀ message ∈ answers, Client.Automatic message) ∧
    after.world.sent = before.world.sent ++ answers

theorem SameEvents.answers {before after : Talk} (h : SameEvents before after) :
    Answers before after :=
  ⟨[], nofun, (World.SameEvents.sent h).trans (List.append_nil _).symm⟩

instance : Std.Refl Answers := ⟨fun _ => SameEvents.answers rfl⟩

instance : Trans Answers Answers Answers where
  trans h h' := by
    obtain ⟨answers, hanswers, hwritten⟩ := h
    obtain ⟨later, hlater, hwritten'⟩ := h'
    refine ⟨answers ++ later, fun message hmessage => ?_, ?_⟩
    · exact (List.mem_append.1 hmessage).elim (hanswers message) (hlater message)
    · rw [hwritten', hwritten, List.append_assoc]

/-- A client that is not connected stays so, and nothing is written to the server. -/
def Mute (before after : Talk) : Prop :=
  before.session.client.connected = false →
    after.session.client.connected = false ∧ after.world.sent = before.world.sent

instance : Std.Refl Mute := ⟨fun _ hoff => ⟨hoff, rfl⟩⟩

instance : Trans Mute Mute Mute where
  trans h h' hoff := by
    obtain ⟨hstill, hsent⟩ := h hoff
    obtain ⟨hlast, hlater⟩ := h' hstill
    exact ⟨hlast, hlater.trans hsent⟩

end Talk

namespace Dialog

open Talk (Answers Mute)

theorem answers_record {event : Event}
    (h : ∀ message, event.sent? = some message → Client.Automatic message) :
    Leads Answers (act (Act.record event)) := by
  intro talk
  refine ⟨event.sent?.toList, fun message hmessage => h message (Option.mem_toList.1 hmessage), ?_⟩
  exact Act.sent_record event talk.world

/-- Whatever comes from a server, nothing but answers is written for it. -/
theorem reads_answers : Reads Answers where
  emit _ _ _ _ := (quiet_sameEvents.emit _ _ _ _).mono Talk.SameEvents.answers
  accept _ _ := (quiet_sameEvents.accept _ _).mono Talk.SameEvents.answers
  hold _ _ := Talk.SameEvents.answers rfl
  feed _ _ := Talk.SameEvents.answers rfl
  errLine _ _ := Talk.SameEvents.answers rfl
  settle _ _ _ := Talk.SameEvents.answers rfl
  sent h := answers_record fun _ hsent => by cases hsent; exact h
  handled _ _ := answers_record nofun
  drain _ _ := Talk.SameEvents.answers rfl
  ended _ := Talk.SameEvents.answers rfl
  exit _ _ := Talk.SameEvents.answers rfl

/-! ### Taking the process down -/

theorem mute_act {step : Act α} (h : ∀ world, (step.perform world).2.sent = world.sent) :
    Leads Mute (act step) := fun talk hoff => ⟨hoff, h talk.world⟩

/-- What is no message is no word to the server. -/
theorem mute_record {event : Event} (h : event.sent? = none) :
    Leads Mute (act (Act.record event)) := mute_act fun world => by
  rw [Act.sent_record, h]
  exact List.append_nil _

/-- A client that is not connected handles messages without a word. -/
theorem carries_mute : Carries Mute where
  emit _ _ _ _ := mute_act fun world => (Act.sameEvents_onDesk _ world).sent
  accept peer message := mute_act fun world => (sameEvents_accept peer message world).sent
  hold _ _ hoff := ⟨hoff, rfl⟩
  feed _ _ hoff := ⟨hoff, rfl⟩
  errLine _ _ hoff := ⟨hoff, rfl⟩
  settle id outcome talk hoff := by
    obtain ⟨pending, ended, hsettled⟩ := talk.session.client.settle_eq id outcome
    rw [perform_modifyClient, hsettled]
    exact ⟨hoff, rfl⟩
  post {message} _ talk hoff := by
    rw [Step.perform_bind_ok (perform_client talk), Client.posted, hoff]
    exact ⟨hoff, rfl⟩
  handled _ _ := mute_record rfl

theorem mute_takeDown (peer : Peer) : Leads Mute (act (takeDown peer)) := by
  refine leads_act_bind (mute_record rfl) fun _ => leads_act_bind (mute_record rfl) fun _ => ?_
  split
  · exact leads_act_bind (mute_record rfl) fun _ => mute_record rfl
  · exact leads_act_pure _

/-- Taking the process down writes nothing: it begins with the connection. -/
theorem sent_kill (talk : Talk) : (kill.perform talk).2.world.sent = talk.world.sent := by
  have hlast : Leads Mute (modifySession fun session =>
      { session with peer := none, reader := none, client := session.client.disconnected }) :=
    fun _ _ => ⟨rfl, rfl⟩
  have hrest := Leads.bind carries_mute.endErrors fun _ => .bind carries_mute.readOut fun _ => hlast
  unfold kill
  rw [Step.perform_bind_ok (perform_modifyClient _ talk)]
  -- the connection was given up by now, so that all the rest is mute
  refine ((Leads.bind leads_session fun _ => ?_ : Leads Mute _) _ rfl).2
  dsimp only
  split
  · exact hrest
  · exact .bind (mute_takeDown _) fun _ => hrest

/-! ### Asking the server -/

/-- A message that is sent is written. -/
theorem sent_send (message : Json) (talk : Talk) :
    ((send [message]).perform talk).2.world.sent = talk.world.sent ++ [message] := by
  unfold World.sent
  rw [events_send, List.filterMap_append]
  rfl

/-- A message that is sent or not is written or not. -/
theorem sent_sendOption (message? : Option Json) (talk : Talk) :
    ((send message?.toList).perform talk).2.world.sent = talk.world.sent ++ message?.toList := by
  cases message? with
  | none => exact (List.append_nil _).symm
  | some message => exact sent_send message talk

/-- A request that is sent over a connection is written, and nothing but answers after it. -/
theorem sent_request {talk : Talk} (hconnected : talk.session.client.connected = true)
    (method : String) (params : Json) (token : Option Completion.Token) :
    ∃ answers, (∀ message ∈ answers, Client.Automatic message) ∧
      ((request method params token).perform talk).2.world.sent = talk.world.sent ++
        Client.requestMessage (talk.session.client.lastId + 1) method params :: answers := by
  let message := Client.requestMessage (talk.session.client.lastId + 1) method params
  let registered : Talk := { talk with
    session := { talk.session with client := (talk.session.client.request method params token).2.1 } }
  have hposted : (talk.session.client.request method params token).2.2 = [message] :=
    if_pos hconnected
  have hsent : _ = talk.world.sent ++ [message] := sent_send message registered
  obtain ⟨_, hrun⟩ := (discipline_total.send [message]).exists_run registered
  -- what is exchanged after the request was posted are answers to the server only
  have hrest : Leads Answers
      (exchange >>= fun _ => pure (talk.session.client.request method params token).1) :=
    reads_answers.exchange.bind fun _ => .pure _
  obtain ⟨answers, hanswers, hwritten⟩ := hrest ((send [message]).perform registered).2
  refine ⟨answers, hanswers, ?_⟩
  unfold request
  rw [Step.perform_bind_ok (perform_client talk)]
  dsimp only
  rw [Step.perform_bind_ok (perform_modifyClient _ talk), hposted, Step.perform_bind_ok hrun,
    hwritten, hsent, List.append_assoc]
  rfl

/-- Something is sent or not, depending on whether the client is connected. -/
theorem sent_notify {talk : Talk} (hconnected : talk.session.client.connected = true)
    (method : String) (params : Json) :
    ((notify method params).perform talk).2.world.sent =
      talk.world.sent ++ [Client.notification method params] := by
  unfold notify
  rw [Step.perform_bind_ok (perform_client talk), Client.posted, if_pos hconnected]
  exact sent_send _ talk

end Dialog

namespace Talk

open Dialog (log request)

/-- The session before the server is asked to shut down. -/
def stopping (talk : Talk) : Talk := ((log .info "stopping" []).perform talk).2

/-- The session once the server was asked to shut down and everything that came back is handled. -/
def asked (talk : Talk) : Talk := ((request "shutdown" .null none).perform talk.stopping).2

/-- The server answers the request to shut down, and not by an error. -/
def Agrees (talk : Talk) : Prop :=
  ∃ result, Assoc.get? (talk.session.client.lastId + 1) talk.asked.session.client.ended =
    some (.ok result)

/-- What a stop writes to the server: nothing if the client is not ready or the server does not run,
and else the request to shut down. After it come answers to what the server asks meanwhile, and at
the end, if the server agrees, the word to exit. -/
inductive Parting (talk : Talk) : List Json → Prop
  /-- The server is not asked. -/
  | silent (h : ¬ (talk.session.client.ready = true ∧ talk.session.running = true)) :
    Parting talk []
  /-- The server does not agree to shut down. -/
  | refused {answers : List Json}
    (h : talk.session.client.ready = true ∧ talk.session.running = true)
    (hanswers : ∀ message ∈ answers, Client.Automatic message) (hrefuses : ¬ talk.Agrees) :
    Parting talk
      (Client.requestMessage (talk.session.client.lastId + 1) "shutdown" .null :: answers)
  /-- The server agrees, and is told to exit. -/
  | agreed {answers : List Json}
    (h : talk.session.client.ready = true ∧ talk.session.running = true)
    (hanswers : ∀ message ∈ answers, Client.Automatic message) (hagrees : talk.Agrees) :
    Parting talk
      (Client.requestMessage (talk.session.client.lastId + 1) "shutdown" .null ::
        (answers ++ [Client.notification "exit" .null]))

end Talk

namespace Dialog

open Talk (Dated)

/-- Logging changes nothing about the session, and writes nothing to the server. -/
theorem log_quiet (level : Log.Level) (text : String) (more : Log.Fields) (talk : Talk) :
    let logged := ((log level text more).perform talk).2
    logged.session = talk.session ∧ logged.world.sent = talk.world.sent :=
  ⟨sameSession_log level text more talk, (quiet_sameEvents.log level text more talk).sent⟩

/-- A request that is sent has the next number. -/
theorem id_of_request_ok {method : String} {params : Json} {token : Option Completion.Token}
    {talk after : Talk} {id : Nat}
    (h : (request method params token).perform talk = (.ok id, after)) :
    id = talk.session.client.lastId + 1 := by
  unfold request at h
  rw [Step.perform_bind_ok (perform_client talk)] at h
  obtain ⟨_, _, -, h⟩ := Step.perform_bind_eq_ok_iff.1 h
  obtain ⟨_, _, -, h⟩ := Step.perform_bind_eq_ok_iff.1 h
  obtain ⟨_, _, -, h⟩ := Step.perform_bind_eq_ok_iff.1 h
  cases h
  rfl

/-- The server is asked to shut down, and is told to exit if it agrees. -/
theorem sent_askToShutDown {talk : Talk}
    (h : talk.session.client.ready = true ∧ talk.session.running = true)
    (hconnected : talk.session.client.connected = true) (hdated : talk.stopping.Dated) :
    ∃ written, talk.Parting written ∧
      (askToShutDown.perform talk.stopping).2.world.sent = talk.world.sent ++ written := by
  obtain ⟨hsession, hlog⟩ : talk.stopping.session = talk.session ∧
      talk.stopping.world.sent = talk.world.sent := log_quiet .info "stopping" [] talk
  have hstill : talk.stopping.session.client.connected = true := by rw [hsession, hconnected]
  obtain ⟨answers, hanswers, hwritten⟩ := sent_request hstill "shutdown" .null none
  rw [hlog, hsession] at hwritten
  obtain ⟨id, asked, hrun, -⟩ := safe_request "shutdown" .null none _ hdated
  obtain rfl : asked = talk.asked := (congrArg Prod.snd hrun).symm
  obtain rfl : id = talk.session.client.lastId + 1 := hsession ▸ id_of_request_ok hrun
  have heven : Talk.Even talk.stopping talk.asked := (even_request _ _ _).ends hrun
  rw [hrun] at hwritten
  let number := talk.session.client.lastId + 1
  let taken : Talk := { talk.asked with session := { talk.asked.session with
    client := (talk.asked.session.client.collect number).2.withdraw number } }
  have houtcome : (outcome number).perform talk.asked =
      (.ok (Assoc.get? number talk.asked.session.client.ended), taken) := rfl
  -- an error and silence end alike: with a record in the log, which writes nothing to the server
  have hrefused {level : Log.Level} {text : String} {more : Log.Fields} (hrefuses : ¬ talk.Agrees) :
      ∃ written, talk.Parting written ∧
        ((log level text more).perform taken).2.world.sent = talk.world.sent ++ written :=
    ⟨_, .refused h hanswers hrefuses, (log_quiet _ _ _ taken).2.trans hwritten⟩
  unfold askToShutDown
  rw [Step.perform_bind_ok hrun, Step.perform_bind_ok houtcome]
  split
  next result hended =>
    have hlast : taken.session.client.connected = true := heven.connected.trans hstill
    refine ⟨_, .agreed h hanswers ⟨result, hended⟩, ?_⟩
    rw [sent_notify hlast]
    change talk.asked.world.sent ++ _ = _
    rw [show talk.asked.world.sent = _ from hwritten, List.append_assoc]
    rfl
  next failure hended =>
    refine hrefused ?_
    rintro ⟨result, hagrees⟩
    cases hended.symm.trans hagrees
  next hended =>
    refine hrefused ?_
    rintro ⟨result, hagrees⟩
    cases hended.symm.trans hagrees

/-! ### The stop -/

theorem safe_askToShutDown : Safe Dated askToShutDown := by
  refine .bind (safe_request _ _ _) fun _ => .bind (safe_outcome _) fun _ => ?_
  split
  · exact discipline_safe.notify _ _
  · exact safe_log _ _ _
  · exact safe_log _ _ _

theorem safe_kill : Safe Dated kill := by
  have hrest := Safe.bind discipline_safe.endErrors fun _ =>
    .bind (safe_of_steady total_readOut handles_steady.readOut) fun _ =>
      discipline_safe.modifySession fun session =>
        { session with peer := none, reader := none, client := session.client.disconnected }
  refine .bind (discipline_safe.modifySession _) fun _ => .bind discipline_safe.session fun _ => ?_
  dsimp only
  split
  · exact hrest
  · exact .bind (safe_of_steady (total_act (total_takeDown _)) (steady_takeDown _)) fun _ => hrest

theorem safe_goDown : Safe Dated goDown :=
  .bind (discipline_safe.modifySession _) fun _ => .bind safe_kill fun _ => safe_log _ _ _

theorem safe_stop : Safe Dated stop := by
  refine .bind discipline_safe.session fun _ => ?_
  dsimp only
  split
  · exact discipline_safe.pure _
  · refine .bind (safe_log _ _ _) fun _ => .bind discipline_safe.client fun _ => ?_
    refine .bind discipline_safe.session fun _ => ?_
    split
    · exact .bind safe_askToShutDown fun _ => safe_goDown
    · exact safe_goDown

/-- A stop of a session without a process does nothing. -/
theorem perform_stop_idle {talk : Talk} (h : talk.session.peer = none) :
    stop.perform talk = (.ok (), talk) := by
  unfold stop
  rw [Step.perform_bind_ok (perform_session talk), h]
  rfl

/-- A stop of a session with a process asks the server if that makes sense, and ends it. -/
theorem perform_stop_held {talk : Talk} (h : talk.session.peer.isSome) (hdated : talk.Dated) :
    stop.perform talk =
      if talk.session.client.ready && talk.session.running then
        (askToShutDown >>= fun _ => goDown).perform talk.stopping
      else goDown.perform talk.stopping := by
  obtain ⟨_, told, hrun, -⟩ := safe_log .info "stopping" [] talk hdated
  obtain rfl : told = talk.stopping := (congrArg Prod.snd hrun).symm
  have hsession : talk.stopping.session = talk.session := (log_quiet .info "stopping" [] talk).1
  unfold stop
  rw [Step.perform_bind_ok (perform_session talk), Option.isNone_eq_false_iff.2 h]
  change (log .info "stopping" [] >>= fun _ => _).perform talk = _
  rw [Step.perform_bind_ok hrun, Step.perform_bind_ok (perform_client _),
    Step.perform_bind_ok (perform_session _), hsession]
  split <;> rfl

/-- The process is gone with the requests that wait and the documents that are open. Nothing is
written for that. -/
structure Over (before after : Talk) : Prop where
  /-- No process is held. -/
  peer : after.session.peer = none
  /-- The client is not connected. -/
  connected : after.session.client.connected = false
  /-- The client is not ready. -/
  ready : after.session.client.ready = false
  /-- No request waits. -/
  pending : after.session.client.pending = []
  /-- No document is open. -/
  opened : after.session.client.opened = []
  /-- Nothing was written to the server. -/
  sent : after.world.sent = before.world.sent

theorem over_goDown : Leads Over goDown := by
  intro talk
  let unready : Talk := { talk with
    session := { talk.session with client := { talk.session.client with ready := false } } }
  obtain ⟨_, hrun⟩ := total_kill.exists_run unready
  have hvacates := vacates_kill unready
  obtain ⟨hsession, hsent⟩ := log_quiet .info "stopped" [] (kill.perform unready).2
  unfold goDown
  rw [Step.perform_bind_ok (perform_modifyClient _ talk), Step.perform_bind_ok hrun]
  refine ⟨?_, ?_, ?_, ?_, ?_, hsent.trans (sent_kill unready)⟩ <;> rw [hsession]
  · exact hvacates.peer
  · exact disconnected_of_kill unready
  · exact hvacates.ready
  · exact Assoc.eq_nil_of_get?_eq_none hvacates.pending
  · exact hvacates.opened

end Dialog

namespace Talk

open Dialog (stop goDown askToShutDown)

/-- What a stop leaves of a session. -/
structure Stopped (before after : Talk) : Prop where
  /-- No process is held. -/
  peer : after.session.peer = none
  /-- The client is not connected. -/
  connected : after.session.client.connected = false
  /-- The client is not ready. -/
  ready : after.session.client.ready = false
  /-- The handlers are the same. -/
  handlers : after.session.client.handlers = before.session.client.handlers
  /-- If a process was held, no request waits any more. -/
  pending : before.session.peer.isSome → after.session.client.pending = []
  /-- If a process was held, no document is open any more. -/
  opened : before.session.peer.isSome → after.session.client.opened = []

/-- A stop of a session that holds a process, while the time of day can be written. -/
theorem stop_held {talk : Talk} (hgrounded : talk.session.Grounded)
    (hheld : talk.session.peer.isSome) (hdated : talk.Dated) :
    ∃ parted, (∃ written, talk.Parting written ∧
        parted.world.sent = talk.world.sent ++ written) ∧
      Dialog.Over parted (stop.perform talk).2 := by
  rw [Dialog.perform_stop_held hheld hdated]
  -- only a server that is ready and runs is asked to shut down; any other is killed in silence
  split
  next hasks =>
    have hasks : talk.session.client.ready = true ∧ talk.session.running = true := by
      simpa using hasks
    have hstopping : talk.stopping.Dated :=
      (Dialog.handles_steady.log _ _ _ talk).dated hdated
    obtain ⟨_, parted, hrun, -⟩ := Dialog.safe_askToShutDown talk.stopping hstopping
    have hwritten :=
      Dialog.sent_askToShutDown hasks (hgrounded.connected hasks.1) hstopping
    rw [hrun] at hwritten
    rw [Step.perform_bind_ok hrun]
    exact ⟨parted, hwritten, Dialog.over_goDown parted⟩
  next hidle =>
    have hsilent : talk.stopping.world.sent = talk.world.sent :=
      (Dialog.log_quiet .info "stopping" [] talk).2
    refine ⟨talk.stopping, ⟨[], .silent (by simpa using hidle), ?_⟩,
      Dialog.over_goDown talk.stopping⟩
    rw [hsilent, List.append_nil]

/-- In a new session, however it is used and whatever the server does, a stop ends well while the
time of day can be written. The client holds no process, is neither connected nor ready, and has the
handlers that it had; if it held a process, no request waits and no document is open. Of its own the
stop writes to the server at most the request to shut down and, if the server agrees, the word to
exit after it; what the server asks meanwhile is answered. -/
theorem stop_leaves_nothing (id name : String) (options : ClientOptions) (server : ServerOptions)
    (launch : ServerOptions → Act Peer) (world : World) (uses : List Use) :
    let talk : Talk := ⟨world, { client := { id, name, options }, server, launch }⟩
    let before := talk.after uses
    before.Dated →
      ∃ after written, stop.perform before = (.ok (), after) ∧ before.Stopped after ∧
        before.Parting written ∧ after.world.sent = before.world.sent ++ written := by
  intro talk before hdated
  have hnew : talk.session.Grounded :=
    ⟨fun h => absurd h Bool.false_ne_true, fun h => absurd h Bool.false_ne_true⟩
  have hgrounded : before.session.Grounded := grounded_after hnew uses
  have hhandlers := (Dialog.kept_stop before).handlers
  cases hpeer : before.session.peer with
  | none =>
    -- nothing is done here: what is left is what the uses before kept true
    obtain ⟨hconnected, hready⟩ := hgrounded.idle hpeer
    refine ⟨before, [], Dialog.perform_stop_idle hpeer, ?_, .silent ?_, (List.append_nil _).symm⟩
    · exact ⟨hpeer, hconnected, hready, rfl, by simp [hpeer], by simp [hpeer]⟩
    · rw [hready]
      exact fun hasks => Bool.false_ne_true hasks.1
  | some peer =>
    have hheld : before.session.peer.isSome := by rw [hpeer]; rfl
    obtain ⟨parted, ⟨written, hparting, hsent⟩, hover⟩ := stop_held hgrounded hheld hdated
    obtain ⟨_, after, hrun, -⟩ := Dialog.safe_stop before hdated
    rw [hrun] at hover hhandlers
    refine ⟨after, written, hrun, ?_, hparting, hover.sent.trans hsent⟩
    exact ⟨hover.peer, hover.connected, hover.ready, hhandlers, fun _ => hover.pending,
      fun _ => hover.opened⟩

/-- A process is started, a request is sent that is not answered, and a document is opened. -/
def unfinished : List Use :=
  [.start, .request "m" .null, .openDocument ⟨"file:///a.jl", "julia", 1, "x"⟩]

/-- A session with a request that waits and a document that is open is stopped. -/
theorem rehearsed_stopped :
    (rehearsed.after unfinished).session.client.pending = [(2, none)] ∧
      (rehearsed.after unfinished).session.client.opened = [("file:///a.jl", 1)] ∧
        ∃ after written, stop.perform (rehearsed.after unfinished) = (.ok (), after) ∧
          (rehearsed.after unfinished).Stopped after ∧
            (rehearsed.after unfinished).Parting written ∧
              after.world.sent = (rehearsed.after unfinished).world.sent ++ written := by
  have hdated : (rehearsed.after unfinished).Dated := by
    change Desk.checkYear _ = _
    decide +kernel
  exact ⟨by decide +kernel, by decide +kernel,
    stop_leaves_nothing "julia" "Julia" { root := "/" } default
      (Peer.pretend (.ok { engine := .rehearsed [] })) default unfinished hdated⟩

/-- A request of the server, and its consent to the request of a client to shut down. -/
def inquiry : String :=
  "Content-Length: 61\r\n\r\n" ++
    "\x7b\"jsonrpc\":\"2.0\",\"id\":9,\"method\":\"client/registerCapability\"\x7d" ++
    "Content-Length: 38\r\n\r\n" ++ "\x7b\"jsonrpc\":\"2.0\",\"id\":2,\"result\":null\x7d"

/-- A session with a server that asks something before it agrees to shut down. -/
def questioned : Talk :=
  { rehearsed with
    session := { rehearsed.session with
      launch := Peer.pretend (.ok { engine := .rehearsed [("shutdown", .raw inquiry)] }) } }

/-- A stop of a client without a process leaves a document open, and during a stop the client writes
more than the request to shut down and the word to exit if the server asks something. -/
theorem questioned_answers :
    let opened := questioned.after [.openDocument ⟨"file:///a.jl", "julia", 1, "x"⟩]
    let started := questioned.after [.start]
    (opened.after [.stop]).session.client.opened = [("file:///a.jl", 1)] ∧
      (started.after [.stop]).world.sent = started.world.sent ++
        [Client.requestMessage 2 "shutdown" .null, Client.response (.int 9) .null,
          Client.notification "exit" .null] := by
  decide +kernel

end Talk

end JuliaSession
