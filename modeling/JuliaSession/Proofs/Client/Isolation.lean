import JuliaSession.Proofs.Client.Responses
import JuliaSession.Proofs.Client.Unfailing
import JuliaSession.Proofs.Client.Upholding
import JuliaSession.Proofs.Machine.Logging

/-!
# Messages that cannot be handled

Handling a message of the server can fail: it is no message, it answers with something unreadable,
or the record of it cannot be written. In a session whose handlers all answer requests for whole
texts such a message is as good as not sent: what comes after it is handled as if it had not come.

Records are written meanwhile, and programs change files on their own. So two moments of a session
are compared by what the handling of messages depends on (`Talk.Alike`), and two runs are compared
step by step.

* `Dialog.agrees_deliverAll`: from moments that are alike the same messages are written and the same
  requests end, whatever comes.
* `Dialog.failing_handle`: where handling a message fails, only records were written before.
* `Dialog.failing_message_isolated`: with and without such a message the rest goes the same way.
-/

namespace JuliaSession

open Step (Leads LeadsFailing Agrees)
open Text.Utf8 (Bytes)

variable {α : Type}

/-! ### Moments that are alike -/

/-- Two worlds in which messages are handled the same way. -/
structure World.Alike (first second : World) : Prop where
  /-- The working directory is the same. -/
  cwd : second.desk.machine.cwd = first.desk.machine.cwd
  /-- It is the same time. -/
  now : second.desk.machine.now = first.desk.machine.now
  /-- The least severity of records is the same. -/
  level : second.desk.log.level = first.desk.log.level
  /-- The same documents are open in the host. -/
  documents : second.documents = first.documents
  /-- The same was done to the outside. -/
  events : second.events = first.events

instance : Std.Refl World.Alike := ⟨fun _ => ⟨rfl, rfl, rfl, rfl, rfl⟩⟩

instance : Std.Symm World.Alike :=
  ⟨fun _ _ h => ⟨h.cwd.symm, h.now.symm, h.level.symm, h.documents.symm, h.events.symm⟩⟩

instance : Trans World.Alike World.Alike World.Alike where
  trans h h' := ⟨h'.cwd.trans h.cwd, h'.now.trans h.now, h'.level.trans h.level,
    h'.documents.trans h.documents, h'.events.trans h.events⟩

/-- Two moments of a session from which messages are handled the same way. -/
structure Talk.Alike (first second : Talk) : Prop where
  /-- The worlds are alike. -/
  world : first.world.Alike second.world
  /-- The session is the same. -/
  session : second.session = first.session

instance : Std.Refl Talk.Alike := ⟨fun _ => ⟨⟨rfl, rfl, rfl, rfl, rfl⟩, rfl⟩⟩

instance : Trans Talk.Alike Talk.Alike Talk.Alike where
  trans h h' := ⟨Trans.trans h.world h'.world, h'.session.trans h.session⟩

/-! ### In the world -/

/-- Where only the log is written, messages are handled as before. -/
theorem LogsOnly.alike {before after : World} (h : LogsOnly before after) :
    before.Alike after where
  cwd := h.cwd
  now := h.now
  level := h.level
  documents := by rw [h.desk]
  events := by rw [h.desk]

namespace Act

open World (Alike)

theorem alike_emit (logger : Log.Logger) (level : Log.Level) (message : Log.Value)
    (extra : Log.Fields) :
    Leads Alike (onDesk fun desk => desk.emit logger level message extra) :=
  (logsOnly_emit logger level message extra).mono LogsOnly.alike

theorem agrees_emit (logger : Log.Logger) (level : Log.Level) (message : Log.Value)
    (extra : Log.Fields) :
    Agrees Alike (onDesk fun desk => desk.emit logger level message extra) := by
  refine .of_leads (alike_emit logger level message extra) fun first second halike => ?_
  rw [perform_onDesk, perform_onDesk, Desk.emit_fst, Desk.emit_fst, halike.level, Desk.checkYear,
    Desk.checkYear, halike.now]

theorem agrees_record (event : Event) : Agrees Alike (record event) :=
  .modify fun _ _ halike =>
    ⟨halike.cwd, halike.now, halike.level, halike.documents, by rw [halike.events]⟩

end Act

/-- What a server does with a message does not depend on the files, though it may change them. -/
theorem Peer.agrees_accept (peer : Peer) (message : Json) :
    Agrees World.Alike (peer.accept message) := by
  unfold accept
  split
  · split <;> exact .pure _
  · split
    next process start latest seen errSeen _ _ =>
      -- the program reads the files that it was started on
      have hleads : Leads World.Alike
          (peer.resume process start latest seen errSeen (Framing.encode message)) := by
        refine .bind (fun _ => ⟨rfl, rfl, rfl, rfl, rfl⟩) fun _ => ?_
        refine .bind (.modify fun _ => ⟨rfl, rfl, rfl, rfl, rfl⟩) fun _ => ?_
        dsimp only
        split <;> exact .pure _
      refine .of_leads hleads fun first second _ => ?_
      unfold resume
      dsimp only
      split <;> rfl
    next => exact .pure _

theorem FullText.alike_answer (params : Json) : Leads World.Alike (answer params) := by
  refine .bind .get fun world => ?_
  split
  · exact .bind (Act.alike_emit _ _ _ _) fun _ => .pure _
  · exact .bind (Act.alike_emit _ _ _ _) fun _ => .pure _
  · exact .bind (Act.alike_emit _ _ _ _) fun _ => .pure _

theorem FullText.agrees_answer (params : Json) : Agrees World.Alike (answer params) := by
  refine .get_bind (fun first second halike => by rw [halike.documents]) fun world => ?_
  split
  · exact .bind (Act.agrees_emit _ _ _ _) fun _ => .pure _
  · exact .bind (Act.agrees_emit _ _ _ _) fun _ => .pure _
  · exact .bind (Act.agrees_emit _ _ _ _) fun _ => .pure _

theorem Dialog.agrees_reconciled (token : Option Completion.Token)
    (outcome : Except Failure Json) : Agrees World.Alike (reconciled token outcome) := by
  cases outcome with
  | error failure => exact .pure _
  | ok response =>
    refine .attempt ?_
    cases token with
    | none => exact .pure _
    | some token =>
      -- only the report of a malformed response writes anything, a record with the same text
      change Agrees World.Alike (Completion.widenReported token response)
      unfold Completion.widenReported
      dsimp only
      split
      · exact .bind (Act.agrees_emit _ _ _ _) fun _ => .pure _
      · exact .pure _

/-! ### In a session -/

namespace Dialog

open Talk (Alike)

theorem alike_act {step : Act α} (h : Leads World.Alike step) : Leads Alike (act step) :=
  h.onPart fun hworld => ⟨hworld, rfl⟩

theorem agrees_act {step : Act α} (h : Agrees World.Alike step) : Agrees Alike (act step) :=
  h.onPart (fun _ _ halike => halike.world) fun _ _ _ _ halike hworld => ⟨hworld, halike.session⟩

theorem agrees_session : Agrees Alike session :=
  fun _ _ halike => ⟨by rw [perform_session, perform_session, halike.session], halike⟩

theorem agrees_modifySession (change : Session → Session) :
    Agrees Alike (modifySession change) :=
  .modify fun _ _ halike => ⟨halike.world, congrArg change halike.session⟩

theorem agrees_client : Agrees Alike client := .bind agrees_session fun _ => .pure _

theorem agrees_cwd : Agrees Alike cwd :=
  fun _ _ halike => ⟨by rw [perform_cwd, perform_cwd, halike.world.cwd], halike⟩

theorem alike_log (level : Log.Level) (text : String) (more : Log.Fields) :
    Leads Alike (log level text more) :=
  .bind (leads_fields more) fun _ => alike_act (Act.alike_emit _ _ _ _)

theorem alike_trace (message : Json) (more : Log.Fields) : Leads Alike (trace message more) :=
  .bind (leads_fields more) fun _ => alike_act (Act.alike_emit _ _ _ _)

theorem agrees_log (level : Log.Level) (text : String) (more : Log.Fields) :
    Agrees Alike (log level text more) :=
  .bind (.bind agrees_client fun _ => .pure _) fun _ => agrees_act (Act.agrees_emit _ _ _ _)

theorem agrees_trace (message : Json) (more : Log.Fields) : Agrees Alike (trace message more) :=
  .bind (.bind agrees_client fun _ => .pure _) fun _ => agrees_act (Act.agrees_emit _ _ _ _)

/-- From moments that are alike messages are sent alike, and the same comes back. -/
theorem discipline_agrees : Discipline (Agrees Alike) where
  pure := .pure
  bind := .bind
  session := agrees_session
  modifySession := agrees_modifySession
  record event := agrees_act (Act.agrees_record event)
  accept peer message := agrees_act (peer.agrees_accept message)
  trace message more := (agrees_trace message more).attempt
  log level text more := (agrees_log level text more).attempt

theorem agrees_callHandler (handler : Handler) (params : Json) :
    Agrees Alike (callHandler handler params) := by
  unfold callHandler
  split
  · refine .bind (agrees_act (FullText.agrees_answer params)) fun answer => ?_
    split
    · exact .pure _
    · exact discipline_agrees.notify _ _
  · refine .bind (agrees_act (Act.agrees_record _)) fun _ => ?_
    split
    · exact .throw _
    · exact .pure _

theorem agrees_carryOut (reaction : Reaction) : Agrees Alike (carryOut reaction) := by
  cases reaction with
  | ignore => exact .pure _
  | settle id outcome =>
    exact .bind agrees_client fun _ => .bind (agrees_act (agrees_reconciled _ _)) fun _ =>
      agrees_modifySession _
  | respond id result => exact .bind agrees_client fun _ => discipline_agrees.send _
  | refuse id method =>
    exact .bind (agrees_log _ _ _) fun _ => .bind agrees_client fun _ => discipline_agrees.send _
  | call handler params => exact agrees_callHandler handler params
  | serverLog message type => exact agrees_trace _ _
  | progress kind title => exact agrees_log _ _ _
  | unhandled method => exact agrees_log _ _ _

theorem agrees_handle (message : Json) : Agrees Alike (handle message) :=
  .bind agrees_client fun _ => .bind agrees_cwd fun _ => .bind (.ofExcept _) fun reaction =>
    agrees_carryOut reaction

/-- From moments that are alike the same messages are handled alike. -/
theorem agrees_deliverAll (messages : List Json) : Agrees Alike (deliverAll messages) :=
  discipline_agrees.deliverAll (fun message => (agrees_handle message).attempt) messages

/-! ### Messages whose handling fails -/

/-- Every handler that is registered answers requests for whole texts. -/
def OnlyAnswers (session : Session) : Prop :=
  ∀ method handler, Assoc.get? method session.client.handlers = some handler →
    handler.handling = .fullText

/-- Handling messages leaves the handlers as they are. -/
theorem handles_onlyAnswers : Handles (Talk.Keeps OnlyAnswers) where
  emit _ _ _ _ _ hbefore := hbefore
  accept _ _ _ hbefore := hbefore
  hold _ _ hbefore := hbefore
  feed _ _ hbefore := hbefore
  errLine _ _ hbefore := hbefore
  settle id outcome talk hbefore := by
    obtain ⟨pending, ended, hsettled⟩ := talk.session.client.settle_eq id outcome
    rw [perform_modifyClient, hsettled]
    exact hbefore
  sent _ _ hbefore := hbefore
  handled _ _ _ hbefore := hbefore

/-- Where carrying out a reaction fails, only records were written before: what is sent is sent at
the end, and the handlers do nothing but send. -/
theorem failing_carryOut {reaction : Reaction}
    (h : ∀ handler params, reaction = .call handler params → handler.handling = .fullText) :
    LeadsFailing Alike (carryOut reaction) := by
  have hpost (message : Client → List Json) :
      LeadsFailing Alike (client >>= fun client => send (message client)) :=
    (discipline_total.bind discipline_total.client fun _ => discipline_total.send _).failing
  cases reaction with
  | ignore => exact (discipline_total.pure _).failing
  | settle id outcome =>
    -- what was to be reconciled may fail, and then the request ends with the failure
    have hreconciled (token : Option Completion.Token) :
        Step.Total (act (reconciled token outcome)) :=
      fun talk => ⟨_, perform_reconciled token outcome talk.world⟩
    exact (discipline_total.bind discipline_total.client fun _ =>
      .bind (hreconciled _) fun _ => discipline_total.modifySession _).failing
  | respond id result => exact hpost fun client => client.posted (Client.response id result)
  | refuse id method =>
    exact .bind (alike_log _ _ _) fun _ =>
      hpost fun client => client.posted (Client.refusal id method)
  | call handler params =>
    change LeadsFailing Alike (callHandler handler params)
    unfold callHandler
    rw [h handler params rfl]
    refine .bind (alike_act (FullText.alike_answer params)) fun answer => ?_
    split
    · exact (discipline_total.pure _).failing
    · exact (discipline_total.notify _ _).failing
  | serverLog message type => exact (alike_trace _ _).failing
  | progress kind title => exact (alike_log _ _ _).failing
  | unhandled method => exact (alike_log _ _ _).failing

/-- Where handling a message fails, only records were written before. -/
theorem failing_handle {talk : Talk} (hanswers : OnlyAnswers talk.session) {message : Json}
    {failure : Failure} (hfails : ((handle message).perform talk).1 = .error failure) :
    talk.Alike ((handle message).perform talk).2 := by
  rw [perform_handle] at hfails ⊢
  -- the failure is that of reading the message, which does nothing, or that of carrying it out
  cases hreact : talk.session.client.react talk.world.desk.machine.cwd message with
  | error other =>
    rw [Step.perform_bind_error (Step.perform_ofExcept _ _)]
    exact Std.Refl.refl talk
  | ok reaction =>
    rw [hreact, Step.perform_bind_ok (Step.perform_ofExcept _ _)] at hfails
    rw [Step.perform_bind_ok (Step.perform_ofExcept _ _)]
    refine failing_carryOut ?_ talk failure _ (Prod.ext hfails rfl)
    rintro handler params rfl
    obtain ⟨method, -, hregistered⟩ := Client.react_eq_call_iff.1 hreact
    exact hanswers method handler hregistered

/-- A message whose handling fails is reported, and messages are handled as before. -/
theorem failing_deliver {talk : Talk} (hanswers : OnlyAnswers talk.session) {message : Json}
    {failure : Failure} (hfails : ((handle message).perform talk).1 = .error failure) :
    talk.Alike ((deliver message).perform talk).2 := by
  have hhandle := failing_handle hanswers hfails
  unfold deliver
  rw [Step.perform_bind_ok (Step.perform_attempt _ _), hfails]
  have hreport := Leads.bind (alike_log .error "error handling server message"
    [("error", .failure (.of failure))]).attempt fun _ => .pure ()
  exact Trans.trans hhandle (hreport _)

/-- A message whose handling fails, in a session whose handlers all answer requests for whole texts:
nothing is written to the server, and the session is as it was, with its requests, handlers and open
documents. So whatever messages come before and after it, the same is written and the same requests
end with the same outcomes as without it. -/
theorem failing_message_isolated {talk before : Talk} {earlier : List Json} {message : Json}
    {failure : Failure}
    (hanswers : ∀ method handler, Assoc.get? method talk.session.client.handlers = some handler →
      handler.handling = .fullText)
    (hbefore : ((deliverAll earlier).perform talk).2 = before)
    (hfails : ((handle message).perform before).1 = .error failure) :
    ((deliver message).perform before).2.world.events = before.world.events ∧
    ((deliver message).perform before).2.session = before.session ∧
    ∀ later,
      let heard := ((deliverAll (earlier ++ message :: later)).perform talk).2
      let spared := ((deliverAll (earlier ++ later)).perform talk).2
      heard.world.events = spared.world.events ∧ heard.session = spared.session := by
  have hkept : OnlyAnswers before.session := by
    rw [← hbefore]
    exact handles_onlyAnswers.deliverAll earlier talk hanswers
  have halike := failing_deliver hkept hfails
  refine ⟨halike.world.events, halike.session, fun later => ?_⟩
  -- with and without the message the rest starts from moments that are alike
  have hrest := (agrees_deliverAll later _ _ halike).2
  dsimp only
  rw [perform_deliverAll_append, perform_deliverAll_append, hbefore, perform_deliverAll_cons]
  exact ⟨hrest.world.events, hrest.session⟩

/-- A session with a server that gets whole texts, and with a request that waits. -/
def attentive : Talk :=
  Talk.rehearsed.after [.start, .subscribe DocumentStore.fullTextRequest ⟨0, .fullText⟩,
    .request "m" .null]

/-- The server answers with an error that is a text, and then with a result: the request ends with
the result as if the error had not come. -/
theorem unreadable_answer_isolated :
    let unreadable : Json := .obj [("id", .int 2), ("error", .str "boom")]
    let answer : Json := .obj [("id", .int 2), ("result", .int 7)]
    ((handle unreadable).perform attentive).1 = .error .noMembers ∧
      ((deliverAll [unreadable, answer]).perform attentive).2.session =
        ((deliverAll [answer]).perform attentive).2.session := by
  intro unreadable answer
  have hwaiting : attentive.waiting? 2 = some none := by decide +kernel
  have hunreadable : ¬ Client.Readable [("id", .int 2), ("error", .str "boom")] := by
    intro h
    rcases h (.str "boom") rfl with htruthy | ⟨members, ⟨⟩⟩
    cases htruthy
  have hfails : ((handle unreadable).perform attentive).1 = .error .noMembers := by
    rw [perform_handle_unreadable hwaiting rfl rfl hunreadable]
  have hhandlers : attentive.session.client.handlers =
      [(DocumentStore.fullTextRequest, ⟨0, .fullText⟩)] := by decide +kernel
  -- the only handler is the one that answers requests for whole texts
  have hanswers : ∀ method handler,
      Assoc.get? method attentive.session.client.handlers = some handler →
        handler.handling = .fullText := by
    intro method handler hregistered
    rw [hhandlers, Assoc.get?] at hregistered
    split at hregistered
    · cases hregistered
      rfl
    · cases hregistered
  have hbefore : ((deliverAll []).perform attentive).2 = attentive := by
    rw [deliverAll, Step.perform_pure]
  obtain ⟨-, -, hlater⟩ := failing_message_isolated hanswers hbefore hfails
  have hsame := (hlater [answer]).2
  rw [List.nil_append, List.nil_append] at hsame
  exact ⟨hfails, hsame⟩

end Dialog

end JuliaSession
