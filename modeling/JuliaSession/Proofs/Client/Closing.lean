import Mathlib.Data.List.Induction
import JuliaSession.Proofs.Client.Upholding

/-!
# Requests while nothing is read

Nothing is read of a server once its output has ended or the process is gone (`Session.Closed`), and
no request waits when that happens. But a request may be sent afterwards: nothing is written then,
or nothing is read, and the request waits without an end.

* `Dialog.upholds_swept`: when the output ends the requests that wait end with it.
* `Talk.sentClosed_of_waits`: a request that waits while nothing is read was sent while nothing was
  read, and nothing was read since.
* `Talk.unheard_after`: such a request waits on until it is given up or the process is changed.
* `Dialog.closed_of_stop`: a stop that ends well leaves nothing to be read.
* `Talk.requests_of_closed`: all of this for a new session, however it is used.
-/

namespace JuliaSession

open Step (Leads LeadsWell)

variable {α : Type}

namespace Session

/-- Nothing is read of a server: its output has ended, or there is no process. -/
def Closed (session : Session) : Prop := session.reader = none

/-- A request waits. -/
def Waits (session : Session) (id : Nat) : Prop := Assoc.has id session.client.pending

/-- No request waits while nothing is read. -/
def Swept (session : Session) : Prop :=
  session.Closed → ∀ id, Assoc.get? id session.client.pending = none

/-- A request waits while nothing is read. -/
def Unheard (id : Nat) (session : Session) : Prop := session.Closed ∧ session.Waits id

/-- Nothing is read where there is no process. -/
def Attached (session : Session) : Prop := session.peer = none → session.Closed

end Session

namespace Dialog

open Session (Closed Waits Swept Attached Unheard)
open Talk (Keeps)

/-- The output ends, and the process goes, only together with the requests that wait. -/
theorem upholds_swept : Upholds Swept where
  client hfewer hbefore hclosed id := hfewer id (hbefore hclosed id)
  hold _ hbefore := hbefore
  exit _ hbefore := hbefore
  feed _ hbefore hclosed := hbefore (Option.map_eq_none_iff.1 hclosed)
  drain _ _ _ hclosed := nomatch hclosed
  errLine _ hbefore := hbefore
  connect _ _ hclosed := nomatch hclosed
  ended hnone _ _ := hnone
  gone hnone _ _ := hnone

/-- The process goes only together with what is read of it. -/
theorem upholds_attached : Upholds Attached where
  client _ hbefore := hbefore
  hold _ _ hpeer := nomatch hpeer
  exit _ hbefore hpeer := hbefore (Option.map_eq_none_iff.1 hpeer)
  feed _ hbefore hpeer := Option.map_eq_none_iff.2 (hbefore hpeer)
  drain hreader _ hbefore hpeer := nomatch hreader.symm.trans (hbefore hpeer)
  errLine _ hbefore := hbefore
  connect hheld _ hpeer := nomatch hheld.symm.trans hpeer
  ended _ _ _ := rfl
  gone _ _ _ := rfl

/-- Taking the process down leaves nothing to be read. -/
theorem closed_kill : LeadsWell (fun _ after => after.session.Closed) kill :=
  after_kill fun _ => rfl

/-- A stop that ends well leaves nothing to be read. -/
theorem closed_of_stop {talk after : Talk} (hattached : talk.session.Attached)
    (hrun : stop.perform talk = (.ok (), after)) : after.session.Closed := by
  have hdown : LeadsWell (fun _ after : Talk => after.session.Closed)
      (kill >>= fun _ => log .info "stopped" []) := by
    refine closed_kill.kept fun _ => (sameSession_log _ _ _).mono ?_
    intro before after hsame hclosed
    rwa [hsame]
  unfold stop at hrun
  rw [Step.perform_bind_ok (perform_session talk)] at hrun
  -- without a process a stop does nothing, and nothing was read before it
  split at hrun
  next hnone =>
    cases hrun
    exact hattached (Option.isNone_iff_eq_none.1 hnone)
  next =>
    refine (?_ : LeadsWell (fun _ last : Talk => last.session.Closed) _) talk () after hrun
    refine .last _ fun _ => .last _ fun _ => .last _ fun _ => ?_
    split
    · exact .last _ fun _ => .last _ fun _ => hdown
    · exact .last _ fun _ => hdown

/-! ### Sending while nothing is read -/

/-- Where nothing is read, nothing is exchanged. -/
theorem perform_exchange_of_closed {talk : Talk} (h : talk.session.Closed) :
    exchange.perform talk = (.ok (), talk) := by
  have hrounds (rounds : Nat) : (exchangeWithin rounds).perform talk = (.ok (), talk) := by
    cases rounds with
    | zero => rfl
    | succ rounds =>
      unfold exchangeWithin
      rw [Step.perform_bind_ok (perform_session talk), h]
      rfl
  exact hrounds roundLimit

section Unheard

variable (id : Nat)

theorem unheard_exchange : Leads (Keeps (Unheard id)) exchange := by
  intro talk hbefore
  rw [perform_exchange_of_closed hbefore.1]
  exact hbefore

theorem quiet_unheard : Quiet (Keeps (Unheard id)) where
  emit _ _ _ _ _ hbefore := hbefore
  accept _ _ _ hbefore := hbefore
  hold _ _ hbefore := hbefore
  feed _ _ hbefore := ⟨Option.map_eq_none_iff.2 hbefore.1, hbefore.2⟩
  errLine _ _ hbefore := hbefore

theorem unheard_act (step : Act α) : Leads (Keeps (Unheard id)) (act step) :=
  fun _ hbefore => hbefore

theorem unheard_send (messages : List Json) : Leads (Keeps (Unheard id)) (send messages) :=
  (quiet_unheard id).send fun _ _ => unheard_act id _

theorem unheard_modifyClient {change : Client → Client}
    (h : ∀ client : Client, client.SameRequests (change client)) :
    Leads (Keeps (Unheard id)) (modifyClient change) := by
  intro talk hbefore
  refine ⟨hbefore.1, ?_⟩
  rw [Session.Waits]
  exact (congrArg (Assoc.has id) (h talk.session.client).pending).trans hbefore.2

/-- A request that is sent waits from then on, and others wait on. -/
theorem unheard_register {talk : Talk} (hclosed : talk.session.Closed) (method : String)
    (params : Json) (token : Option Completion.Token)
    (hid : id = talk.session.client.lastId + 1 ∨ talk.session.Waits id) :
    Unheard id
      ((modifyClient fun client => (client.request method params token).2.1).perform
        talk).2.session := by
  refine ⟨hclosed, ?_⟩
  have hget := Assoc.get?_insert (talk.session.client.lastId + 1) id token
    talk.session.client.pending
  change (Assoc.get? id (Assoc.insert (talk.session.client.lastId + 1) token
    talk.session.client.pending)).isSome
  -- the new number is either the one in question, or it is not in its way
  rw [hget]
  split
  next => rfl
  next hne => exact hid.resolve_left hne

theorem unheard_request (method : String) (params : Json) (token : Option Completion.Token) :
    Leads (Keeps (Unheard id)) (request method params token) :=
  leads_request
    (fun _ hbefore => unheard_register id hbefore.1 method params token (.inr hbefore.2))
    (fun _ => unheard_send id _) (unheard_exchange id)

theorem unheard_update {change : Client → Client × List Json}
    (h : ∀ client : Client, client.SameRequests (change client).1) :
    Leads (Keeps (Unheard id)) (update change) :=
  leads_update (unheard_modifyClient id h) (fun _ => unheard_send id _) (unheard_exchange id)

theorem unheard_takeIn (arrival : Arrival) : Leads (Keeps (Unheard id)) (takeIn arrival) :=
  (quiet_unheard id).takeIn arrival

end Unheard

/-- Handling messages does not begin to read. -/
theorem handles_closed : Handles (Keeps Closed) where
  emit _ _ _ _ _ hclosed := hclosed
  accept _ _ _ hclosed := hclosed
  hold _ _ hclosed := hclosed
  feed _ _ hclosed := Option.map_eq_none_iff.2 hclosed
  errLine _ _ hclosed := hclosed
  settle _ _ _ hclosed := hclosed
  sent _ _ hclosed := hclosed
  handled _ _ _ hclosed := hclosed

end Dialog

/-- A use that leaves a request alone of which no answer is read: the process is neither started nor
stopped, and the request is not given up and not answered by hand. -/
def Use.Spares (id : Nat) : Use → Prop
  | .start | .stop => False
  | .pickUp other | .cancel other => id ≠ other
  | .deliver message => ∀ content, ¬ Client.Answer message id content
  | _ => True

namespace Talk

open Session (Closed Waits Swept Attached Unheard)
open Dialog (unheard_update unheard_modifyClient unheard_takeIn unheard_exchange)

theorem waits_iff {talk : Talk} {id : Nat} :
    talk.session.Waits id ↔ ∃ token, talk.waiting? id = some token := Option.isSome_iff_exists

/-- A request that is sent while nothing is read is not heard. -/
theorem unheard_new_request {talk : Talk} (hclosed : talk.session.Closed) (method : String)
    (params : Json) :
    ((Use.request method params).dialog.perform talk).2.session.Unheard
      (talk.session.client.lastId + 1) := by
  have hregistered := Dialog.unheard_register _ hclosed method params none (.inl rfl)
  -- what comes after the request is in the table keeps it there
  have hsend := Leads.bind (Dialog.unheard_send (talk.session.client.lastId + 1)
    (talk.session.client.request method params none).2.2) fun _ =>
      .bind (unheard_exchange _) fun _ => .pure (talk.session.client.request method params none).1
  exact Leads.bind hsend (fun _ => .pure ()) _ hregistered

/-- A message that does not answer a request leaves it waiting. -/
theorem unheard_deliver {id : Nat} {message : Json}
    (h : ∀ content, ¬ Client.Answer message id content) :
    Leads (Keeps (Unheard id)) (Dialog.deliver message) := by
  intro talk hbefore
  refine ⟨Dialog.handles_closed.deliver message talk hbefore.1, ?_⟩
  obtain ⟨token, hwaiting⟩ := waits_iff.1 hbefore.2
  refine waits_iff.2 ⟨token, ?_⟩
  have hmove : Moves talk (.receive message) _ := .receive message
  cases hmove.fate id with
  | untouched hsame => exact hsame.trans hwaiting
  | ended _ _ _ hending =>
    -- only an answer ends a request
    obtain ⟨-, hanswer⟩ := hending
    exact absurd hanswer (h _)

/-- A request of which no answer is read waits on after every use that spares it. -/
theorem unheard_use {id : Nat} {use : Use} (h : use.Spares id) :
    Leads (Keeps (Unheard id)) use.dialog := by
  -- starting and stopping are not spared; whatever sends also reads, but a closed client reads
  -- nothing
  cases use with
  | start => exact h.elim
  | stop => exact h.elim
  | awaitReady => exact Dialog.leads_awaitReady
  | waitClosed =>
    exact .bind (Dialog.leads_waitClosed (Dialog.unheard_act id _)) fun _ => .pure _
  | request method params => exact .bind (Dialog.unheard_request id _ _ _) fun _ => .pure _
  | complete uri line character token =>
    exact .bind (.bind Dialog.leads_client fun _ => Dialog.unheard_request id _ _ _) fun _ =>
      .pure _
  | pickUp other =>
    refine .bind (Dialog.leads_outcome fun talk hbefore => ⟨hbefore.1, ?_⟩) fun _ => .pure _
    -- another request is picked up, so this one stays in the table
    have hkept := Assoc.get?_erase_of_ne h talk.session.client.pending
    exact (congrArg Option.isSome hkept).trans hbefore.2
  | cancel other =>
    intro talk hbefore
    refine ⟨hbefore.1, ?_⟩
    have hkept := talk.session.client.pending_settle other id (.error .cancelled)
    rw [if_neg h] at hkept
    exact (congrArg Option.isSome hkept).trans hbefore.2
  | notify method params => exact (Dialog.quiet_unheard id).notify (Dialog.unheard_act id _)
  | openDocument document =>
    exact unheard_update id fun client => client.sameRequests_openDocument document
  | changeDocument document =>
    exact unheard_update id fun client => client.sameRequests_changeDocument document
  | closeDocument uri =>
    exact unheard_update id fun client => client.sameRequests_closeDocument uri
  | forwardFile path kind =>
    exact .bind (Dialog.leads_forwardFile (Dialog.unheard_send id) (unheard_exchange id) _ _)
      fun _ => .pure _
  | subscribe method handler =>
    have hsame (client : Client) : client.SameRequests (client.subscribe method handler) :=
      ⟨rfl, rfl, rfl, rfl⟩
    exact unheard_modifyClient id hsame
  | unsubscribe method handler =>
    exact unheard_modifyClient id fun client => client.sameRequests_unsubscribe method handler
  | deliver message => exact unheard_deliver h
  | serverWrites bytes =>
    exact Dialog.leads_serverWrites (unheard_takeIn id _) (unheard_exchange id)
  | serverReports bytes => exact Dialog.leads_serverReports (unheard_takeIn id _)
  | serverExits code =>
    exact Dialog.leads_serverExits (fun _ hbefore => hbefore) (Dialog.quiet_unheard id).endErrors
      (unheard_exchange id)

/-- A request of which no answer is read waits on after all uses that spare it. -/
theorem unheard_after {talk : Talk} {id : Nat} {uses : List Use} (h : talk.session.Unheard id)
    (hspares : ∀ use ∈ uses, use.Spares id) : (talk.after uses).session.Unheard id := by
  induction uses generalizing talk with
  | nil => exact h
  | cons use rest ih =>
    have hfirst := unheard_use (hspares use List.mem_cons_self) talk h
    exact ih hfirst fun other hother => hspares other (List.mem_cons_of_mem _ hother)

/-! ### What waits while nothing is read -/

/-- A request was sent while nothing was read, and nothing was read since: it has the number of a
use of a session that was closed before and after, and the session was closed after every use that
came later. -/
inductive SentClosed (talk : Talk) : List Use → Nat → Prop where
  /-- The last use sends the request. -/
  | sent {uses : List Use} {use : Use} {id : Nat} (hbefore : (talk.after uses).session.Closed)
    (hafter : (talk.after (uses ++ [use])).session.Closed)
    (hnew : (talk.after uses).session.client.lastId < id)
    (hgiven : id ≤ (talk.after (uses ++ [use])).session.client.lastId) :
    SentClosed talk (uses ++ [use]) id
  /-- The request was sent before the last use. -/
  | later {uses : List Use} {use : Use} {id : Nat} (h : SentClosed talk uses id)
    (hafter : (talk.after (uses ++ [use])).session.Closed) : SentClosed talk (uses ++ [use]) id

/-- What waits after some moves waited before or has a new number. -/
theorem Reaches.waits {before after : Talk} {id : Nat} (h : Reaches before after)
    (hwaits : after.session.Waits id) :
    before.session.Waits id ∨ before.session.client.lastId < id := by
  obtain ⟨moves, hrun⟩ := h
  obtain ⟨token, hwaiting⟩ := waits_iff.1 hwaits
  rcases hrun.waiting_since hwaiting with ⟨hbefore, -⟩ | ⟨earlier, between, rfl, -⟩
  · exact .inl (waits_iff.2 ⟨token, hbefore⟩)
  · right
    refine hrun.numbers.2 id (List.mem_filterMap.2 ⟨.request id token, ?_, rfl⟩)
    exact List.mem_append_right _ List.mem_cons_self

/-- What waits after a use while nothing is read was not read before the use either. -/
theorem closed_of_waits {talk : Talk} {use : Use} {id : Nat}
    (hclosed : (use.dialog.perform talk).2.session.Closed)
    (hwaits : (use.dialog.perform talk).2.session.Waits id) : talk.session.Closed := by
  refine Classical.byContradiction fun hopen => ?_
  -- if the reading stopped during the use, the requests that waited ended with it
  have hswept : (use.dialog.perform talk).2.session.Swept :=
    Dialog.upholds_swept.use use talk fun _ hclosed => absurd hclosed hopen
  obtain ⟨token, hwaiting⟩ := waits_iff.1 hwaits
  exact absurd ((hswept hclosed id).symm.trans hwaiting) nofun

/-- A request that waits while nothing is read was sent while nothing was read. -/
theorem sentClosed_of_waits {talk : Talk} (hidle : Idle talk) {uses : List Use} {id : Nat}
    (hclosed : (talk.after uses).session.Closed) (hwaits : (talk.after uses).session.Waits id) :
    SentClosed talk uses id := by
  -- from the last use back: it sent the request, or the request waited before it
  induction uses using List.reverseRecOn with
  | nil =>
    obtain ⟨token, hwaiting⟩ := waits_iff.1 hwaits
    exact absurd ((hidle.waiting id).symm.trans hwaiting) nofun
  | append_singleton uses use ih =>
    have hafter := hclosed
    rw [after_concat] at hclosed hwaits
    have hbefore := closed_of_waits hclosed hwaits
    rcases (reaches_use use (talk.after uses)).waits hwaits with hwaited | hnew
    · exact .later (ih hbefore hwaited) hafter
    · obtain ⟨moves, hrun⟩ := reaches_after talk (uses ++ [use])
      rw [← after_concat] at hwaits
      obtain ⟨token, hwaiting⟩ := waits_iff.1 hwaits
      exact .sent hbefore hafter hnew ((hrun.tidy hidle.tidy).waiting hwaiting).1

/-- Where there is no process nothing is read, however a session is used. -/
theorem attached_after {talk : Talk} (h : talk.session.Attached) (uses : List Use) :
    (talk.after uses).session.Attached := by
  induction uses generalizing talk with
  | nil => exact h
  | cons use rest ih => exact ih (Dialog.upholds_attached.use use talk fun _ => h)

/-- In a new session, however it is used: a request that waits while nothing is read was sent while
nothing was read, so whatever was sent before has ended. But what is sent then waits, as long as it
is not given up and the process is not changed. A stop that ends well is one of the ways in which it
comes that nothing is read. -/
theorem requests_of_closed (id name : String) (options : ClientOptions) (server : ServerOptions)
    (launch : ServerOptions → Act Peer) (world : World) :
    let talk : Talk := ⟨world, { client := { id, name, options }, server, launch }⟩
    (∀ (uses : List Use) (number : Nat), (talk.after uses).session.Closed →
      (talk.after uses).session.Waits number → SentClosed talk uses number) ∧
    (∀ (uses : List Use) (last : Nat) (method : String) (params : Json) (later : List Use),
      (talk.after uses).session.Closed → (talk.after uses).session.client.lastId = last →
      (∀ use ∈ later, use.Spares (last + 1)) →
      (talk.after (uses ++ .request method params :: later)).session.Unheard (last + 1)) ∧
    ∀ (uses : List Use) (after : Talk),
      Dialog.stop.perform (talk.after uses) = (.ok (), after) → after.session.Closed := by
  -- a new session holds no process, and nothing can be read without one
  intro talk
  have hattached : talk.session.Attached := fun _ => rfl
  refine ⟨fun uses number => sentClosed_of_waits ⟨rfl, rfl⟩, ?_, ?_⟩
  · rintro uses _ method params later hclosed rfl hspares
    have hlater : talk.after (uses ++ .request method params :: later) =
        ((Use.request method params).dialog.perform (talk.after uses)).2.after later :=
      after_append talk uses _
    rw [hlater]
    exact unheard_after (unheard_new_request hclosed method params) hspares
  · intro uses after hrun
    exact Dialog.closed_of_stop (attached_after hattached uses) hrun

/-- A server that has started ends, and a request is sent after it. -/
theorem request_unheard :
    (rehearsed.after [.start, .serverExits 0, .request "m" .null]).session.Unheard 2 := by
  have hclosed : (rehearsed.after [.start, .serverExits 0]).session.Closed := by
    have hnone : (rehearsed.after [.start, .serverExits 0]).session.reader.isNone := by
      decide +kernel
    exact Option.isNone_iff_eq_none.1 hnone
  obtain ⟨-, hsent, -⟩ := requests_of_closed "julia" "Julia" { root := "/" } default
    (Peer.pretend (.ok { engine := .rehearsed [] })) default
  refine hsent [.start, .serverExits 0] 1 "m" .null [] hclosed ?_ nofun
  decide +kernel

end Talk

end JuliaSession
