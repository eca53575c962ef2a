import JuliaSession.Proofs.Client.Answers
import JuliaSession.Proofs.Client.Handling

/-!
# What a message does to the requests

Almost everything a session does leaves the client's requests alone: records are written, messages
are sent, handlers are called (`Talk.SameRequests`). A message of the server ends a request exactly
if it answers one that waits.

* `deliver_answer`: an answer to a request that waits ends this request and nothing else.
* `deliver_other`: any other message leaves the requests as they are.
-/

namespace JuliaSession

variable {α : Type}

/-- Two clients with the same name and the same requests. -/
structure Client.SameRequests (before after : Client) : Prop where
  /-- The name is in the failure of requests that are not answered any more. -/
  name : after.name = before.name
  /-- The number of the last request. -/
  lastId : after.lastId = before.lastId
  /-- The requests that wait. -/
  pending : after.pending = before.pending
  /-- The outcomes that were not picked up. -/
  ended : after.ended = before.ended

namespace Talk

/-- The token of a request that waits for an answer. -/
def waiting? (talk : Talk) (id : Nat) : Option (Option Completion.Token) :=
  Assoc.get? id talk.session.client.pending

/-- The outcome of a request that has ended. -/
def outcome? (talk : Talk) (id : Nat) : Option (Except Failure Json) :=
  Assoc.get? id talk.session.client.ended

/-- A request that waits is in the client's table. -/
theorem has_pending {talk : Talk} {id : Nat} {token : Option Completion.Token}
    (h : talk.waiting? id = some token) : Assoc.has id talk.session.client.pending := by
  rw [Assoc.has, ← waiting?, h, Option.isSome_some]

/-- Two moments of a session with the same requests. -/
def SameRequests (before after : Talk) : Prop :=
  before.session.client.SameRequests after.session.client

instance : Std.Refl SameRequests := ⟨fun _ => ⟨rfl, rfl, rfl, rfl⟩⟩

instance : Trans SameRequests SameRequests SameRequests where
  trans h h' := ⟨h'.name.trans h.name, h'.lastId.trans h.lastId, h'.pending.trans h.pending,
    h'.ended.trans h.ended⟩

end Talk

namespace Dialog

open Step (Leads)
open Talk (SameRequests waiting?)

/-! ### Records, streams and handlers -/

/-- A step on the world does not touch the requests. -/
theorem sameRequests_act (step : Act α) : Leads SameRequests (act step) :=
  fun _ => ⟨rfl, rfl, rfl, rfl⟩

/-- A change of the session that keeps the client's requests. -/
theorem sameRequests_modifySession {change : Session → Session}
    (h : ∀ session : Session, session.client.SameRequests (change session).client) :
    Leads SameRequests (modifySession change) := fun talk => h talk.session

/-- Whatever comes back on the streams, no request ends by it. -/
theorem quiet_sameRequests : Quiet SameRequests where
  emit _ _ _ _ := sameRequests_act _
  accept _ _ := sameRequests_act _
  hold _ _ := ⟨rfl, rfl, rfl, rfl⟩
  feed _ _ := ⟨rfl, rfl, rfl, rfl⟩
  errLine _ _ := ⟨rfl, rfl, rfl, rfl⟩

/-- Whatever is sent, no request ends by it. -/
theorem sameRequests_send (messages : List Json) : Leads SameRequests (send messages) :=
  quiet_sameRequests.send fun _ _ => sameRequests_act _

theorem sameRequests_notify (method : String) (params : Json) :
    Leads SameRequests (notify method params) :=
  quiet_sameRequests.notify (sameRequests_act _)

theorem sameRequests_callHandler (handler : Handler) (params : Json) :
    Leads SameRequests (callHandler handler params) := by
  unfold callHandler
  split
  · refine .bind (sameRequests_act _) fun answer => ?_
    split
    · exact .pure _
    · exact sameRequests_notify _ _
  · refine .bind (sameRequests_act _) fun _ => ?_
    split
    · exact .throw _
    · exact .pure _

/-- Whatever a message leads to, requests end only where it settles one. -/
theorem sameRequests_carryOut {reaction : Reaction}
    (h : ∀ id outcome, reaction ≠ .settle id outcome) :
    Leads SameRequests (carryOut reaction) := by
  cases reaction with
  | ignore => exact .pure _
  | settle id outcome => exact absurd rfl (h id outcome)
  | respond id result => exact .bind leads_client fun _ => sameRequests_send _
  | refuse id method =>
    exact .bind (quiet_sameRequests.log _ _ _) fun _ => .bind leads_client fun _ =>
      sameRequests_send _
  | call handler params => exact sameRequests_callHandler handler params
  | serverLog message type => exact quiet_sameRequests.trace _ _
  | progress kind title => exact quiet_sameRequests.log _ _ _
  | unhandled method => exact quiet_sameRequests.log _ _ _

/-! ### Answers -/

/-- What a request comes to that is answered with some content: the content itself, or what is left
of it after the completions in it were reconciled with the token of the request. -/
def answered (world : World) :
    Option Completion.Token → Except Failure Json → Except Failure Json
  | some token, .ok response => ((Completion.widenReported token response).perform world).1
  | _, content => content

theorem perform_reconciled (token : Option Completion.Token) (content : Except Failure Json)
    (world : World) :
    ((reconciled token content).perform world).1 = .ok (answered world token content) := by
  cases content with
  | error failure => cases token <;> rfl
  | ok response => cases token <;> rfl

/-- Settling a request gives it the reconciled content and touches no other request. -/
theorem client_carryOut_settle {talk : Talk} {id : Nat} {token : Option Completion.Token}
    (hwaiting : talk.waiting? id = some token) (content : Except Failure Json) :
    ((carryOut (.settle id content)).perform talk).2.session.client =
      talk.session.client.settle id (answered talk.world token content) := by
  -- the token of the request decides how the content is reconciled, before the request ends
  have hact : (act (reconciled token content)).perform talk =
      (.ok (answered talk.world token content),
        { talk with world := ((reconciled token content).perform talk.world).2 }) := by
    rw [act, Step.perform_onPart, perform_reconciled]
  have htoken : (Assoc.get? id talk.session.client.pending).getD none = token := by
    rw [← waiting?, hwaiting, Option.getD_some]
  unfold carryOut
  rw [Step.perform_bind_ok (perform_client talk)]
  dsimp only
  rw [htoken, Step.perform_bind_ok hact]
  rfl

/-- A failure in handling a message is reported, which touches no request. -/
theorem sameRequests_deliver (message : Json) (talk : Talk) :
    SameRequests ((handle message).perform talk).2 ((deliver message).perform talk).2 := by
  unfold deliver
  rw [Step.perform_bind_ok (Step.perform_attempt _ _)]
  split
  · exact ⟨rfl, rfl, rfl, rfl⟩
  · exact Leads.bind (quiet_sameRequests.log _ _ _).attempt (fun _ => .pure _) _

theorem perform_handle (message : Json) (talk : Talk) :
    (handle message).perform talk =
      (Step.ofExcept (talk.session.client.react talk.world.desk.machine.cwd message) >>=
        carryOut).perform talk := rfl

/-- An answer to a request that waits ends this request with its content. -/
theorem deliver_answer {talk : Talk} {message : Json} {id : Nat}
    {token : Option Completion.Token} {content : Except Failure Json}
    (hanswer : Client.Answer message id content) (hwaiting : talk.waiting? id = some token) :
    (talk.session.client.settle id (answered talk.world token content)).SameRequests
      ((deliver message).perform talk).2.session.client := by
  have hreact : talk.session.client.react talk.world.desk.machine.cwd message =
      .ok (.settle id content) :=
    Client.react_eq_settle_iff.2 ⟨hanswer, Talk.has_pending hwaiting⟩
  have hdeliver := sameRequests_deliver message talk
  rw [perform_handle, hreact, Step.perform_bind_ok (Step.perform_ofExcept _ _), SameRequests,
    client_carryOut_settle hwaiting content] at hdeliver
  exact hdeliver

/-- A message that answers no request that waits leaves the requests as they are. -/
theorem deliver_other {talk : Talk} {message : Json}
    (h : ∀ {id content}, Client.Answer message id content → talk.waiting? id = none) :
    SameRequests talk ((deliver message).perform talk).2 := by
  have hhandle : SameRequests talk ((handle message).perform talk).2 := by
    rw [perform_handle]
    -- a message that is refused does nothing, and one that settles a request would be an answer
    cases hreact : talk.session.client.react talk.world.desk.machine.cwd message with
    | error failure => exact ⟨rfl, rfl, rfl, rfl⟩
    | ok reaction =>
      rw [Step.perform_bind_ok (Step.perform_ofExcept _ _)]
      refine sameRequests_carryOut ?_ talk
      rintro id content rfl
      obtain ⟨hanswer, hpending⟩ := Client.react_eq_settle_iff.1 hreact
      have hnone := h hanswer
      rw [waiting?] at hnone
      rw [Assoc.has, hnone] at hpending
      cases hpending
  exact Trans.trans hhandle (sameRequests_deliver message talk)

/-- A message answers a request that waits, or it answers none. -/
theorem answers_or_not (talk : Talk) (message : Json) :
    (∃ id token content, Client.Answer message id content ∧ talk.waiting? id = some token) ∨
      ∀ {id content}, Client.Answer message id content → talk.waiting? id = none := by
  by_cases h : ∃ id token content,
    Client.Answer message id content ∧ talk.waiting? id = some token
  · exact .inl h
  · right
    intro id content hanswer
    cases hwaiting : talk.waiting? id with
    | none => rfl
    | some token => exact absurd ⟨id, token, content, hanswer, hwaiting⟩ h

end Dialog

end JuliaSession
