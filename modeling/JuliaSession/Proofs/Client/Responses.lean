import JuliaSession.Proofs.Client.Uses

/-!
# Responses that cannot be read

A response says a result or an error, and its error comes from another program: it may be any JSON
value. The client reads an error that is empty or an object (`Client.Readable`); handling any other
response fails before the request ends.

* `response_ends_iff`: a response to a request that waits ends the request exactly if it is
  readable; a request that gets nothing but responses that are not readable waits on.
-/

namespace JuliaSession

namespace Client

/-- A response that the client can read: it has no error, or an error that is empty or an object. -/
def Readable (message : Json.Members) : Prop :=
  ∀ error, Assoc.get? "error" message = some error →
    error.isTruthy = false ∨ ∃ members, error = .obj members

/-- The responses that can be read are those with a content. -/
theorem readable_iff {message : Json.Members} :
    Readable message ↔ ∃ content, Content message content := by
  constructor
  · intro h
    cases herror : Assoc.get? "error" message with
    | none => exact ⟨_, .result herror⟩
    | some error =>
      rcases h error herror with hblank | ⟨members, rfl⟩
      · exact ⟨_, .blank herror hblank⟩
      · exact ⟨_, .error herror⟩
  · rintro ⟨content, hcontent⟩ error herror
    cases hcontent with
    | result hnone => exact absurd (hnone.symm.trans herror) nofun
    | error hobject =>
      rw [hobject] at herror
      cases herror
      exact .inr ⟨_, rfl⟩
    | blank hsome hblank =>
      rw [hsome] at herror
      cases herror
      exact .inl hblank

/-- What a response comes to that cannot be read. -/
theorem outcomeOf_of_not_readable {message : Json.Members} (h : ¬ Readable message) :
    outcomeOf message = .error .noMembers := by
  unfold outcomeOf
  cases herror : Assoc.get? "error" message with
  | none => exact absurd (readable_iff.2 ⟨_, .result herror⟩) h
  | some error =>
    dsimp only
    cases hblank : error.isTruthy with
    | false => exact absurd (readable_iff.2 ⟨_, .blank herror hblank⟩) h
    | true =>
      rw [if_pos rfl]
      -- what counts as true and is no object has no members
      cases error with
      | obj members => exact absurd (readable_iff.2 ⟨_, .error herror⟩) h
      | null | bool | int | float | str | arr => rfl

/-- A response that cannot be read is no answer to any request. -/
theorem not_answer_of_not_readable {message : Json.Members} (h : ¬ Readable message) {id : Nat}
    {content : Except Failure Json} : ¬ Answer (.obj message) id content := by
  rintro ⟨-, -, hcontent⟩
  exact h (readable_iff.2 ⟨content, hcontent⟩)

end Client

namespace Dialog

open Talk (waiting? outcome?)

section Response

variable {talk : Talk} {message : Json.Members} {id : Nat} {token : Option Completion.Token}

/-- Handling an answer to a request that waits ends well, and the request with it. -/
theorem perform_handle_answer {content : Except Failure Json}
    (hanswer : Client.Answer (.obj message) id content) (hwaiting : talk.waiting? id = some token) :
    ∃ after, (handle (.obj message)).perform talk = (.ok (), after) ∧
      after.session.client =
        talk.session.client.settle id (answered talk.world token content) := by
  have hreact : talk.session.client.react talk.world.desk.machine.cwd (.obj message) =
      .ok (.settle id content) :=
    Client.react_eq_settle_iff.2 ⟨hanswer, Talk.has_pending hwaiting⟩
  have hclient := client_carryOut_settle hwaiting content
  -- settling a request cannot fail, whatever becomes of the content
  have hwell : ((carryOut (.settle id content)).perform talk).1 = .ok () := by
    unfold carryOut
    rw [Step.perform_bind_ok (perform_client talk)]
    dsimp only
    rw [Step.perform_bind, act, Step.perform_onPart, perform_reconciled]
    rfl
  refine ⟨((carryOut (.settle id content)).perform talk).2, ?_, hclient⟩
  rw [perform_handle, hreact, Step.perform_bind_ok (Step.perform_ofExcept _ _), ← hwell]

/-- Handling a response that cannot be read to a request that waits fails, and changes nothing. -/
theorem perform_handle_unreadable (hwaiting : talk.waiting? id = some token)
    (hmethod : Assoc.get? "method" message = none)
    (hid : (Json.member "id" message).integerValue? = some (id : Int))
    (h : ¬ Client.Readable message) :
    (handle (.obj message)).perform talk = (.error .noMembers, talk) := by
  have hreact : talk.session.client.react talk.world.desk.machine.cwd (.obj message) =
      .error .noMembers := by
    have hawaited := Client.awaited_eq_some_iff.2 ⟨hid, Talk.has_pending hwaiting⟩
    simp only [Client.react, hmethod, Client.reactToAnswer, hawaited,
      Client.outcomeOf_of_not_readable h]
    rfl
  rw [perform_handle, hreact, Step.perform_bind_error (Step.perform_ofExcept _ _)]

/-- However many responses come that cannot be read, a request waits on. -/
theorem waiting_after_unreadable {uses : List Use}
    (h : ∀ use ∈ uses, ∃ message, use = .deliver (.obj message) ∧ ¬ Client.Readable message) :
    (talk.after uses).waiting? id = talk.waiting? id := by
  induction uses generalizing talk with
  | nil => rfl
  | cons use rest ih =>
    obtain ⟨message, rfl, hmessage⟩ := h use List.mem_cons_self
    have hsame : talk.SameRequests ((deliver (.obj message)).perform talk).2 :=
      deliver_other fun hanswer =>
        absurd hanswer (Client.not_answer_of_not_readable hmessage)
    refine (ih fun other hother => h other (List.mem_cons_of_mem _ hother)).trans ?_
    exact congrArg (Assoc.get? id) hsame.pending

/-- A response to a request that waits ends the request exactly if it is readable, with what it says
as the outcome. If it is not, handling it fails and changes nothing, and as long as only such
responses come the request waits on. -/
theorem response_ends_iff (hwaiting : talk.waiting? id = some token)
    (hmethod : Assoc.get? "method" message = none)
    (hid : (Json.member "id" message).integerValue? = some (id : Int)) :
    ((∃ content after, Client.Content message content ∧
        (handle (.obj message)).perform talk = (.ok (), after) ∧ after.waiting? id = none ∧
        after.outcome? id = some (answered talk.world token content)) ↔
      Client.Readable message) ∧
    (¬ Client.Readable message →
      (handle (.obj message)).perform talk = (.error .noMembers, talk) ∧
      ∀ uses : List Use,
        (∀ use ∈ uses, ∃ other, use = .deliver (.obj other) ∧ ¬ Client.Readable other) →
        (talk.after uses).waiting? id = some token) := by
  -- a readable response has a content, and that is all an answer needs
  refine ⟨⟨?_, ?_⟩, ?_⟩
  · rintro ⟨content, -, hcontent, -⟩
    exact Client.readable_iff.2 ⟨content, hcontent⟩
  · intro hreadable
    obtain ⟨content, hcontent⟩ := Client.readable_iff.1 hreadable
    obtain ⟨after, hrun, hclient⟩ :=
      perform_handle_answer (.response hmethod hid hcontent) hwaiting
    refine ⟨content, after, hcontent, hrun, ?_, ?_⟩
    · rw [waiting?, hclient, Client.pending_settle, if_pos rfl]
    · rw [outcome?, hclient, Client.ended_settle, if_pos ⟨rfl, Talk.has_pending hwaiting⟩]
  · intro hunreadable
    refine ⟨perform_handle_unreadable hwaiting hmethod hid hunreadable, fun uses huses => ?_⟩
    rw [waiting_after_unreadable huses, hwaiting]

end Response

/-- A server that has started answers a request with an error that is a text. -/
theorem response_unread_text :
    let talk := Talk.rehearsed.after [.start, .request "m" .null]
    let message : Json.Members := [("id", .int 2), ("error", .str "boom")]
    talk.waiting? 2 = some none ∧
      (handle (.obj message)).perform talk = (.error .noMembers, talk) := by
  have hwaiting :
      (Talk.rehearsed.after [.start, .request "m" .null]).waiting? 2 = some none := by
    decide +kernel
  have hunreadable : ¬ Client.Readable [("id", .int 2), ("error", .str "boom")] := by
    intro h
    rcases h (.str "boom") rfl with htruthy | ⟨members, ⟨⟩⟩
    cases htruthy
  exact ⟨hwaiting, ((response_ends_iff hwaiting rfl rfl).2 hunreadable).1⟩

end Dialog

end JuliaSession
