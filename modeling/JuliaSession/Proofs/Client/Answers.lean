import JuliaSession.Client.Incoming
import JuliaSession.Proofs.Step

/-!
# Answers to requests

Which messages answer a request and which ones notify the client, said without the client, and what
the client's operations do to its requests.

* `Answer message id content`: the message is a response for the request `id`, and `content` is what
  it says.
* `react_eq_settle_iff`: the client ends a request with some content exactly if the message is an
  answer with this content to a request that waits.
* `react_eq_call_iff`: a handler is called exactly for a notification of a method that it is
  registered for.
* `pending_settle`, `ended_settle` and their kin: looking up a request after each operation.
-/

namespace JuliaSession.Client

/-! ### What an answer is -/

/-- What a response says: its result, or its error. An error that is no object has to be empty. -/
inductive Content (message : Json.Members) : Except Failure Json → Prop where
  /-- A response without an error says its result, which is null if it is left out. -/
  | result (h : Assoc.get? "error" message = none) :
    Content message (.ok (Json.member "result" message))
  /-- A response with an error says the error's code and message. -/
  | error {error : Json.Members} (h : Assoc.get? "error" message = some (.obj error)) :
    Content message (.error (.response (Json.member "code" error)
      ((Assoc.get? "message" error).getD (.str "Unknown error"))))
  /-- An empty error has neither code nor message. -/
  | blank {error : Json} (h : Assoc.get? "error" message = some error)
    (hblank : error.isTruthy = false) :
    Content message (.error (.response .null (.str "Unknown error")))

/-- The messages that answer a request: objects without a method whose id is the number of the
request. -/
inductive Answer : Json → Nat → Except Failure Json → Prop where
  /-- A response with some content. -/
  | response {message : Json.Members} {id : Nat} {content : Except Failure Json}
    (hmethod : Assoc.get? "method" message = none)
    (hid : (Json.member "id" message).integerValue? = some (id : Int))
    (hcontent : Content message content) : Answer (.obj message) id content

/-- A message answers one request at most. -/
theorem Answer.id_unique {message : Json} {id other : Nat} {content content' : Except Failure Json}
    (h : Answer message id content) (h' : Answer message other content') : id = other := by
  obtain ⟨-, hid, -⟩ := h
  obtain ⟨-, hother, -⟩ := h'
  exact Int.ofNat.inj (Option.some.inj (hid.symm.trans hother))

/-! ### Which messages the client takes for an answer -/

/-- The content of a response is what the request comes to. -/
theorem outcomeOf_eq_ok_iff {message : Json.Members} {content : Except Failure Json} :
    outcomeOf message = .ok content ↔ Content message content := by
  unfold outcomeOf
  constructor
  · intro h
    cases herror : Assoc.get? "error" message with
    | none =>
      rw [herror] at h
      cases h
      exact .result herror
    | some error =>
      simp only [herror] at h
      cases hblank : error.isTruthy with
      | false =>
        rw [hblank] at h
        cases h
        exact .blank herror hblank
      -- of the values that count as true only an object has members to read
      | true =>
        rw [hblank, if_pos rfl] at h
        cases error with
        | obj members =>
          cases h
          exact .error herror
        | null | bool | int | float | str | arr => cases h
  · intro h
    cases h with
    | result herror => rw [herror]
    | @error error herror =>
      simp only [herror]
      cases error <;> rfl
    | blank herror hblank =>
      simp only [herror, hblank]
      rfl

/-- A message has one content at most. -/
theorem Answer.content_unique {message : Json} {id other : Nat}
    {content content' : Except Failure Json} (h : Answer message id content)
    (h' : Answer message other content') : content = content' := by
  obtain ⟨-, -, hcontent⟩ := h
  obtain ⟨-, -, hcontent'⟩ := h'
  exact Except.ok.inj
    ((outcomeOf_eq_ok_iff.2 hcontent).symm.trans (outcomeOf_eq_ok_iff.2 hcontent'))

/-- The request that an id belongs to is the one that waits and has that number. -/
theorem awaited_eq_some_iff {client : Client} {value : Json} {id : Nat} :
    client.awaited value = .ok (some id) ↔
      value.integerValue? = some (id : Int) ∧ Assoc.has id client.pending := by
  -- numbers are given out once, so the first one that fits the id is the only one
  have hfind : ((Assoc.keys client.pending).find? fun n : Nat =>
      value.integerValue? == some (n : Int)) = some id ↔
        value.integerValue? = some (id : Int) ∧ Assoc.has id client.pending := by
    constructor
    · intro h
      have hid := List.find?_some h
      exact ⟨eq_of_beq hid, Assoc.has_iff_mem_keys.2 (List.mem_of_find?_eq_some h)⟩
    · rintro ⟨hid, hpending⟩
      cases hfound : (Assoc.keys client.pending).find? fun n : Nat =>
        value.integerValue? == some (n : Int) with
      | none =>
        have hnone := List.find?_eq_none.1 hfound id (Assoc.has_iff_mem_keys.1 hpending)
        rw [hid] at hnone
        exact absurd BEq.rfl hnone
      | some other =>
        have hother := List.find?_some hfound
        simp only [hid, beq_iff_eq] at hother
        rw [Int.ofNat.inj (Option.some.inj hother)]
  unfold awaited
  -- an array or an object is refused before anything is looked up
  cases value with
  | arr | obj => exact ⟨nofun, nofun⟩
  | null | bool | int | float | str => rw [Except.ok.injEq, hfind]

/-- A request of the server is answered or refused. -/
theorem reactToRequest_cases {client : Client} {cwd : String} {id method params : Json}
    {reaction : Reaction} (h : client.reactToRequest cwd id method params = .ok reaction) :
    (∃ result, reaction = .respond id result) ∨ reaction = .refuse id method := by
  unfold reactToRequest at h
  -- by the method: settings, folders, other names, and what is no name
  split at h
  · obtain ⟨items, -, h⟩ := bind_eq_ok_iff.1 h
    obtain ⟨values, -, h⟩ := bind_eq_ok_iff.1 h
    cases h
    exact .inl ⟨_, rfl⟩
  · cases h
    exact .inl ⟨_, rfl⟩
  · split at h
    · cases h
      exact .inl ⟨_, rfl⟩
    · cases h
      exact .inr rfl
  · cases h
    exact .inr rfl

/-- A notification without a handler is noted in one of three ways. -/
theorem reactUnhandled_cases {method params : Json} {reaction : Reaction}
    (h : reactUnhandled method params = .ok reaction) :
    (∃ message type, reaction = .serverLog message type) ∨
      (∃ kind title, reaction = .progress kind title) ∨ reaction = .unhandled method := by
  simp only [reactUnhandled] at h
  split at h
  · cases h
    exact .inl ⟨_, _, rfl⟩
  · split at h
    · cases h
      exact .inr (.inl ⟨_, _, rfl⟩)
    · cases h
  · cases h
    exact .inr (.inr rfl)

/-- A notification is passed to the handler that is registered for its method, or there is none. -/
theorem reactToNotification_cases {client : Client} {method params : Json} {reaction : Reaction}
    (h : client.reactToNotification method params = .ok reaction) :
    (∃ handler, client.handlerFor method = .ok (some handler) ∧ reaction = .call handler params) ∨
      reactUnhandled method params = .ok reaction := by
  obtain ⟨found, hfound, h⟩ := bind_eq_ok_iff.1 h
  cases found with
  | some handler =>
    cases h
    exact .inl ⟨handler, hfound, rfl⟩
  | none => exact .inr h

/-- Answering a request of the server ends none of the client's. -/
theorem reactToRequest_ne_settle (client : Client) (cwd : String) (id method params : Json)
    (number : Nat) (outcome : Except Failure Json) :
    client.reactToRequest cwd id method params ≠ .ok (.settle number outcome) := by
  intro h
  rcases reactToRequest_cases h with ⟨_, hother⟩ | hother <;> cases hother

/-- Noticing something ends no request. -/
theorem reactToNotification_ne_settle (client : Client) (method params : Json) (number : Nat)
    (outcome : Except Failure Json) :
    client.reactToNotification method params ≠ .ok (.settle number outcome) := by
  intro h
  rcases reactToNotification_cases h with ⟨_, -, hother⟩ | h
  · cases hother
  · rcases reactUnhandled_cases h with ⟨_, _, hother⟩ | ⟨_, _, hother⟩ | hother <;> cases hother

/-- The client ends a request exactly if the message is an answer to a request that waits. -/
theorem react_eq_settle_iff {client : Client} {cwd : String} {message : Json} {id : Nat}
    {content : Except Failure Json} :
    client.react cwd message = .ok (.settle id content) ↔
      Answer message id content ∧ Assoc.has id client.pending := by
  constructor
  · intro h
    unfold react at h
    -- only an object is read, and only one without a method is an answer
    split at h
    next members =>
      split at h
      next hmethod =>
        obtain ⟨found, hfound, h⟩ := bind_eq_ok_iff.1 h
        cases found with
        | none => cases h
        | some found =>
          obtain ⟨outcome, houtcome, h⟩ := bind_eq_ok_iff.1 h
          cases h
          obtain ⟨hid, hpending⟩ := awaited_eq_some_iff.1 hfound
          exact ⟨.response hmethod hid (outcomeOf_eq_ok_iff.1 houtcome), hpending⟩
      next =>
        split at h
        · exact absurd h (reactToRequest_ne_settle _ _ _ _ _ _ _)
        · exact absurd h (reactToNotification_ne_settle _ _ _ _ _)
    · cases h
    · cases h
    · cases h
  · rintro ⟨⟨hmethod, hid, hcontent⟩, hpending⟩
    simp only [react, hmethod]
    refine bind_eq_ok_iff.2 ⟨some id, awaited_eq_some_iff.2 ⟨hid, hpending⟩, ?_⟩
    exact bind_eq_ok_iff.2 ⟨content, outcomeOf_eq_ok_iff.2 hcontent, rfl⟩

/-! ### Notifications -/

/-- The messages that notify the client: objects without an id whose method is a name. Parameters
that are left out are null. -/
inductive Notifies : Json → String → Json → Prop where
  /-- A notification for a method. -/
  | notification {message : Json.Members} {method : String}
    (hmethod : Assoc.get? "method" message = some (.str method))
    (hid : Assoc.get? "id" message = none) :
    Notifies (.obj message) method (Json.member "params" message)

/-- A message notifies of one thing at most. -/
theorem Notifies.unique {message params params' : Json} {method method' : String}
    (h : Notifies message method params) (h' : Notifies message method' params') :
    method = method' ∧ params = params' := by
  obtain ⟨hmethod, -⟩ := h
  obtain ⟨hmethod', -⟩ := h'
  exact ⟨Json.str.inj (Option.some.inj (hmethod.symm.trans hmethod')), rfl⟩

/-- The handler for a method is the one that is registered for its name. -/
theorem handlerFor_eq_some_iff {client : Client} {method : Json} {handler : Handler} :
    client.handlerFor method = .ok (some handler) ↔
      ∃ name, method = .str name ∧ Assoc.get? name client.handlers = some handler := by
  unfold handlerFor
  constructor
  · intro h
    split at h
    next name => exact ⟨name, rfl, Except.ok.inj h⟩
    · cases h
    · cases h
    · cases h
  · rintro ⟨name, rfl, hregistered⟩
    exact congrArg Except.ok hregistered

/-- The client calls a handler exactly if the message is a notification for a method that the
handler is registered for. -/
theorem react_eq_call_iff {client : Client} {cwd : String} {message params : Json}
    {handler : Handler} :
    client.react cwd message = .ok (.call handler params) ↔
      ∃ method, Notifies message method params ∧
        Assoc.get? method client.handlers = some handler := by
  constructor
  · intro h
    unfold react at h
    -- only an object with a method and without an id is a notification
    split at h
    next members =>
      split at h
      next =>
        obtain ⟨found, -, h⟩ := bind_eq_ok_iff.1 h
        cases found with
        | none => cases h
        | some id =>
          obtain ⟨outcome, -, h⟩ := bind_eq_ok_iff.1 h
          cases h
      next value hmethod =>
        split at h
        · -- requests are answered and never passed on to a handler
          rcases reactToRequest_cases h with ⟨_, hother⟩ | hother <;> cases hother
        next hid =>
          rcases reactToNotification_cases h with ⟨handler, hhandler, hcall⟩ | h
          · cases hcall
            obtain ⟨method, rfl, hregistered⟩ := handlerFor_eq_some_iff.1 hhandler
            exact ⟨method, .notification hmethod hid, hregistered⟩
          · rcases reactUnhandled_cases h with ⟨_, _, hother⟩ | ⟨_, _, hother⟩ | hother <;>
              cases hother
    · cases h
    · cases h
    · cases h
  · rintro ⟨method, ⟨hmethod, hid⟩, hregistered⟩
    simp only [react, hmethod, hid]
    exact bind_eq_ok_iff.2
      ⟨some handler, handlerFor_eq_some_iff.2 ⟨method, rfl, hregistered⟩, rfl⟩

/-- A handler that is taken back is gone if it is the one that is registered for the method, and
nothing else changes. -/
theorem get?_unsubscribe (client : Client) (method other : String) (handler : Handler) :
    Assoc.get? other (client.unsubscribe method handler).handlers =
      if other = method ∧ ∃ current, Assoc.get? method client.handlers = some current ∧
        current.key = handler.key then none
      else Assoc.get? other client.handlers := by
  unfold unsubscribe
  cases hcurrent : Assoc.get? method client.handlers with
  | none => simp only [reduceCtorEq, false_and, exists_false, and_false, if_false]
  | some current =>
    by_cases hkey : current.key = handler.key
    · simp only [hkey, if_true, Assoc.get?_erase, Option.some.injEq, exists_eq_left', and_true]
    · simp only [hkey, if_false, Option.some.injEq, exists_eq_left', and_false]

/-! ### Looking up requests -/

section Lookup

variable (client : Client) (id other : Nat) (outcome : Except Failure Json)

@[simp]
theorem name_settle : (client.settle id outcome).name = client.name := by
  unfold settle
  split <;> rfl

@[simp]
theorem lastId_settle : (client.settle id outcome).lastId = client.lastId := by
  unfold settle
  split <;> rfl

/-- A request that ends waits no longer, and every other one goes on. -/
theorem pending_settle :
    Assoc.get? other (client.settle id outcome).pending =
      if other = id then none else Assoc.get? other client.pending := by
  unfold settle
  split
  next => exact Assoc.get?_erase _ _ _
  next hnone =>
    split
    next h =>
      rw [h]
      exact Option.not_isSome_iff_eq_none.1 hnone
    next => rfl

/-- A request that waits ends with the outcome, and the outcome of every other one stays. -/
theorem ended_settle :
    Assoc.get? other (client.settle id outcome).ended =
      if other = id ∧ Assoc.has id client.pending then some outcome
      else Assoc.get? other client.ended := by
  unfold settle
  split
  next hpending => simp only [Assoc.get?_insert, hpending, and_true]
  next hnone => rw [if_neg fun h => hnone h.2]

/-- The requests of `entries` end, one after the other. -/
private def settleEach (entries : Assoc Nat (Option Completion.Token)) : Client :=
  entries.foldl (fun client entry => client.settle entry.1 outcome) client

private theorem pending_settleEach (entries : Assoc Nat (Option Completion.Token)) :
    Assoc.get? other (client.settleEach outcome entries).pending =
      if other ∈ Assoc.keys entries then none else Assoc.get? other client.pending := by
  induction entries generalizing client with
  | nil => rfl
  | cons entry rest ih =>
    refine (ih (client.settle entry.1 outcome)).trans ?_
    simp only [pending_settle, Assoc.keys, List.map_cons, List.mem_cons]
    by_cases hentry : other = entry.1
    · simp only [hentry, if_true, true_or, ite_self]
    · simp only [hentry, if_false, false_or]

private theorem ended_settleEach (entries : Assoc Nat (Option Completion.Token)) :
    Assoc.get? other (client.settleEach outcome entries).ended =
      if other ∈ Assoc.keys entries ∧ Assoc.has other client.pending then some outcome
      else Assoc.get? other client.ended := by
  induction entries generalizing client with
  | nil => rw [if_neg fun h => List.not_mem_nil h.1]; rfl
  | cons entry rest ih =>
    refine (ih (client.settle entry.1 outcome)).trans ?_
    simp only [Assoc.has, pending_settle, ended_settle, Assoc.keys, List.map_cons, List.mem_cons]
    by_cases hentry : other = entry.1
    · simp only [hentry, if_true, Option.isSome_none, Bool.false_eq_true, and_false, if_false,
        true_and, true_or]
    · simp only [hentry, if_false, false_and, false_or]

private theorem name_settleEach (entries : Assoc Nat (Option Completion.Token)) :
    (client.settleEach outcome entries).name = client.name := by
  induction entries generalizing client with
  | nil => rfl
  | cons entry rest ih => exact (ih _).trans (name_settle client entry.1 outcome)

private theorem lastId_settleEach (entries : Assoc Nat (Option Completion.Token)) :
    (client.settleEach outcome entries).lastId = client.lastId := by
  induction entries generalizing client with
  | nil => rfl
  | cons entry rest ih => exact (ih _).trans (lastId_settle client entry.1 outcome)

@[simp]
theorem name_settleAll : (client.settleAll outcome).name = client.name :=
  name_settleEach client outcome client.pending

@[simp]
theorem lastId_settleAll : (client.settleAll outcome).lastId = client.lastId :=
  lastId_settleEach client outcome client.pending

/-- No request waits any more. -/
theorem pending_settleAll : Assoc.get? other (client.settleAll outcome).pending = none := by
  refine (pending_settleEach client other outcome client.pending).trans ?_
  split
  next => rfl
  next h => exact Assoc.get?_eq_none_of_not_mem h

/-- The requests that waited end with the outcome. -/
theorem ended_settleAll :
    Assoc.get? other (client.settleAll outcome).ended =
      if Assoc.has other client.pending then some outcome else Assoc.get? other client.ended := by
  refine (ended_settleEach client other outcome client.pending).trans ?_
  simp only [← Assoc.has_iff_mem_keys, and_self]

end Lookup

end JuliaSession.Client
