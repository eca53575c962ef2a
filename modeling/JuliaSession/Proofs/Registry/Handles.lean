import JuliaSession.Proofs.Registry.Basic

/-!
# Whose client a handle disposes

A registration hands out a handle for the client that was registered. The teardown behind the handle
holds the client's id, not the client, and a handle can outlive its client: the client is taken out
with all others, and the id goes to another one.

* `History`: the registry's operations one after the other, the calls to the clients logged, and
  for every handle the client it was handed out for.
* `Disturbs`: a client is stopped or loses its place in the registry.
* `dispose_disturbs_iff`: disposing a handle disturbs the client that has the id by then, whoever
  that is. It is the handle's own client as long as the clients were not disposed all at once.
-/

namespace JuliaSession.Registry

variable {σ : Type}

/-! ### Clients that log their calls -/

/-- What a client is asked to do. -/
inductive Call where
  /-- The client is started. -/
  | start (client : Nat)
  /-- The client is stopped. -/
  | stop (client : Nat)
  deriving DecidableEq

/-- A step on the world and the clients of clients that log their calls. -/
def behind (step : Step (World × σ) Unit) : Step (World × σ × List Call) Unit :=
  step.onPart (fun (world, clients, _) => (world, clients))
    fun (_, _, calls) (world, clients) => (world, clients, calls)

/-- Add a call to the log, before the client is called. -/
def logCall (call : Call) : Step (World × σ × List Call) Unit :=
  modify fun (world, clients, calls) => (world, clients, calls ++ [call])

/-- The same clients, with a log of the calls to them. -/
def logged (kind : ClientKind σ) : ClientKind (σ × List Call) where
  id clients client := kind.id clients.1 client
  start client := do
    logCall (.start client)
    behind (kind.start client)
  stop client := do
    logCall (.stop client)
    behind (kind.stop client)

/-- A client that is stopped logs that, also if it does not stop. -/
theorem calls_stop (kind : ClientKind σ) (client : Nat) (stage : Stage (σ × List Call)) :
    ((Stage.withClients ((logged kind).stop client)).perform stage).2.clients.2 =
      stage.clients.2 ++ [.stop client] := rfl

/-! ### Histories -/

/-- What can be done with the registry and the handles. -/
inductive Operation where
  /-- Register a client. -/
  | register (client : Nat)
  /-- Stop the client with an id. -/
  | stop (id : String)
  /-- Stop the client with an id and start it again. -/
  | restart (id : String)
  /-- Take out and stop every client. -/
  | disposeAll
  /-- Dispose a handle. -/
  | dispose (handle : Nat)
  deriving DecidableEq

/-- The client a handle was handed out for, and its id. -/
structure Owner where
  /-- The client. -/
  client : Nat
  /-- Its id when it was registered. -/
  id : String
  deriving DecidableEq

/-- The host after some operations, and whom the handles were handed out for. -/
structure History (σ : Type) where
  /-- The host and its clients. -/
  stage : Stage (σ × List Call)
  /-- The owners of the handles. -/
  owners : Assoc Nat Owner := []

namespace History

/-- The host before the first operation. -/
def fresh (world : World) (clients : σ) : History σ where
  stage := { world, clients := (clients, []) }

/-- The owner of a handle, if the handle was handed out. -/
def owner? (history : History σ) (handle : Nat) : Option Owner := Assoc.get? handle history.owners

/-- The history with one more registration, which may have failed. -/
def enrol (kind : ClientKind σ) (history : History σ) (client : Nat) : History σ :=
  match (register (logged kind) client).perform history.stage with
  | (.ok handle, stage) =>
    let owner := ⟨client, (logged kind).id history.stage.clients client⟩
    { stage, owners := Assoc.insert handle owner history.owners }
  | (.error _, stage) => { history with stage }

/-- The history with one more operation, which may have failed. -/
def after (kind : ClientKind σ) (history : History σ) : Operation → History σ
  | .register client => history.enrol kind client
  | .stop id => { history with stage := ((stop (logged kind) id).perform history.stage).2 }
  | .restart id => { history with stage := ((restart (logged kind) id).perform history.stage).2 }
  | .disposeAll => { history with stage := ((disposeAll (logged kind)).perform history.stage).2 }
  | .dispose handle =>
    { history with stage := ((dispose (logged kind) handle).perform history.stage).2 }

/-- The history with some more operations. -/
def run (kind : ClientKind σ) (history : History σ) (operations : List Operation) : History σ :=
  operations.foldl (after kind) history

/-! ### Handles and their teardowns -/

/-- The handles are those that were handed out, and each one that was not disposed yet takes out
the client with its owner's id. -/
structure Sound (history : History σ) : Prop where
  /-- A handle that was handed out is a disposable. -/
  issued : ∀ {handle owner}, history.owner? handle = some owner →
    ∃ entry, history.stage.registry.disposables[handle]? = some entry
  /-- A disposable was handed out for a client, and its teardown is for that client's id. -/
  owned : ∀ {handle entry}, history.stage.registry.disposables[handle]? = some entry →
    ∃ owner, history.owner? handle = some owner ∧
      (entry = none ∨ entry = some (.unregister owner.id))

theorem sound_fresh (world : World) (clients : σ) : Sound (fresh world clients) where
  issued h := by cases h
  owned h := by cases h

/-- An operation that hands nothing out keeps what is known of the handles. -/
theorem Sound.of_disposes {history : History σ} {stage : Stage (σ × List Call)}
    (h : Sound history) (hstep : Disposes history.stage stage) : Sound { history with stage } where
  issued howner := by
    obtain ⟨entry, hentry⟩ := h.issued howner
    rcases hstep.kept hentry with hkept | hdisposed
    · exact ⟨entry, hkept⟩
    · exact ⟨none, hdisposed⟩
  owned {handle entry} hentry := by
    have hlt : handle < history.stage.registry.disposables.length := by
      rw [← hstep.length]
      exact (List.getElem?_eq_some_iff.1 hentry).1
    obtain ⟨owner, howner, hteardown⟩ := h.owned (List.getElem?_eq_getElem hlt)
    refine ⟨owner, howner, ?_⟩
    rcases hstep.kept (List.getElem?_eq_getElem hlt) with hkept | hdisposed
    · rw [hkept] at hentry
      cases hentry
      exact hteardown
    · rw [hdisposed] at hentry
      cases hentry
      exact .inl rfl

theorem enrol_ok {kind : ClientKind σ} {history : History σ} {client handle : Nat}
    {stage : Stage (σ × List Call)}
    (h : (register (logged kind) client).perform history.stage = (.ok handle, stage)) :
    let owner := ⟨client, (logged kind).id history.stage.clients client⟩
    history.enrol kind client = { stage, owners := Assoc.insert handle owner history.owners } := by
  unfold enrol
  rw [h]

theorem enrol_error {kind : ClientKind σ} {history : History σ} {client : Nat} {failure : Failure}
    {stage : Stage (σ × List Call)}
    (h : (register (logged kind) client).perform history.stage = (.error failure, stage)) :
    history.enrol kind client = { history with stage } := by
  unfold enrol
  rw [h]

/-- A registration keeps the handles sound: a new handle has the teardown for its owner's id. -/
theorem Sound.enrol {history : History σ} (h : Sound history) (kind : ClientKind σ)
    (client : Nat) : Sound (history.enrol kind client) := by
  cases hregister : (register (logged kind) client).perform history.stage with
  | mk result stage =>
    cases result with
    | error failure =>
      rw [enrol_error hregister]
      exact h.of_disposes (disposes_of_disposables_eq rfl (register_error hregister).1)
    | ok handle =>
      rw [enrol_ok hregister]
      -- the new handle is the next number; any other handle is as it was
      obtain ⟨-, rfl, hregistry⟩ := register_ok hregister
      constructor
      · intro other owner howner
        rw [owner?, Assoc.get?_insert] at howner
        rw [hregistry, disposables_enter, getElem?_handOut]
        split
        next => exact ⟨_, rfl⟩
        next hold =>
          rw [if_neg hold] at howner
          exact h.issued howner
      · intro other entry hentry
        rw [hregistry, disposables_enter, getElem?_handOut] at hentry
        rw [owner?, Assoc.get?_insert]
        by_cases hnew : other = history.stage.registry.disposables.length
        · rw [if_pos hnew] at hentry ⊢
          cases hentry
          exact ⟨_, rfl, .inr rfl⟩
        · rw [if_neg hnew] at hentry ⊢
          exact h.owned hentry

/-- Every operation keeps the handles sound. -/
theorem Sound.after {history : History σ} (h : Sound history) (kind : ClientKind σ)
    (operation : Operation) : Sound (history.after kind operation) := by
  cases operation with
  | register client => exact h.enrol kind client
  | stop id => exact h.of_disposes (disposes_of_sameRegistry (sameRegistry_stop _ id) _)
  | restart id => exact h.of_disposes (disposes_of_sameRegistry (sameRegistry_restart _ id) _)
  | disposeAll => exact h.of_disposes (disposes_disposeAll _ _)
  | dispose handle => exact h.of_disposes (disposes_dispose _ handle _)

/-- The handles are sound in every history. -/
theorem Sound.run {history : History σ} (h : Sound history) (kind : ClientKind σ)
    (operations : List Operation) : Sound (history.run kind operations) := by
  induction operations generalizing history with
  | nil => exact h
  | cons operation rest ih => exact ih (h.after kind operation)

/-! ### Handles whose clients are in place -/

/-- Every handle that was not disposed has its own client in the registry, and no other such handle
has the same id. -/
structure Attended (history : History σ) : Prop where
  /-- The client of a handle is registered. -/
  registered : ∀ {handle owner}, history.owner? handle = some owner →
    history.stage.registry.isDisposed handle = false →
      history.stage.registry.get? owner.id = some owner.client
  /-- Two handles are for two ids. -/
  apart : ∀ {handle other owner owner'}, history.owner? handle = some owner →
    history.owner? other = some owner' → history.stage.registry.isDisposed handle = false →
      history.stage.registry.isDisposed other = false → owner.id = owner'.id → handle = other

theorem attended_fresh (world : World) (clients : σ) : Attended (fresh world clients) where
  registered h := by cases h
  apart h := by cases h

theorem Attended.of_sameRegistry {history : History σ} {stage : Stage (σ × List Call)}
    (h : Attended history) (hsame : SameRegistry history.stage stage) :
    Attended { history with stage } where
  registered howner hopen := by
    rw [hsame] at hopen ⊢
    exact h.registered howner hopen
  apart howner howner' hopen hopen' := by
    rw [hsame] at hopen hopen'
    exact h.apart howner howner' hopen hopen'

/-- A client that is refused takes no handle away from its client. -/
theorem Attended.refuse {history : History σ} (h : Attended history) {kind : ClientKind σ}
    {client : Nat} {failure : Failure} {stage : Stage (σ × List Call)}
    (hregister : (register (logged kind) client).perform history.stage =
      (.error failure, stage)) : Attended { history with stage } := by
  obtain ⟨hdisposables, hresidents⟩ := register_error hregister
  have hopen : ∀ {handle}, stage.registry.isDisposed handle = false →
      history.stage.registry.isDisposed handle = false := by
    intro handle hopen
    rw [isDisposed, hdisposables] at hopen
    exact hopen
  exact
    { registered := fun howner hstill => hresidents (h.registered howner (hopen hstill))
      apart := fun howner howner' hstill hstill' =>
        h.apart howner howner' (hopen hstill) (hopen hstill') }

/-- A registration leaves every handle with its client: a new client's id was free, so no handle
that was not disposed has it. -/
theorem Attended.enrol {history : History σ} (h : Attended history)
    (kind : ClientKind σ) (client : Nat) : Attended (history.enrol kind client) := by
  cases hregister : (register (logged kind) client).perform history.stage with
  | mk result stage =>
    cases result with
    | error failure =>
      rw [enrol_error hregister]
      exact h.refuse hregister
    | ok handle =>
      rw [enrol_ok hregister]
      obtain ⟨hfree, rfl, hregistry⟩ := register_ok hregister
      -- the id was free, so no open handle has it
      have hne : ∀ {other owner}, history.owner? other = some owner →
          history.stage.registry.isDisposed other = false →
            owner.id ≠ (logged kind).id history.stage.clients client := by
        intro other owner howner hopen hid
        have hresident := h.registered howner hopen
        rw [hid] at hresident
        exact absurd (hfree.symm.trans hresident) (by simp)
      constructor
      · intro other owner howner hopen
        rw [owner?, Assoc.get?_insert] at howner
        rw [hregistry, isDisposed_enter, isDisposed_handOut] at hopen
        rw [hregistry, get?_enter, get?_handOut]
        by_cases hnew : other = history.stage.registry.disposables.length
        · rw [if_pos hnew] at howner
          cases howner
          exact if_pos rfl
        · rw [if_neg hnew] at howner hopen
          rw [if_neg (hne howner hopen)]
          exact h.registered howner hopen
      · intro first second owner owner' howner howner' hopen hopen' hid
        rw [owner?, Assoc.get?_insert] at howner howner'
        rw [hregistry, isDisposed_enter, isDisposed_handOut] at hopen hopen'
        by_cases hnew : first = history.stage.registry.disposables.length <;>
          by_cases hnew' : second = history.stage.registry.disposables.length
        · rw [hnew, hnew']
        · rw [if_pos hnew] at howner
          rw [if_neg hnew'] at howner' hopen'
          cases howner
          exact absurd hid.symm (hne howner' hopen')
        · rw [if_neg hnew] at howner hopen
          rw [if_pos hnew'] at howner'
          cases howner'
          exact absurd hid (hne howner hopen)
        · rw [if_neg hnew] at howner hopen
          rw [if_neg hnew'] at howner' hopen'
          exact h.apart howner howner' hopen hopen' hid

/-- When the client of a handle leaves together with the handle, every other handle keeps its
client: it has another id. -/
theorem Attended.of_leave {history : History σ} {stage : Stage (σ × List Call)} {handle : Nat}
    {owner : Owner} (h : Attended history) (howner : history.owner? handle = some owner)
    (hdisposed : history.stage.registry.isDisposed handle = false)
    (hstage : stage.registry = (history.stage.registry.disarm handle).leave owner.id ∨
      stage.registry = history.stage.registry.disarm handle) :
    Attended { history with stage } := by
  -- a handle that is not disposed afterwards was not before, and it is not the one at hand
  have hopen : ∀ {other}, stage.registry.isDisposed other = false →
      handle ≠ other ∧ history.stage.registry.isDisposed other = false := by
    intro other hstill
    have hdisarmed : (history.stage.registry.disarm handle).isDisposed other = false := by
      rcases hstage with hleft | hsame
      · rw [← hstill, hleft, isDisposed_leave]
      · rw [← hstill, hsame]
    rw [isDisposed_disarm] at hdisarmed
    split at hdisarmed
    next => cases hdisarmed
    next hne => exact ⟨hne, hdisarmed⟩
  constructor
  · intro other owner' howner' hstill
    obtain ⟨hne, hbefore⟩ := hopen hstill
    have hid : owner'.id ≠ owner.id := fun hid =>
      hne (h.apart howner howner' hdisposed hbefore hid.symm)
    rcases hstage with hleft | hsame
    · rw [hleft, get?_leave, if_neg hid]
      exact h.registered howner' hbefore
    · rw [hsame]
      exact h.registered howner' hbefore
  · intro first second owner' owner'' howner' howner'' hstill hstill' hid
    exact h.apart howner' howner'' (hopen hstill).2 (hopen hstill').2 hid

/-- A handle that is disposed takes out its own client only. -/
theorem Attended.dispose {history : History σ} (h : Attended history) (hsound : Sound history)
    (kind : ClientKind σ) (handle : Nat) : Attended (history.after kind (.dispose handle)) := by
  cases hdisposed : history.stage.registry.isDisposed handle with
  | true =>
    have hsame := congrArg Prod.snd (dispose_disarmed (logged kind) hdisposed)
    exact h.of_sameRegistry (congrArg Stage.registry hsame)
  | false =>
    obtain ⟨teardown, hteardown⟩ := isDisposed_eq_false_iff.1 hdisposed
    obtain ⟨owner, howner, hnone | hid⟩ := hsound.owned hteardown
    · cases hnone
    · cases hid
      exact h.of_leave howner hdisposed
        ((registry_dispose_unregister _ hteardown).imp_right And.right)

/-- As long as the clients are not disposed all at once, every handle that was not disposed has its
own client in the registry. -/
theorem Attended.run {history : History σ} (h : Attended history) (hsound : Sound history)
    (kind : ClientKind σ) {operations : List Operation} (hnever : .disposeAll ∉ operations) :
    Attended (history.run kind operations) := by
  induction operations generalizing history with
  | nil => exact h
  | cons operation rest ih =>
    obtain ⟨hfirst, hrest⟩ := not_or.1 (mt List.mem_cons.2 hnever)
    refine ih ?_ (hsound.after kind operation) hrest
    cases operation with
    | register client => exact h.enrol kind client
    | stop id => exact h.of_sameRegistry (sameRegistry_stop _ id _)
    | restart id => exact h.of_sameRegistry (sameRegistry_restart _ id _)
    | disposeAll => exact absurd rfl hfirst
    | dispose handle => exact h.dispose hsound kind handle

end History

/-! ### Disturbed clients -/

/-- From one stage to the other a client is stopped, or loses a place in the registry. -/
def Disturbs (client : Nat) (before after : Stage (σ × List Call)) : Prop :=
  .stop client ∈ after.clients.2.drop before.clients.2.length ∨
    ∃ id, before.registry.get? id = some client ∧ after.registry.get? id ≠ some client

theorem not_disturbs_self (client : Nat) (stage : Stage (σ × List Call)) :
    ¬ Disturbs client stage stage := by
  rintro (hstopped | ⟨id, hbefore, hafter⟩)
  · rw [List.drop_length] at hstopped
    cases hstopped
  · exact hafter hbefore

/-- The client that is taken out is asked to stop, once. -/
theorem calls_unregister (kind : ClientKind σ) {id : String} {stage : Stage (σ × List Call)}
    {resident : Nat} (h : stage.registry.get? id = some resident) :
    ((unregister (logged kind) id).perform stage).2.clients.2 =
      stage.clients.2 ++ [.stop resident] := by
  rw [unregister_occupied h, Step.perform_bind]
  have hcalls := calls_stop kind resident { stage with registry := stage.registry.leave id }
  revert hcalls
  rcases (Stage.withClients ((logged kind).stop resident)).perform
    { stage with registry := stage.registry.leave id } with ⟨_ | _, stopped⟩
  · intro hcalls
    exact hcalls
  · intro hcalls
    simp only [clients_note]
    exact hcalls

/-- Taking out the client with an id disturbs that client and nobody else. -/
theorem unregister_disturbs_iff (kind : ClientKind σ) (id : String)
    (stage : Stage (σ × List Call)) (client : Nat) :
    Disturbs client stage ((unregister (logged kind) id).perform stage).2 ↔
      stage.registry.get? id = some client := by
  cases hresident : stage.registry.get? id with
  | none =>
    rw [unregister_vacant hresident]
    exact ⟨fun h => absurd h (not_disturbs_self client stage), fun h => by cases h⟩
  | some resident =>
    have hcalls := calls_unregister kind hresident
    rw [Disturbs, hcalls, List.drop_left, List.mem_singleton]
    constructor
    -- the client was stopped, or it lost its place; there was but one client under this id
    · rintro (hstopped | ⟨other, hbefore, hafter⟩)
      · cases hstopped
        rfl
      · rcases registry_unregister (logged kind) id stage with hleft | ⟨-, hsame⟩
        · rw [hleft, get?_leave] at hafter
          split at hafter
          next hid =>
            rw [← hresident, ← hid]
            exact hbefore
          next => exact absurd hbefore hafter
        · rw [hsame] at hafter
          exact absurd hbefore hafter
    · intro h
      cases h
      exact .inl rfl

/-- Disposing a handle disturbs the client that has the id of the handle's owner by then, unless the
handle was disposed. -/
theorem dispose_disturbs {history : History σ} (hsound : history.Sound) (kind : ClientKind σ)
    {handle : Nat} {owner : Owner} (howner : history.owner? handle = some owner) (client : Nat) :
    Disturbs client history.stage ((dispose (logged kind) handle).perform history.stage).2 ↔
      history.stage.registry.isDisposed handle = false ∧
        history.stage.registry.get? owner.id = some client := by
  cases hdisposed : history.stage.registry.isDisposed handle with
  | true =>
    rw [dispose_disarmed _ hdisposed]
    exact ⟨fun h => absurd h (not_disturbs_self client _), fun h => by cases h.1⟩
  | false =>
    -- a handle that has an owner tears down the owner's id and nothing of the host
    obtain ⟨teardown, hteardown⟩ := isDisposed_eq_false_iff.1 hdisposed
    obtain ⟨owner', howner', hnone | hid⟩ := hsound.owned hteardown
    · cases hnone
    · cases hid
      cases howner.symm.trans howner'
      rw [dispose_armed hteardown, and_iff_right rfl]
      exact unregister_disturbs_iff kind owner.id
        { history.stage with registry := history.stage.registry.disarm handle } client

/-- Disposing a handle disturbs exactly the client that has the id of the handle's owner by then,
which need not be the owner. It is nobody else as long as the clients were not disposed all at
once. -/
theorem dispose_disturbs_iff (kind : ClientKind σ) (world : World) (clients : σ)
    (operations : List Operation) {handle : Nat} {owner : Owner}
    (howner : ((History.fresh world clients).run kind operations).owner? handle = some owner) :
    let stage := ((History.fresh world clients).run kind operations).stage
    let disposed := ((dispose (logged kind) handle).perform stage).2
    (∀ client, Disturbs client stage disposed ↔
        stage.registry.isDisposed handle = false ∧
          stage.registry.get? owner.id = some client) ∧
      (.disposeAll ∉ operations →
        ∀ client, Disturbs client stage disposed → client = owner.client) := by
  intro stage disposed
  have hsound := (History.sound_fresh world clients).run kind operations
  have hiff := dispose_disturbs hsound kind howner
  refine ⟨hiff, fun hnever client hdisturbs => ?_⟩
  -- without disposing all clients at once an open handle has its owner registered
  have hattended := (History.attended_fresh world clients).run
    (History.sound_fresh world clients) kind hnever
  obtain ⟨hopen, hresident⟩ := (hiff client).1 hdisturbs
  exact Option.some.inj (hresident.symm.trans (hattended.registered howner hopen))

/-- Clients that start and stop at once, all with one id. -/
def namesakes : ClientKind Unit where
  id _ _ := "julia"
  start _ := pure ()
  stop _ := pure ()

/-- A client is registered, all clients are disposed, and another client is registered under the
same id: disposing the first handle stops the second client and takes it out. -/
theorem dispose_disturbs_newcomer :
    let operations := [.register 0, .disposeAll, .register 1]
    let history := (History.fresh default ()).run namesakes operations
    history.owner? 0 = some ⟨0, "julia"⟩ ∧
      Disturbs 1 history.stage ((dispose (logged namesakes) 0).perform history.stage).2 := by
  intro operations history
  have howner : history.owner? 0 = some ⟨0, "julia"⟩ := by rfl
  refine ⟨howner, ?_⟩
  exact ((dispose_disturbs_iff namesakes default () operations howner).1 1).2 ⟨rfl, rfl⟩

end JuliaSession.Registry
