import JuliaSession.Registry
import JuliaSession.Proofs.Step

/-!
# What the registry's operations do

One statement for each operation of the registry: what it leaves in the table of clients and among
the disposables. Starting and stopping a client and writing a record do not touch the registry
(`SameRegistry`), so each operation is described by its own changes alone.

* `register_cases`: the four ways a registration can end.
* `dispose_disarmed`, `dispose_armed`: a handle that was disposed does nothing, any other gives up
  its teardown and carries it out.
* `unregister_vacant`, `unregister_occupied`: nothing happens under an id that nobody has; the
  client that has it is taken out and stopped.
* `Vacates`: whatever is disposed, a place in the registry that nobody has stays vacant, and the
  subscriptions stay the same unless the extension is torn down.
* `get?_disposeAll`, `get?_dispose`: disposing all clients vacates the place of the only one, and
  disposing a handle that of its id, however stopping the client ends.
-/

namespace JuliaSession

variable {σ α : Type}

/-- Two stages with the same registry. -/
def SameRegistry (before after : Stage σ) : Prop := after.registry = before.registry

instance : Std.Refl (SameRegistry (σ := σ)) := ⟨fun _ => rfl⟩

instance : Trans (SameRegistry (σ := σ)) SameRegistry SameRegistry :=
  ⟨fun h h' => Eq.trans h' h⟩

/-- A step on the world does not touch the registry. -/
theorem Stage.sameRegistry_act (step : Act α) : Step.Leads SameRegistry (Stage.act (σ := σ) step) :=
  fun _ => rfl

/-- A step on the clients does not touch the registry. -/
theorem Stage.sameRegistry_withClients (step : Step (World × σ) α) :
    Step.Leads SameRegistry (Stage.withClients step) := fun _ => rfl

/-- A step on the world does not touch what is known of the clients. -/
@[simp]
theorem Stage.clients_act (step : Act α) (stage : Stage σ) :
    ((Stage.act step).perform stage).2.clients = stage.clients := rfl

@[simp]
theorem Stage.perform_modifyRegistry (change : Registry → Registry) (stage : Stage σ) :
    (Stage.modifyRegistry change).perform stage =
      (.ok (), { stage with registry := change stage.registry }) := rfl

@[simp]
theorem Stage.perform_modifyRegistry_bind (change : Registry → Registry)
    (next : Unit → Step (Stage σ) α) (stage : Stage σ) :
    (Stage.modifyRegistry change >>= next).perform stage =
      (next ()).perform { stage with registry := change stage.registry } :=
  Step.perform_bind_ok (Stage.perform_modifyRegistry change stage)

namespace Registry

variable {kind : ClientKind σ} {stage : Stage σ}

/-! ### The table of clients and the disposables -/

@[simp]
theorem get?_leave (registry : Registry) (id other : String) :
    (registry.leave id).get? other = if other = id then none else registry.get? other :=
  Assoc.get?_erase _ _ _

@[simp]
theorem get?_enter (registry : Registry) (id other : String) (client : Nat) :
    (registry.enter id client).get? other =
      if other = id then some client else registry.get? other :=
  Assoc.get?_insert _ _ _ _

@[simp]
theorem get?_disarm (registry : Registry) (handle : Nat) (id : String) :
    (registry.disarm handle).get? id = registry.get? id := rfl

@[simp]
theorem get?_handOut (registry : Registry) (teardown : Teardown) (id : String) :
    (registry.handOut teardown).2.get? id = registry.get? id := rfl

@[simp]
theorem disposables_leave (registry : Registry) (id : String) :
    (registry.leave id).disposables = registry.disposables := rfl

@[simp]
theorem disposables_enter (registry : Registry) (id : String) (client : Nat) :
    (registry.enter id client).disposables = registry.disposables := rfl

@[simp]
theorem isDisposed_leave (registry : Registry) (id : String) (handle : Nat) :
    (registry.leave id).isDisposed handle = registry.isDisposed handle := rfl

@[simp]
theorem isDisposed_enter (registry : Registry) (id : String) (client handle : Nat) :
    (registry.enter id client).isDisposed handle = registry.isDisposed handle := rfl

/-- A handle is not disposed exactly if it has a teardown. -/
theorem isDisposed_eq_false_iff {registry : Registry} {handle : Nat} :
    registry.isDisposed handle = false ↔
      ∃ teardown, registry.disposables[handle]? = some (some teardown) := by
  unfold isDisposed
  split
  next teardown h => simp [h]
  next h => simpa using h

/-- A disposable that is handed out has the first number that is free. -/
theorem getElem?_handOut (registry : Registry) (teardown : Teardown) (handle : Nat) :
    (registry.handOut teardown).2.disposables[handle]? =
      if handle = registry.disposables.length then some (some teardown)
      else registry.disposables[handle]? := by
  unfold handOut
  split
  next h =>
    rw [h]
    exact List.getElem?_concat_length
  next h =>
    by_cases hlt : handle < registry.disposables.length
    · exact List.getElem?_append_left hlt
    · rw [List.getElem?_eq_none (Nat.le_of_not_lt hlt), List.getElem?_eq_none]
      rw [List.length_append]
      exact Nat.lt_of_le_of_ne (Nat.le_of_not_lt hlt) (Ne.symm h)

theorem isDisposed_handOut (registry : Registry) (teardown : Teardown) (handle : Nat) :
    (registry.handOut teardown).2.isDisposed handle =
      if handle = registry.disposables.length then false else registry.isDisposed handle := by
  unfold isDisposed
  rw [getElem?_handOut]
  by_cases h : handle = registry.disposables.length
  · rw [if_pos h, if_pos h]
  · rw [if_neg h, if_neg h]

/-- Disposing a handle changes no other disposable. -/
theorem getElem?_disarm (registry : Registry) (handle other : Nat) :
    (registry.disarm handle).disposables[other]? =
      if handle = other then registry.disposables[other]?.map fun _ => none
      else registry.disposables[other]? := by
  unfold disarm
  rw [List.getElem?_set']
  split <;> rfl

theorem isDisposed_disarm (registry : Registry) (handle other : Nat) :
    (registry.disarm handle).isDisposed other =
      if handle = other then true else registry.isDisposed other := by
  unfold isDisposed
  rw [getElem?_disarm]
  by_cases h : handle = other
  · rw [if_pos h, if_pos h]
    cases registry.disposables[other]? <;> rfl
  · rw [if_neg h, if_neg h]

/-! ### Operations -/

/-- Writing a record does not touch the registry. -/
theorem sameRegistry_note (level : Log.Level) (message id : String) :
    Step.Leads SameRegistry (note (σ := σ) level message id) :=
  Stage.sameRegistry_act _

/-- Writing a record does not touch what is known of the clients. -/
@[simp]
theorem clients_note (level : Log.Level) (message id : String) (stage : Stage σ) :
    ((note level message id).perform stage).2.clients = stage.clients := rfl

/-- A client whose id is taken is refused. -/
theorem register_taken {client : Nat}
    (h : (stage.registry.get? (kind.id stage.clients client)).isSome) :
    ∃ failure, (register kind client).perform stage = (.error failure, stage) := by
  unfold register
  rw [Step.perform_get_bind, Step.perform_get_bind, if_pos h]
  exact ⟨_, rfl⟩

/-- A client whose id is free takes it before it is started. -/
theorem register_free {client : Nat}
    (h : stage.registry.get? (kind.id stage.clients client) = none) :
    let id := kind.id stage.clients client
    (register kind client).perform stage =
      ((Stage.withClients (kind.start client)).attempt >>= fun
        | .error failure => do
          Stage.modifyRegistry fun registry => registry.leave id
          throw failure
        | .ok () => do
          note .info "registered language client" id
          let (handle, registry) := (← get).registry.handOut (.unregister id)
          Stage.modifyRegistry fun _ => registry
          return handle).perform
        { stage with registry := stage.registry.enter id client } := by
  intro id
  unfold register
  rw [Step.perform_get_bind, Step.perform_get_bind, if_neg (by rw [h]; exact Bool.false_ne_true)]
  rfl

/-- The four ways a registration ends: the id is taken, the client does not start, the record of it
cannot be written, or a new disposable is handed out. -/
theorem register_cases {client : Nat} {result : Except Failure Nat} {after : Stage σ}
    (h : (register kind client).perform stage = (result, after)) :
    let id := kind.id stage.clients client
    let registry := stage.registry
    (∃ failure, result = .error failure) ∧ after.registry = registry ∨
      registry.get? id = none ∧
        ((∃ failure, result = .error failure) ∧
            after.registry = (registry.enter id client).leave id ∨
          (∃ failure, result = .error failure) ∧ after.registry = registry.enter id client ∨
          result = .ok registry.disposables.length ∧
            after.registry = ((registry.enter id client).handOut (.unregister id)).2) := by
  intro id registry
  by_cases htaken : (registry.get? id).isSome
  · left
    obtain ⟨failure, hrefused⟩ := register_taken htaken
    rw [hrefused] at h
    cases h
    exact ⟨⟨failure, rfl⟩, rfl⟩
  have hfree : registry.get? id = none := Option.not_isSome_iff_eq_none.1 htaken
  refine .inr ⟨hfree, ?_⟩
  rw [register_free hfree, Step.perform_bind_ok (Step.perform_attempt _ _)] at h
  have hstart := Stage.sameRegistry_withClients (kind.start client)
    { stage with registry := registry.enter id client }
  revert h hstart
  rcases (Stage.withClients (kind.start client)).perform
    { stage with registry := registry.enter id client } with ⟨failure | _, started⟩
  · intro h hstart
    cases h
    exact .inl ⟨⟨failure, rfl⟩, congrArg (fun r => Registry.leave r id) hstart⟩
  intro h hstart
  right
  -- the last thing that can fail is writing the record
  have hnote := sameRegistry_note .info "registered language client" id started
  rw [Step.perform_bind] at h
  revert h hnote
  rcases (note .info "registered language client" id).perform started with
    ⟨failure | _, noted⟩
  · intro h hnote
    cases h
    exact .inl ⟨⟨failure, rfl⟩, hnote.trans hstart⟩
  · intro h hnote
    right
    have hregistry : noted.registry = registry.enter id client := hnote.trans hstart
    have hcount : noted.registry.disposables.length = registry.disposables.length := by
      rw [hregistry, disposables_enter]
    cases h
    exact ⟨congrArg Except.ok hcount,
      congrArg (fun r => (Registry.handOut r (.unregister id)).2) hregistry⟩

/-- A registration that ends well finds the id free, enters the client and hands a disposable
out. -/
theorem register_ok {client handle : Nat} {after : Stage σ}
    (h : (register kind client).perform stage = (.ok handle, after)) :
    let id := kind.id stage.clients client
    stage.registry.get? id = none ∧ handle = stage.registry.disposables.length ∧
      after.registry = (stage.registry.handOut (.unregister id)).2.enter id client := by
  rcases register_cases h with ⟨⟨_, h⟩, -⟩ | ⟨hfree, ⟨⟨_, h⟩, -⟩ | ⟨⟨_, h⟩, -⟩ | ⟨h, hafter⟩⟩
  · cases h
  · cases h
  · cases h
  · cases h
    exact ⟨hfree, rfl, hafter⟩

/-- A registration that fails hands nothing out, and whoever was registered still is. -/
theorem register_error {client : Nat} {failure : Failure} {after : Stage σ}
    (h : (register kind client).perform stage = (.error failure, after)) :
    after.registry.disposables = stage.registry.disposables ∧
      ∀ {id resident}, stage.registry.get? id = some resident →
        after.registry.get? id = some resident := by
  -- the client's id was free, so it is not the id of anybody who was registered
  have hother : ∀ {id resident}, stage.registry.get? (kind.id stage.clients client) = none →
      stage.registry.get? id = some resident → id ≠ kind.id stage.clients client := by
    rintro id resident hfree hresident rfl
    rw [hfree] at hresident
    cases hresident
  rcases register_cases h with ⟨-, hafter⟩ | ⟨hfree, ⟨-, hafter⟩ | ⟨-, hafter⟩ | ⟨h, -⟩⟩
  · rw [hafter]
    exact ⟨rfl, id⟩
  · rw [hafter]
    refine ⟨rfl, fun hresident => ?_⟩
    have hne := hother hfree hresident
    rw [get?_leave, if_neg hne, get?_enter, if_neg hne, hresident]
  · rw [hafter]
    refine ⟨rfl, fun hresident => ?_⟩
    rw [get?_enter, if_neg (hother hfree hresident), hresident]
  · cases h

/-- A handle that was disposed does nothing. -/
theorem dispose_disarmed (kind : ClientKind σ) {handle : Nat}
    (h : stage.registry.isDisposed handle = true) :
    (dispose kind handle).perform stage = (.ok (), stage) := by
  have hnone : ∀ teardown, stage.registry.disposables[handle]? ≠ some (some teardown) := by
    intro teardown hsome
    rw [isDisposed_eq_false_iff.2 ⟨teardown, hsome⟩] at h
    cases h
  unfold dispose
  rw [Step.perform_get_bind]
  split
  next teardown hsome => exact absurd hsome (hnone teardown)
  next => rfl

/-- A handle with a teardown gives it up and carries it out. -/
theorem dispose_armed {handle : Nat} {teardown : Teardown}
    (h : stage.registry.disposables[handle]? = some (some teardown)) :
    (dispose kind handle).perform stage =
      (tearDown kind teardown).perform
        { stage with registry := stage.registry.disarm handle } := by
  unfold dispose
  rw [Step.perform_get_bind, h]
  rfl

/-- Nothing happens under an id that nobody is registered under. -/
theorem unregister_vacant {id : String} (h : stage.registry.get? id = none) :
    (unregister kind id).perform stage = (.ok (), stage) := by
  unfold unregister
  rw [Step.perform_get_bind, h]
  rfl

/-- The client under an id leaves the registry before it is stopped. -/
theorem unregister_occupied {id : String} {client : Nat}
    (h : stage.registry.get? id = some client) :
    (unregister kind id).perform stage =
      (do
        Stage.withClients (kind.stop client)
        note .info "unregistered language client" id).perform
          { stage with registry := stage.registry.leave id } := by
  unfold unregister
  rw [Step.perform_get_bind, h]
  rfl

/-- What is left in the registry when the client under an id is taken out, also if it does not
stop. -/
theorem registry_unregister (kind : ClientKind σ) (id : String) (stage : Stage σ) :
    ((unregister kind id).perform stage).2.registry = stage.registry.leave id ∨
      stage.registry.get? id = none ∧
        ((unregister kind id).perform stage).2.registry = stage.registry := by
  cases h : stage.registry.get? id with
  | none => exact .inr ⟨rfl, by rw [unregister_vacant h]⟩
  | some client =>
    left
    rw [unregister_occupied h]
    exact ((Stage.sameRegistry_withClients _).bind fun _ => sameRegistry_note _ _ _)
      { stage with registry := stage.registry.leave id }

/-- Stopping a client leaves the registry as it is. -/
theorem sameRegistry_stop (kind : ClientKind σ) (id : String) :
    Step.Leads SameRegistry (stop kind id) := by
  refine .bind .get fun stage => ?_
  split
  · exact .pure _
  · exact Stage.sameRegistry_withClients _

/-- Stopping a client and starting it again leaves the registry as it is. -/
theorem sameRegistry_restart (kind : ClientKind σ) (id : String) :
    Step.Leads SameRegistry (restart kind id) := by
  refine .bind .get fun stage => ?_
  split
  · exact .pure _
  · exact .bind (sameRegistry_note _ _ _) fun _ =>
      .bind (Stage.sameRegistry_withClients _) fun _ => Stage.sameRegistry_withClients _

/-- What is left in the registry when a handle is disposed that has the teardown of a registered
client. -/
theorem registry_dispose_unregister (kind : ClientKind σ) {handle : Nat} {id : String}
    (h : stage.registry.disposables[handle]? = some (some (.unregister id))) :
    let registry := stage.registry.disarm handle
    ((dispose kind handle).perform stage).2.registry = registry.leave id ∨
      registry.get? id = none ∧ ((dispose kind handle).perform stage).2.registry = registry := by
  rw [dispose_armed h]
  exact registry_unregister kind id { stage with registry := stage.registry.disarm handle }

/-! ### Disposals -/

theorem leads_guarded {relation : Stage σ → Stage σ → Prop} [Std.Refl relation]
    [Trans relation relation relation] {step : Step (Stage σ) Unit}
    {report : Failure → Step (Stage σ) Unit} (h : Step.Leads relation step)
    (hreport : ∀ failure, Step.Leads relation (report failure)) :
    Step.Leads relation (guarded step report) := by
  refine .bind h.attempt fun result => ?_
  split
  · exact .pure _
  · split
    · exact .throw _
    · exact hreport _

/-- A relation that every part of a disposal respects: taking a client out, disarming a handle, and
whatever leaves the registry alone. -/
structure Clears (relation : Stage σ → Stage σ → Prop) : Prop where
  /-- What leaves the registry alone respects it. -/
  same : ∀ {before after}, SameRegistry before after → relation before after
  /-- Taking a client out respects it. -/
  leave : ∀ (stage : Stage σ) (id : String),
    relation stage { stage with registry := stage.registry.leave id }
  /-- Disarming a handle respects it. -/
  disarm : ∀ (stage : Stage σ) (handle : Nat),
    relation stage { stage with registry := stage.registry.disarm handle }

namespace Clears

variable {relation : Stage σ → Stage σ → Prop}

theorem sameRegistry (h : Clears relation) {step : Step (Stage σ) α}
    (hstep : Step.Leads SameRegistry step) : Step.Leads relation step := hstep.mono h.same

variable [htrans : Trans relation relation relation]

theorem unregister (h : Clears relation) (kind : ClientKind σ) (id : String) :
    Step.Leads relation (unregister kind id) := by
  intro stage
  cases hclient : stage.registry.get? id with
  | none =>
    rw [unregister_vacant hclient]
    exact h.same rfl
  | some client =>
    rw [unregister_occupied hclient]
    have hrest := (Stage.sameRegistry_withClients (kind.stop client)).bind fun _ =>
      sameRegistry_note .info "unregistered language client" id
    exact htrans.trans (h.leave stage id) (h.same (hrest _))

variable [Std.Refl relation]

theorem tearDown (h : Clears relation) (kind : ClientKind σ) (teardown : Teardown) :
    Step.Leads relation (tearDown kind teardown) := by
  cases teardown with
  | unregister id => exact h.unregister kind id
  | foreign name fault =>
    refine .bind (h.sameRegistry (Stage.sameRegistry_act _)) fun _ => ?_
    cases fault with
    | none => exact .pure _
    | some failure => exact .throw _

theorem dispose (h : Clears relation) (kind : ClientKind σ) (handle : Nat) :
    Step.Leads relation (dispose kind handle) := by
  refine .bind .get fun stage => ?_
  split
  · exact .bind (.modify fun stage => h.disarm stage handle) fun _ => h.tearDown kind _
  · exact .pure _

theorem unregisterEach (h : Clears relation) (kind : ClientKind σ) (ids : List String) :
    Step.Leads relation (unregisterEach kind ids) := by
  induction ids with
  | nil => exact .pure _
  | cons id rest ih =>
    refine .bind (leads_guarded (h.unregister kind id) fun failure => ?_) fun _ => ih
    exact h.sameRegistry (Stage.sameRegistry_act _)

theorem disposeAll (h : Clears relation) (kind : ClientKind σ) :
    Step.Leads relation (disposeAll kind) :=
  .bind .get fun _ => h.unregisterEach kind _

end Clears

/-! ### Disposables -/

/-- From one stage to the other disposables are disposed; none is handed out, armed again or
exchanged. -/
structure Disposes (before after : Stage σ) : Prop where
  /-- No disposable is handed out. -/
  length : after.registry.disposables.length = before.registry.disposables.length
  /-- Each disposable is as it was, or disposed. -/
  kept : ∀ {handle : Nat} {entry : Option Teardown},
    before.registry.disposables[handle]? = some entry →
      after.registry.disposables[handle]? = some entry ∨
        after.registry.disposables[handle]? = some none

instance : Std.Refl (Disposes (σ := σ)) := ⟨fun _ => ⟨rfl, .inl⟩⟩

instance : Trans (Disposes (σ := σ)) Disposes Disposes where
  trans h h' := by
    refine ⟨h'.length.trans h.length, fun hentry => ?_⟩
    rcases h.kept hentry with hkept | hdisposed
    · exact h'.kept hkept
    · exact .inr ((h'.kept hdisposed).elim id id)

/-- A registry with the same disposables. -/
theorem disposes_of_disposables_eq {before after : Stage σ} {registry : Registry}
    (h : after.registry = registry) (hsame : registry.disposables = before.registry.disposables) :
    Disposes before after := by
  have hdisposables := (congrArg Registry.disposables h).trans hsame
  exact ⟨by rw [hdisposables], fun hentry => .inl (by rw [hdisposables, hentry])⟩

theorem disposes_of_sameRegistry {step : Step (Stage σ) α}
    (h : Step.Leads SameRegistry step) : Step.Leads Disposes step :=
  h.mono fun hsame => disposes_of_disposables_eq hsame rfl

theorem disposes_disarm (stage : Stage σ) (handle : Nat) :
    Disposes stage { stage with registry := stage.registry.disarm handle } := by
  refine ⟨List.length_set, fun {other entry} hentry => ?_⟩
  simp only [getElem?_disarm, hentry]
  split
  · exact .inr rfl
  · exact .inl rfl

theorem clears_disposes : Clears (Disposes (σ := σ)) where
  same h := disposes_of_disposables_eq h rfl
  leave _ _ := disposes_of_disposables_eq rfl rfl
  disarm := disposes_disarm

theorem disposes_dispose (kind : ClientKind σ) (handle : Nat) :
    Step.Leads Disposes (dispose kind handle) := clears_disposes.dispose kind handle

theorem disposes_disposeAll (kind : ClientKind σ) :
    Step.Leads Disposes (disposeAll kind) := clears_disposes.disposeAll kind

/-! ### Places that stay vacant -/

/-- From one stage to the other nobody takes a place in the registry, and the subscriptions stay the
same. -/
structure Vacates (before after : Stage σ) : Prop where
  /-- A vacant place stays vacant. -/
  vacant : ∀ {id}, before.registry.get? id = none → after.registry.get? id = none
  /-- The subscriptions are the same. -/
  subscriptions : after.registry.subscriptions = before.registry.subscriptions

instance : Std.Refl (Vacates (σ := σ)) := ⟨fun _ => ⟨id, rfl⟩⟩

instance : Trans (Vacates (σ := σ)) Vacates Vacates where
  trans h h' := ⟨fun hnone => h'.vacant (h.vacant hnone), h'.subscriptions.trans h.subscriptions⟩

theorem SameRegistry.vacates {before after : Stage σ} (h : SameRegistry before after) :
    Vacates before after :=
  ⟨fun hnone => by rw [h, hnone], by rw [h]⟩

theorem clears_vacates : Clears (Vacates (σ := σ)) where
  same := SameRegistry.vacates
  leave stage id := by
    refine ⟨fun {other} hnone => ?_, rfl⟩
    rw [get?_leave, hnone, ite_self]
  disarm _ _ := ⟨id, rfl⟩

/-- A report that leaves the registry alone hides nothing of what a guarded step does to it. -/
theorem registry_guarded {step : Step (Stage σ) Unit} {report : Failure → Step (Stage σ) Unit}
    (hreport : ∀ failure, Step.Leads SameRegistry (report failure)) (stage : Stage σ) :
    ((guarded step report).perform stage).2.registry = (step.perform stage).2.registry := by
  unfold guarded
  rw [Step.perform_bind_ok (Step.perform_attempt _ _)]
  cases (step.perform stage).1 with
  | ok _ => rfl
  | error failure =>
    dsimp only
    split
    · rfl
    · exact hreport failure _

/-- Taking the client with an id out vacates its place, also if it does not stop. -/
theorem get?_unregister (kind : ClientKind σ) (id : String) (stage : Stage σ) :
    ((unregister kind id).perform stage).2.registry.get? id = none := by
  rcases registry_unregister kind id stage with hleft | ⟨hnone, hsame⟩
  · rw [hleft, get?_leave, if_pos rfl]
  · rw [hsame, hnone]

/-- Disposing a handle vacates the place of its id. -/
theorem get?_dispose (kind : ClientKind σ) {stage : Stage σ} {handle : Nat} {id : String}
    (h : stage.registry.disposables[handle]? = some (some (.unregister id))) :
    ((dispose kind handle).perform stage).2.registry.get? id = none := by
  rw [dispose_armed h]
  exact get?_unregister kind id _

/-- The ids of the registry are those of the places that somebody has. -/
theorem mem_ids_iff {registry : Registry} {id : String} :
    id ∈ registry.ids ↔ registry.get? id ≠ none :=
  Assoc.has_iff_mem_keys.symm.trans Option.isSome_iff_ne_none

/-- The first of some clients is taken out whatever becomes of the others. -/
theorem get?_unregisterEach (kind : ClientKind σ) (id : String) (rest : List String)
    (stage : Stage σ) :
    ((unregisterEach kind (id :: rest)).perform stage).2.registry.get? id = none := by
  unfold unregisterEach
  have hreport : ∀ failure : Failure, Step.Leads (SameRegistry (σ := σ))
      (Stage.act (Act.log "host.context" .error "failed to stop language client"
        [("client_id", Log.text id), ("error", Log.text failure.message)])) :=
    fun _ => Stage.sameRegistry_act _
  have hfirst := @registry_guarded σ (unregister kind id) _ hreport stage
  rw [Step.perform_bind]
  cases hguarded : (guarded (unregister kind id) _).perform stage with
  | mk outcome taken =>
    rw [hguarded] at hfirst
    have hvacant : taken.registry.get? id = none := by rw [hfirst, get?_unregister]
    cases outcome with
    | error failure => exact hvacant
    | ok => exact (clears_vacates.unregisterEach kind rest taken).vacant hvacant

/-- Disposing all clients vacates the place of the only one. -/
theorem get?_disposeAll (kind : ClientKind σ) {id : String} {stage : Stage σ}
    (halone : ∀ {other}, other ≠ id → stage.registry.get? other = none) :
    ((disposeAll kind).perform stage).2.registry.get? id = none := by
  unfold disposeAll
  rw [Step.perform_get_bind]
  -- either nobody is registered, or only the one client whose place is asked about
  cases hids : stage.registry.ids with
  | nil =>
    by_cases hnone : stage.registry.get? id = none
    · exact hnone
    · have hmem := mem_ids_iff.2 hnone
      rw [hids] at hmem
      cases hmem
  | cons first rest =>
    have hfirst : first = id := by
      by_cases heq : first = id
      · exact heq
      · exact absurd (halone heq) (mem_ids_iff.1 (by rw [hids]; exact List.mem_cons_self))
    rw [hfirst]
    exact get?_unregisterEach kind id rest stage

/-! ### Tearing the extension down -/

/-- Nothing is torn down without subscriptions. -/
theorem disposeSubscriptions_nil (kind : ClientKind σ) {stage : Stage σ}
    (h : stage.registry.subscriptions = []) :
    (disposeSubscriptions kind).perform stage = (.ok (), stage) := by
  unfold disposeSubscriptions
  rw [Step.perform_get_bind, h]
  rfl

/-- The only subscription is disposed when the extension is torn down. -/
theorem disposeSubscriptions_singleton (kind : ClientKind σ) {stage : Stage σ} {handle : Nat}
    (h : stage.registry.subscriptions = [handle]) :
    (disposeSubscriptions kind).perform stage =
      (guarded (dispose kind handle) fun failure =>
        Stage.act (Act.log "host.context" .error "failed to dispose subscription"
          [("error", Log.text failure.message)])).perform
            { stage with registry := { stage.registry with subscriptions := [] } } := by
  unfold disposeSubscriptions
  rw [Step.perform_get_bind, h]
  simp only [List.length_cons, List.length_nil, disposeLast]
  rw [Step.perform_get_bind, h]
  simp only [List.getLast?_singleton, Stage.perform_modifyRegistry_bind, h,
    List.dropLast_singleton, bind_pure_unit]

/-- Tearing down the only subscription leaves what disposing it leaves. -/
theorem registry_disposeSubscriptions_singleton (kind : ClientKind σ) {stage : Stage σ}
    {handle : Nat} (h : stage.registry.subscriptions = [handle]) :
    ((disposeSubscriptions kind).perform stage).2.registry =
      ((dispose kind handle).perform
        { stage with registry := { stage.registry with subscriptions := [] } }).2.registry := by
  have hreport : ∀ failure : Failure, Step.Leads (SameRegistry (σ := σ))
      (Stage.act (Act.log "host.context" .error "failed to dispose subscription"
        [("error", Log.text failure.message)])) :=
    fun _ => Stage.sameRegistry_act _
  rw [disposeSubscriptions_singleton kind h]
  exact registry_guarded hreport _

/-- Tearing down at most one subscription leaves none, and vacant places vacant. -/
theorem disposeSubscriptions_vacates (kind : ClientKind σ) {stage : Stage σ}
    (h : stage.registry.subscriptions.length ≤ 1) :
    Vacates { stage with registry := { stage.registry with subscriptions := [] } }
      ((disposeSubscriptions kind).perform stage).2 := by
  match hlist : stage.registry.subscriptions, h with
  | [], _ =>
    rw [disposeSubscriptions_nil kind hlist]
    exact ⟨fun hnone => hnone, hlist⟩
  | [handle], _ =>
    have hregistry := registry_disposeSubscriptions_singleton kind hlist
    have hvacates := clears_vacates.dispose kind handle
      { stage with registry := { stage.registry with subscriptions := [] } }
    exact ⟨fun hnone => by rw [hregistry, hvacates.vacant hnone],
      by rw [hregistry, hvacates.subscriptions]⟩

end Registry

end JuliaSession
