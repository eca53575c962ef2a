import Mathlib.Data.List.Induction
import JuliaSession.Proofs.Registry.Enrolment

/-!
# Operations that overlap

The registry waits for a client to start or to stop, and meanwhile other operations begin and end.
An operation is cut where it waits: what it does before, and what it does when the waiting ends,
well or not. Operations that overlap are these parts in any order.

* `Overlap`, `Move`: the registry with the operations that wait, and what can happen next.
* `register_alone`, `dispose_alone`, `disposeAll_alone`: an operation whose parts nothing comes
  between does what the operation of the registry does.
* `Stands`: a registration entered its client, who has had the id ever since.
* `finish_start_iff`: a registration whose client does not start takes out the client that has the
  id by then, and one whose client starts hands out a handle, whoever has the id by then.
-/

namespace JuliaSession.Registry

/-! ### Operations in parts -/

/-- What an operation waits for. -/
inductive Waiting where
  /-- A registration waits for its client to start. -/
  | start (id : String) (client : Nat)
  /-- A disposal waits for a client to stop that was taken out, before it goes on to other ids. -/
  | stop (client : Nat) (rest : List String)
  deriving DecidableEq, Repr

/-- The first part of a registration: the id is taken, unless somebody has it. -/
def beginStart (registry : Registry) (id : String) (client : Nat) : Registry × Option Waiting :=
  match registry.get? id with
  | some _ => (registry, none)
  | none => (registry.enter id client, some (.start id client))

/-- Take out the first client that there is under one of the ids, and wait for it to stop. -/
def beginStop (registry : Registry) : List String → Registry × Option Waiting
  | [] => (registry, none)
  | id :: rest =>
    match registry.get? id with
    | none => beginStop registry rest
    | some client => (registry.leave id, some (.stop client rest))

/-- The first part of a disposal: the teardown is taken out of the handle. -/
def beginDispose (registry : Registry) (handle : Nat) : Registry × Option Waiting :=
  match registry.disposables[handle]? with
  | some (some (.unregister id)) => beginStop (registry.disarm handle) [id]
  | some (some (.foreign ..)) => (registry.disarm handle, none)
  | _ => (registry, none)

/-- What an operation does when its waiting ends, and what it waits for then. -/
def finish (registry : Registry) : Waiting → Except Failure Unit → Registry × Option Waiting
  | .start id _, .ok () => ((registry.handOut (.unregister id)).2, none)
  | .start id _, .error _ => (registry.leave id, none)
  | .stop _ rest, .ok () => beginStop registry rest
  | .stop _ rest, .error failure =>
    if failure.isInterruption then (registry, none) else beginStop registry rest

/-- The first part of a registration enters the client if nobody has its id, and waits only then. -/
theorem beginStart_cases (registry : Registry) (id : String) (client : Nat) :
    registry.get? id ≠ none ∧ beginStart registry id client = (registry, none) ∨
      registry.get? id = none ∧
        beginStart registry id client = (registry.enter id client, some (.start id client)) := by
  unfold beginStart
  split
  next hsome => exact .inl ⟨by rw [hsome]; nofun, rfl⟩
  next hnone => exact .inr ⟨hnone, rfl⟩

/-- The registry while operations overlap. -/
structure Overlap where
  /-- The registry. -/
  registry : Registry := {}
  /-- The operations in the order they began; one that has ended waits for nothing. -/
  operations : List (Option Waiting) := []

/-- What can happen next. -/
inductive Move where
  /-- The registration of a client begins. -/
  | register (client : Nat)
  /-- The disposal of a handle begins. -/
  | dispose (handle : Nat)
  /-- The disposal of all clients begins. -/
  | disposeAll
  /-- An operation has waited. -/
  | finish (operation : Nat) (outcome : Except Failure Unit)

namespace Overlap

/-- One more operation has begun. -/
def begun (overlap : Overlap) (part : Registry × Option Waiting) : Overlap :=
  ⟨part.1, overlap.operations ++ [part.2]⟩

/-- An operation goes on, if it waits. -/
def resume (overlap : Overlap) (operation : Nat) (outcome : Except Failure Unit) : Overlap :=
  match overlap.operations[operation]? with
  | some (some waiting) =>
    let part := finish overlap.registry waiting outcome
    ⟨part.1, overlap.operations.set operation part.2⟩
  | _ => overlap

/-- The overlap after one more move; `idOf` says which id a client has. -/
def after (idOf : Nat → String) (overlap : Overlap) : Move → Overlap
  | .register client => overlap.begun (beginStart overlap.registry (idOf client) client)
  | .dispose handle => overlap.begun (beginDispose overlap.registry handle)
  | .disposeAll => overlap.begun (beginStop overlap.registry overlap.registry.ids)
  | .finish operation outcome => overlap.resume operation outcome

/-- The overlap after some moves. -/
def run (idOf : Nat → String) (overlap : Overlap) (moves : List Move) : Overlap :=
  moves.foldl (after idOf) overlap

theorem run_concat (idOf : Nat → String) (overlap : Overlap) (moves : List Move) (move : Move) :
    overlap.run idOf (moves ++ [move]) = (overlap.run idOf moves).after idOf move := by
  unfold run
  rw [List.foldl_append]
  rfl

/-! ### Operations that nothing overlaps -/

/-- What an operation comes to by itself, if what it waits for ends in these ways. -/
def through (part : Registry × Option Waiting) (outcomes : List (Except Failure Unit)) :
    Registry × Option Waiting :=
  outcomes.foldl (fun part outcome => part.2.elim part (finish part.1 · outcome)) part

/-- The last operation goes on by itself. -/
theorem run_begun (idOf : Nat → String) (overlap : Overlap) (part : Registry × Option Waiting)
    (outcomes : List (Except Failure Unit)) :
    (overlap.begun part).run idOf (outcomes.map (.finish overlap.operations.length)) =
      overlap.begun (through part outcomes) := by
  -- by induction on the outcomes; an operation that does not wait ignores the rest of them
  induction outcomes generalizing part with
  | nil => rfl
  | cons outcome rest ih =>
    have hresume : (overlap.begun part).resume overlap.operations.length outcome =
        overlap.begun (part.2.elim part (finish part.1 · outcome)) := by
      obtain ⟨registry, waiting?⟩ := part
      unfold resume begun
      dsimp only
      rw [List.getElem?_concat_length]
      cases waiting? with
      | none => rfl
      | some waiting =>
        dsimp only [Option.elim]
        rw [List.set_append_right _ _ (Nat.le_refl _), Nat.sub_self]
        rfl
    change ((overlap.begun part).resume overlap.operations.length outcome).run idOf
      (rest.map (.finish overlap.operations.length)) = _
    rw [hresume, ih]
    rfl

section Alone

variable {σ : Type} {kind : ClientKind σ} {stage after : Stage σ} {overlap : Overlap}

/-- A registration whose parts nothing comes between does what the registry does. -/
theorem register_alone {idOf : Nat → String} {client : Nat} {result : Except Failure Nat}
    (hid : idOf client = kind.id stage.clients client)
    (hregistry : overlap.registry = stage.registry)
    (h : (register kind client).perform stage = (result, after)) (hdated : after.world.Dated) :
    let outcome := ((kind.start client).perform (stage.world, stage.clients)).1
    (overlap.run idOf [.register client, .finish overlap.operations.length outcome]).registry =
      after.registry := by
  intro outcome
  have hrun := congrArg registry
    (run_begun idOf overlap (beginStart overlap.registry (idOf client) client) [outcome])
  refine hrun.trans ?_
  rw [hregistry, hid]
  change (through (beginStart stage.registry (kind.id stage.clients client) client) [outcome]).1 = _
  -- the registry and the overlapping operation take the same way: refused, not started, or entered
  rcases register_course h with ⟨htaken, -, rfl⟩ | ⟨hfree, ended, started, hstart, -, -, hcourse⟩
  · rcases beginStart_cases after.registry (kind.id after.clients client) client with
      ⟨-, hpart⟩ | ⟨hfree, -⟩
    · rw [hpart]
      rfl
    · exact absurd hfree htaken
  · have hended : outcome = ended := congrArg Prod.fst hstart
    rcases beginStart_cases stage.registry (kind.id stage.clients client) client with
      ⟨htaken, -⟩ | ⟨-, hpart⟩
    · exact absurd hfree htaken
    rw [hpart, hended]
    rcases hcourse with ⟨failure, rfl, -, hsame⟩ | ⟨rfl, ⟨-, hundated⟩ | ⟨-, hentered⟩⟩
    · rw [hsame]
      exact leave_enter hfree client
    · exact absurd hdated hundated
    · rw [hentered]
      rfl

/-- Somebody who is waited for to stop was taken out before, whatever comes of it. -/
theorem through_beginStop_singleton (kind : ClientKind σ) (id : String) (stage : Stage σ)
    (outcome : Except Failure Unit) :
    (through (beginStop stage.registry [id]) [outcome]).1 =
      ((unregister kind id).perform stage).2.registry := by
  cases hclient : stage.registry.get? id with
  | none =>
    rw [unregister_vacant hclient, beginStop, hclient]
    rfl
  | some client =>
    have hleft : ((unregister kind id).perform stage).2.registry = stage.registry.leave id :=
      (registry_unregister kind id stage).resolve_right fun hvacant =>
        nomatch hclient.symm.trans hvacant.1
    rw [hleft, beginStop, hclient]
    change (finish (stage.registry.leave id) (.stop client []) outcome).1 = _
    cases outcome with
    | ok => rfl
    | error failure =>
      rw [finish]
      split_ifs <;> rfl

/-- A handle whose disposal nothing overlaps is disposed as the registry does it. -/
theorem dispose_alone (idOf : Nat → String) (kind : ClientKind σ) (handle : Nat)
    (hregistry : overlap.registry = stage.registry) (outcome : Except Failure Unit) :
    (overlap.run idOf [.dispose handle, .finish overlap.operations.length outcome]).registry =
      ((dispose kind handle).perform stage).2.registry := by
  have hrun := congrArg registry
    (run_begun idOf overlap (beginDispose overlap.registry handle) [outcome])
  refine hrun.trans ?_
  rw [hregistry]
  change (through (beginDispose stage.registry handle) [outcome]).1 = _
  -- a handle of a client, of the host, or one that is disposed already
  unfold beginDispose
  split
  next id harmed =>
    rw [dispose_armed harmed]
    exact through_beginStop_singleton kind id
      { stage with registry := stage.registry.disarm handle } outcome
  next name fault harmed =>
    rw [dispose_armed harmed]
    cases fault <;> rfl
  next hunarmed hforeign =>
    have hdisposed : stage.registry.isDisposed handle = true := by
      unfold isDisposed
      split
      next teardown harmed =>
        cases teardown with
        | unregister id => exact absurd harmed (hunarmed id)
        | foreign name fault => exact absurd harmed (hforeign name fault)
      next => rfl
    rw [dispose_disarmed kind hdisposed]
    rfl

/-- Nothing happens under an id that nobody has, and nothing is to be logged. -/
theorem guarded_vacant (kind : ClientKind σ) {id : String} (h : stage.registry.get? id = none)
    (report : Failure → Step (Stage σ) Unit) :
    (guarded (unregister kind id) report).perform stage = (.ok (), stage) := by
  unfold guarded
  rw [Step.perform_bind_ok (Step.perform_attempt _ _), unregister_vacant h]
  rfl

/-- The client with an id is taken out, whatever comes of stopping it. -/
theorem registry_guarded_occupied {id : String} {client : Nat}
    (hclient : stage.registry.get? id = some client)
    {report : Failure → Step (Stage σ) Unit} (hreport : OnlyLogs report)
    {settled : Except Failure Unit}
    (h : (guarded (unregister kind id) report).perform stage = (settled, after)) :
    after.registry = stage.registry.leave id := by
  have hleft : ((unregister kind id).perform stage).2.registry = stage.registry.leave id := by
    rcases registry_unregister kind id stage with hleft | ⟨hvacant, -⟩
    · exact hleft
    · rw [hclient] at hvacant
      cases hvacant
  cases hended : (unregister kind id).perform stage with
  | mk outcome ended =>
    obtain ⟨hafter, -, -⟩ := guarded_cases hreport hended h
    rw [hended] at hleft
    rw [hafter, hleft]

/-- While the time of day can be written, a failure that is not just logged is a request to end. -/
theorem interruption_of_guarded {step : Step (Stage σ) Unit}
    {report : Failure → Step (Stage σ) Unit} (hreport : OnlyLogs report) {failure : Failure}
    (h : (guarded step report).perform stage = (.error failure, after))
    (hdated : after.world.Dated) : failure.isInterruption = true := by
  unfold guarded at h
  rw [Step.perform_bind_ok (Step.perform_attempt _ _)] at h
  -- the report of a failure is a record, and that is written while the date can be
  cases hstep : step.perform stage with
  | mk outcome ended =>
    rw [hstep] at h
    cases outcome with
    | ok => cases h
    | error stopped =>
      dsimp only at h
      split at h
      next hasked =>
        cases h
        exact hasked
      next =>
        obtain ⟨service, level, message, fields, hlog⟩ := hreport stopped
        rw [hlog] at h
        cases (act_log_cases h).2.2 hdated

/-- Clients that are taken out one after the other, and nothing comes between. -/
theorem unregisterEach_alone {ids : List String} {result : Except Failure Unit}
    (h : (unregisterEach kind ids).perform stage = (result, after)) (hdated : after.world.Dated) :
    ∃ outcomes, through (beginStop stage.registry ids) outcomes = (after.registry, none) := by
  induction ids generalizing stage with
  | nil =>
    cases h
    exact ⟨[], rfl⟩
  | cons id rest ih =>
    rw [unregisterEach] at h
    cases hclient : stage.registry.get? id with
    | none =>
      rw [Step.perform_bind_ok (guarded_vacant kind hclient _)] at h
      obtain ⟨outcomes, houtcomes⟩ := ih h
      refine ⟨outcomes, ?_⟩
      rwa [beginStop, hclient]
    | some client =>
      rw [beginStop, hclient]
      cases hguarded : (guarded (unregister kind id) _).perform stage with
      | mk settled taken =>
        rw [Step.perform_bind, hguarded] at h
        have hregistry :=
          registry_guarded_occupied hclient (fun _ => ⟨_, _, _, _, rfl⟩) hguarded
        cases settled with
        | ok =>
          obtain ⟨outcomes, houtcomes⟩ := ih h
          rw [hregistry] at houtcomes
          exact ⟨.ok () :: outcomes, houtcomes⟩
        | error failure =>
          cases h
          -- only a request to end ends the round
          have hasked := interruption_of_guarded (fun _ => ⟨_, _, _, _, rfl⟩) hguarded hdated
          refine ⟨[.error failure], ?_⟩
          change finish _ (.stop client rest) (.error failure) = _
          rw [finish, if_pos hasked, hregistry]

/-- A disposal of all clients whose parts nothing comes between does what the registry does. -/
theorem disposeAll_alone (idOf : Nat → String) (hregistry : overlap.registry = stage.registry)
    {result : Except Failure Unit} (h : (disposeAll kind).perform stage = (result, after))
    (hdated : after.world.Dated) :
    ∃ outcomes : List (Except Failure Unit),
      (overlap.run idOf
        (.disposeAll :: outcomes.map (.finish overlap.operations.length))).registry =
          after.registry := by
  unfold disposeAll at h
  rw [Step.perform_get_bind] at h
  obtain ⟨outcomes, houtcomes⟩ := unregisterEach_alone h hdated
  refine ⟨outcomes, ?_⟩
  have hrun := congrArg registry (run_begun idOf overlap
    (beginStop overlap.registry overlap.registry.ids) outcomes)
  refine hrun.trans ?_
  rw [hregistry]
  exact congrArg Prod.fst houtcomes

end Alone

end Overlap

/-! ### What a part does -/

/-- Everybody keeps the id or loses it. -/
def Thins (before after : Registry) : Prop :=
  ∀ id, after.get? id = before.get? id ∨ after.get? id = none

theorem thins_leave (registry : Registry) (id : String) : Thins registry (registry.leave id) := by
  intro other
  rw [get?_leave]
  split_ifs
  · exact .inr rfl
  · exact .inl rfl

/-- A disposal goes on by taking out at most one client, and waits for nobody to start. -/
theorem beginStop_thins (registry : Registry) (ids : List String) :
    Thins registry (beginStop registry ids).1 ∧
      ∀ id client, (beginStop registry ids).2 ≠ some (.start id client) := by
  induction ids with
  | nil => exact ⟨fun _ => .inl rfl, nofun⟩
  | cons id rest ih =>
    unfold beginStop
    split
    · exact ih
    · exact ⟨thins_leave registry id, nofun⟩

theorem beginDispose_thins (registry : Registry) (handle : Nat) :
    Thins registry (beginDispose registry handle).1 ∧
      ∀ id client, (beginDispose registry handle).2 ≠ some (.start id client) := by
  unfold beginDispose
  split
  · exact beginStop_thins (registry.disarm handle) _
  · exact ⟨fun _ => .inl rfl, nofun⟩
  · exact ⟨fun _ => .inl rfl, nofun⟩

theorem finish_thins (registry : Registry) (waiting : Waiting) (outcome : Except Failure Unit) :
    Thins registry (finish registry waiting outcome).1 ∧
      ∀ id client, (finish registry waiting outcome).2 ≠ some (.start id client) := by
  cases waiting with
  | start id client =>
    cases outcome with
    | ok => exact ⟨fun _ => .inl rfl, nofun⟩
    | error failure => exact ⟨thins_leave registry id, nofun⟩
  | stop client rest =>
    cases outcome with
    | ok => exact beginStop_thins registry rest
    | error failure =>
      rw [finish]
      split_ifs
      · exact ⟨fun _ => .inl rfl, nofun⟩
      · exact beginStop_thins registry rest

namespace Overlap

variable {idOf : Nat → String} {overlap : Overlap} {moves : List Move} {move : Move}

/-- A move keeps who has an id or takes them out; only a registration lets somebody in, under an id
that nobody had. -/
theorem get?_after (idOf : Nat → String) (overlap : Overlap) (move : Move) (id : String) :
    (overlap.after idOf move).registry.get? id = overlap.registry.get? id ∨
      (overlap.after idOf move).registry.get? id = none ∨
        ∃ client, move = .register client ∧ idOf client = id ∧ overlap.registry.get? id = none ∧
          (overlap.after idOf move).registry.get? id = some client := by
  -- all moves but a registration thin the table out
  cases move with
  | register client =>
    unfold after begun
    dsimp only
    rcases beginStart_cases overlap.registry (idOf client) client with ⟨-, hpart⟩ | ⟨hfree, hpart⟩
    · rw [hpart]
      exact .inl rfl
    · rw [hpart, get?_enter]
      by_cases hid : id = idOf client
      · rw [hid, if_pos rfl]
        exact .inr (.inr ⟨client, rfl, rfl, hfree, rfl⟩)
      · rw [if_neg hid]
        exact .inl rfl
  | dispose handle =>
    exact (((beginDispose_thins overlap.registry handle).1 id).imp_right .inl)
  | disposeAll => exact ((beginStop_thins overlap.registry _).1 id).imp_right .inl
  | finish operation outcome =>
    change (overlap.resume operation outcome).registry.get? id = _ ∨
      (overlap.resume operation outcome).registry.get? id = none ∨ _
    unfold resume
    split
    next waiting _ => exact ((finish_thins overlap.registry waiting outcome).1 id).imp_right .inl
    next => exact .inl rfl

/-- Of the operations only the last one is new where one has begun. -/
theorem begun_operations {part : Registry × Option Waiting} {operation : Nat} {waiting : Waiting}
    (h : (overlap.begun part).operations[operation]? = some (some waiting)) :
    overlap.operations[operation]? = some (some waiting) ∨
      operation = overlap.operations.length ∧ part.2 = some waiting := by
  unfold begun at h
  dsimp only at h
  rw [List.getElem?_append] at h
  split at h
  · exact .inl h
  next hle =>
    rw [List.getElem?_singleton] at h
    split at h
    next hzero =>
      have hlast : operation = overlap.operations.length := by omega
      exact .inr ⟨hlast, Option.some.inj h⟩
    next => cases h

/-- An operation that goes on does not wait for a client to start. -/
theorem resume_operations {finished operation client : Nat} {id : String}
    {outcome : Except Failure Unit}
    (h : (overlap.resume finished outcome).operations[operation]? =
      some (some (.start id client))) :
    overlap.operations[operation]? = some (some (.start id client)) := by
  unfold resume at h
  split at h
  next waiting hwaiting =>
    dsimp only at h
    rw [List.getElem?_set] at h
    split at h
    · split at h
      · exact absurd (Option.some.inj h)
          ((finish_thins overlap.registry waiting outcome).2 id client)
      · cases h
    · exact h
  next => exact h

/-- An operation that waits for a client to start did so before the move, or it is the registration
of the client that begins. -/
theorem operations_after {operation client : Nat} {id : String}
    (h : (overlap.after idOf move).operations[operation]? = some (some (.start id client))) :
    overlap.operations[operation]? = some (some (.start id client)) ∨
      move = .register client ∧ id = idOf client ∧ operation = overlap.operations.length ∧
        overlap.registry.get? id = none := by
  -- only a registration waits for a client to start
  cases move with
  | register registered =>
    rcases begun_operations h with hold | ⟨hlast, hpart⟩
    · exact .inl hold
    · right
      rcases beginStart_cases overlap.registry (idOf registered) registered with
        ⟨-, hrefused⟩ | ⟨hfree, hentered⟩
      · rw [hrefused] at hpart
        cases hpart
      · rw [hentered] at hpart
        cases hpart
        exact ⟨rfl, rfl, hlast, hfree⟩
  | dispose handle =>
    rcases begun_operations h with hold | ⟨-, hpart⟩
    · exact .inl hold
    · exact absurd hpart ((beginDispose_thins overlap.registry handle).2 id client)
  | disposeAll =>
    rcases begun_operations h with hold | ⟨-, hpart⟩
    · exact .inl hold
    · exact absurd hpart ((beginStop_thins overlap.registry _).2 id client)
  | finish finished outcome => exact .inl (resume_operations h)

/-! ### Since when -/

/-- The registration at a moment took the id of its client. -/
structure Takes (idOf : Nat → String) (moves : List Move) (moment client : Nat) : Prop where
  /-- The registration begins at the moment. -/
  registers : moves[moment]? = some (.register client)
  /-- Nobody had the id before. -/
  vacant : (run idOf {} (moves.take moment)).registry.get? (idOf client) = none

/-- The registration at a moment took the id of its client, who has had it ever since. -/
structure Stands (idOf : Nat → String) (moves : List Move) (moment client : Nat) : Prop
    extends Takes idOf moves moment client where
  /-- The client has had the id after every move since. -/
  since : ∀ {later}, moment < later → later ≤ moves.length →
    (run idOf {} (moves.take later)).registry.get? (idOf client) = some client

variable {moment client : Nat}

theorem Takes.lt (h : Takes idOf moves moment client) : moment < moves.length :=
  (List.getElem?_eq_some_iff.1 h.registers).1

/-- What was taken before one more move was taken. -/
theorem Takes.concat (h : Takes idOf moves moment client) (move : Move) :
    Takes idOf (moves ++ [move]) moment client where
  registers := by
    rw [List.getElem?_append_left h.lt]
    exact h.registers
  vacant := by
    rw [List.take_append_of_le_length (Nat.le_of_lt h.lt)]
    exact h.vacant

theorem takes_last (hvacant : (run idOf {} moves).registry.get? (idOf client) = none) :
    Takes idOf (moves ++ [.register client]) moves.length client where
  registers := List.getElem?_concat_length
  vacant := by rw [List.take_left, hvacant]

/-- A client that has the id after one more move has had it since the same moment, if it had it
before the move. -/
theorem Stands.concat (h : Stands idOf moves moment client)
    (hstill : (run idOf {} (moves ++ [move])).registry.get? (idOf client) = some client) :
    Stands idOf (moves ++ [move]) moment client where
  toTakes := h.toTakes.concat move
  since := since_concat (fun done => (run idOf {} done).registry.get? (idOf client) = some client)
    h.since hstill

theorem stands_last (hvacant : (run idOf {} moves).registry.get? (idOf client) = none)
    (hentered : (run idOf {} (moves ++ [.register client])).registry.get? (idOf client) =
      some client) : Stands idOf (moves ++ [.register client]) moves.length client where
  toTakes := takes_last hvacant
  since := since_last (fun done => (run idOf {} done).registry.get? (idOf client) = some client)
    hentered

/-- A client that has an id has had it since it was registered. -/
theorem stands_of_get? {id : String} (h : (run idOf {} moves).registry.get? id = some client) :
    idOf client = id ∧ ∃ moment, Stands idOf moves moment client := by
  induction moves using List.reverseRecOn with
  | nil => cases h
  | append_singleton moves move ih =>
    have hmove := get?_after idOf (run idOf {} moves) move id
    rw [← run_concat, h] at hmove
    rcases hmove with hkept | hnone | ⟨entered, rfl, rfl, hvacant, hentered⟩
    · obtain ⟨rfl, moment, hstands⟩ := ih hkept.symm
      exact ⟨rfl, moment, hstands.concat h⟩
    · cases hnone
    · cases hentered
      exact ⟨rfl, moves.length, stands_last hvacant h⟩

/-- A client that has had its id since some moment has it. -/
theorem Stands.get? (h : Stands idOf moves moment client) :
    (run idOf {} moves).registry.get? (idOf client) = some client := by
  have hlast := h.since h.lt (Nat.le_refl _)
  rwa [List.take_length] at hlast

/-- Who has an id now took it later than anybody else who took it, or at the same moment. -/
theorem Stands.le {later other : Nat} (h : Stands idOf moves later other)
    (htakes : Takes idOf moves moment client) (hid : idOf other = idOf client) :
    moment ≤ later := by
  by_contra hlt
  have hthere := h.since (Nat.lt_of_not_le hlt) (Nat.le_of_lt htakes.lt)
  rw [hid, htakes.vacant] at hthere
  cases hthere

/-- A client that took its id has it exactly if it has had it since then or since some later
registration. -/
theorem Takes.get?_iff (htakes : Takes idOf moves moment client) :
    (run idOf {} moves).registry.get? (idOf client) = some client ↔
      ∃ later, moment ≤ later ∧ Stands idOf moves later client := by
  constructor
  · intro hthere
    obtain ⟨-, later, hstands⟩ := stands_of_get? hthere
    exact ⟨later, hstands.le htakes rfl, hstands⟩
  · rintro ⟨later, -, hstands⟩
    exact hstands.get?

/-- Taking out who has the id that a client took takes out another one exactly if one was registered
since and is still there. -/
theorem Takes.leave_iff (htakes : Takes idOf moves moment client) :
    (∃ place other, other ≠ client ∧ (run idOf {} moves).registry.get? place = some other ∧
        ((run idOf {} moves).registry.leave (idOf client)).get? place ≠ some other) ↔
      ∃ later other, other ≠ client ∧ idOf other = idOf client ∧ moment < later ∧
        Stands idOf moves later other := by
  constructor
  · rintro ⟨place, other, hother, hbefore, hafter⟩
    rw [get?_leave] at hafter
    split at hafter
    next hplace =>
      -- whoever is taken out has this id, and was registered after the client that took it first
      obtain ⟨hid, later, hstands⟩ := stands_of_get? hbefore
      have hid' : idOf other = idOf client := hid.trans hplace
      have hle := hstands.le htakes hid'
      refine ⟨later, other, hother, hid', Nat.lt_of_le_of_ne hle ?_, hstands⟩
      rintro rfl
      cases htakes.registers.symm.trans hstands.registers
      exact hother rfl
    next => exact absurd hbefore hafter
  · rintro ⟨later, other, hother, hid, -, hstands⟩
    refine ⟨idOf client, other, hother, ?_, ?_⟩
    · rw [← hid]
      exact hstands.get?
    · rw [get?_leave, if_pos rfl]
      nofun

/-- An operation that waits for a client to start is a registration that took its id. -/
theorem takes_of_waiting {operation : Nat} {id : String}
    (h : (run idOf {} moves).operations[operation]? = some (some (.start id client))) :
    id = idOf client ∧ ∃ moment, Takes idOf moves moment client ∧
      operation = (run idOf {} (moves.take moment)).operations.length := by
  induction moves using List.reverseRecOn with
  | nil => cases h
  | append_singleton moves move ih =>
    rw [run_concat] at h
    rcases operations_after h with hold | ⟨rfl, rfl, rfl, hvacant⟩
    · obtain ⟨hid, moment, htakes, hnumber⟩ := ih hold
      refine ⟨hid, moment, htakes.concat move, ?_⟩
      rw [List.take_append_of_le_length (Nat.le_of_lt htakes.lt)]
      exact hnumber
    · exact ⟨rfl, moves.length, takes_last hvacant, by rw [List.take_left]⟩

/-! ### When the client has started, or not -/

theorem registry_finish {operation : Nat} {waiting : Waiting} (outcome : Except Failure Unit)
    (h : overlap.operations[operation]? = some (some waiting)) :
    (overlap.after idOf (.finish operation outcome)).registry =
      (finish overlap.registry waiting outcome).1 := by
  change (overlap.resume operation outcome).registry = _
  unfold resume
  rw [h]

/-- A registration waits for its client to start. Since it took the id of the client, others may
have taken the client out and registered another one.

If the client does not start, the registration takes out whoever has the id by then. It takes out
another client exactly if one was registered since and is still there.

If the client starts, the registration hands out a handle. Its client has the id exactly if it was
not taken out since, or was registered again and is still there. -/
theorem finish_start_iff (idOf : Nat → String) (moves : List Move) {operation client : Nat}
    {id : String} (hwaits : (run idOf {} moves).operations[operation]? =
      some (some (.start id client))) :
    let before := (run idOf {} moves).registry
    let ended outcome := (run idOf {} (moves ++ [.finish operation outcome])).registry
    ∃ moment, Takes idOf moves moment client ∧
      operation = (run idOf {} (moves.take moment)).operations.length ∧
        (∀ failure,
          (∃ place other, other ≠ client ∧ before.get? place = some other ∧
              (ended (.error failure)).get? place ≠ some other) ↔
            ∃ later other, other ≠ client ∧ idOf other = idOf client ∧ moment < later ∧
              Stands idOf moves later other) ∧
          (ended (.ok ())).disposables = before.disposables ++ [some (.unregister (idOf client))] ∧
            ((ended (.ok ())).get? (idOf client) = some client ↔
              ∃ later, moment ≤ later ∧ Stands idOf moves later client) := by
  intro before ended
  obtain ⟨rfl, moment, htakes, hnumber⟩ := takes_of_waiting hwaits
  -- the registration that waits is the one of this client, so its end is known from the outcome
  have hended (outcome : Except Failure Unit) :
      ended outcome = (finish before (.start (idOf client) client) outcome).1 := by
    change (run idOf {} (moves ++ [.finish operation outcome])).registry = _
    rw [run_concat]
    exact registry_finish outcome hwaits
  refine ⟨moment, htakes, hnumber, fun failure => ?_, ?_, ?_⟩
  · rw [hended]
    exact htakes.leave_iff
  · rw [hended]
    rfl
  · rw [hended]
    exact htakes.get?_iff

/-- While one client starts, all clients are disposed and another one takes the id. -/
def overtaken : List Move := [.register 0, .disposeAll, .register 1]

/-- If the first client does not start, the other one is taken out. If it starts, its registration
hands out a handle, and the other one has the id. -/
theorem overtaken_loses_newcomer :
    let idOf := fun _ : Nat => "julia"
    let before := (run idOf {} overtaken).registry
    let ended outcome := (run idOf {} (overtaken ++ [.finish 0 outcome])).registry
    (run idOf {} overtaken).operations[0]? = some (some (.start "julia" 0)) ∧
      before.get? "julia" = some 1 ∧ (ended (.error .timedOut)).get? "julia" = none ∧
        (∃ later other, other ≠ 0 ∧ Stands idOf overtaken later other) ∧
          (ended (.ok ())).disposables = [some (.unregister "julia")] ∧
            (ended (.ok ())).get? "julia" = some 1 := by
  intro idOf before ended
  have hwaits : (run idOf {} overtaken).operations[0]? = some (some (.start "julia" 0)) := rfl
  obtain ⟨moment, -, -, hfails, hstarts, -⟩ := finish_start_iff idOf overtaken hwaits
  have hlost : ∃ place other, other ≠ 0 ∧ before.get? place = some other ∧
      (ended (.error .timedOut)).get? place ≠ some other :=
    ⟨"julia", 1, by decide, rfl, nofun⟩
  obtain ⟨later, other, hother, -, -, hstands⟩ := (hfails .timedOut).1 hlost
  exact ⟨hwaits, rfl, rfl, ⟨later, other, hother, hstands⟩, hstarts, rfl⟩

end Overlap

end JuliaSession.Registry
