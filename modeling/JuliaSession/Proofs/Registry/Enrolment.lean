import Mathlib.Data.List.Induction
import JuliaSession.Proofs.Machine.Logging
import JuliaSession.Proofs.Registry.Handles

/-!
# The order of the registered clients

However the registry is used and whatever clients fail to start or stop, the table of clients is the
list of those whose registration was not undone, in the order of their registrations.

* `Shrinks`: from one stage to the other clients only leave the table. Every operation but a
  registration does that; a registration adds one client at the end, or nobody (`clients_after`).
* `Enrolled`: the operation that brought an entry of the table about, which has been there since.
* `unregisterEach_dated`: all clients are stopped in order, once each, and the table is empty.
* `registry_orderly`: what can be relied on after any operations.
-/

namespace JuliaSession.Registry

variable {σ : Type} {kind : ClientKind σ}

/-! ### The table of clients -/

/-- From one stage to the other clients only leave the table; who stays keeps its place. -/
def Shrinks (before after : Stage σ) : Prop :=
  after.registry.clients.Sublist before.registry.clients

instance : Std.Refl (Shrinks (σ := σ)) := ⟨fun _ => .refl _⟩

instance : Trans (Shrinks (σ := σ)) Shrinks Shrinks := ⟨fun h h' => h'.trans h⟩

theorem Shrinks.of_eq {before after : Stage σ}
    (h : after.registry.clients = before.registry.clients) : Shrinks before after := by
  simp only [Shrinks, h, List.Sublist.refl]

theorem SameRegistry.shrinks {before after : Stage σ} (h : SameRegistry before after) :
    Shrinks before after := .of_eq (congrArg Registry.clients h)

theorem clears_shrinks : Clears (Shrinks (σ := σ)) where
  same := SameRegistry.shrinks
  leave _ _ := List.filter_sublist
  disarm _ _ := .refl _

/-- A client that takes an id nobody had stands at the end of the table. -/
theorem clients_enter {registry : Registry} {id : String} (h : registry.get? id = none)
    (client : Nat) : (registry.enter id client).clients = registry.clients ++ [(id, client)] :=
  Assoc.insert_of_not_mem (Assoc.not_mem_keys_of_get?_eq_none h) client

/-- A client that takes an id nobody had and leaves again leaves no trace. -/
theorem leave_enter {registry : Registry} {id : String} (h : registry.get? id = none)
    (client : Nat) : (registry.enter id client).leave id = registry := by
  unfold leave enter
  rw [Assoc.erase_insert_of_not_mem (Assoc.not_mem_keys_of_get?_eq_none h)]

/-- A registration adds the client at the end of the table, or nobody. -/
theorem clients_register {stage after : Stage σ} {client : Nat} {result : Except Failure Nat}
    (h : (register kind client).perform stage = (result, after)) :
    let id := kind.id stage.clients client
    after.registry.clients = stage.registry.clients ∨
      stage.registry.get? id = none ∧
        after.registry.clients = stage.registry.clients ++ [(id, client)] := by
  intro id
  rcases register_cases h with
    ⟨-, hsame⟩ | ⟨hfree, ⟨-, hleft⟩ | ⟨-, hentered⟩ | ⟨-, hentered⟩⟩
  · exact .inl (congrArg clients hsame)
  · rw [leave_enter hfree] at hleft
    exact .inl (congrArg clients hleft)
  · exact .inr ⟨hfree, (congrArg clients hentered).trans (clients_enter hfree client)⟩
  · exact .inr ⟨hfree, (congrArg clients hentered).trans (clients_enter hfree client)⟩

/-- A client that does not start is not registered, and nothing else changes in the registry. -/
theorem register_unstarted {stage : Stage σ} {client : Nat} {failure : Failure}
    (hfree : stage.registry.get? (kind.id stage.clients client) = none)
    (h : ((kind.start client).perform (stage.world, stage.clients)).1 = .error failure) :
    let refused := (register kind client).perform stage
    refused.1 = .error failure ∧ refused.2.registry = stage.registry := by
  rw [register_free hfree, Step.perform_bind_ok (Step.perform_attempt _ _)]
  unfold Stage.withClients
  rw [Step.perform_onPart]
  dsimp only
  rw [h]
  exact ⟨rfl, leave_enter hfree client⟩

/-- A step on the world changes the world only. -/
theorem act_cases {α : Type} {step : Act α} {before after : Stage σ} {result : Except Failure α}
    (h : (Stage.act step).perform before = (result, after)) :
    after = { before with world := after.world } ∧
      step.perform before.world = (result, after.world) := by
  cases h
  exact ⟨rfl, rfl⟩

/-- Writing to the log changes the world only. -/
theorem act_log_cases {service : String} {level : Log.Level} {message : String}
    {fields : Log.Fields} {before after : Stage σ} {result : Except Failure Unit}
    (h : (Stage.act (Act.log service level message fields)).perform before = (result, after)) :
    after = { before with world := after.world } ∧ LogsOnly before.world after.world ∧
      (after.world.Dated → result = .ok ()) := by
  obtain ⟨hafter, hrecord⟩ := act_cases h
  exact ⟨hafter, (logsOnly_log _ _ _ _).ends hrecord, log_ok hrecord⟩

/-- How a registration goes: the id is taken and nothing happens; or the client is started, and is
registered if it starts. Then no failure comes from anything but the time of day. -/
theorem register_course {stage after : Stage σ} {client : Nat} {result : Except Failure Nat}
    (h : (register kind client).perform stage = (result, after)) :
    let id := kind.id stage.clients client
    (stage.registry.get? id ≠ none ∧ (∃ failure, result = .error failure) ∧ after = stage) ∨
      stage.registry.get? id = none ∧ ∃ outcome started,
        (kind.start client).perform (stage.world, stage.clients) = (outcome, started) ∧
          after.clients = started.2 ∧ LogsOnly started.1 after.world ∧
            ((∃ failure, outcome = .error failure ∧ result = .error failure ∧
                after.registry = stage.registry) ∨
              outcome = .ok () ∧
                ((∃ reason, result = .error (.badValue reason)) ∧ ¬ after.world.Dated ∨
                  result = .ok stage.registry.disposables.length ∧
                    after.registry =
                      (stage.registry.handOut (.unregister id)).2.enter id client)) := by
  intro id
  cases hfree : stage.registry.get? id with
  | some resident =>
    obtain ⟨failure, hrefused⟩ : ∃ failure, (register kind client).perform stage =
        (.error failure, stage) := register_taken (by rw [hfree]; rfl)
    rw [hrefused] at h
    cases h
    exact .inl ⟨nofun, ⟨failure, rfl⟩, rfl⟩
  | none =>
    refine .inr ⟨rfl, ?_⟩
    rw [register_free hfree, Step.perform_bind_ok (Step.perform_attempt _ _)] at h
    unfold Stage.withClients at h
    rw [Step.perform_onPart] at h
    dsimp only at h
    cases hstart : (kind.start client).perform (stage.world, stage.clients) with
    | mk outcome started =>
      refine ⟨outcome, started, rfl, ?_⟩
      rw [hstart] at h
      cases outcome with
      | error failure =>
        cases h
        exact ⟨rfl, .refl _, .inl ⟨failure, rfl, rfl, leave_enter hfree client⟩⟩
      | ok =>
        rw [Step.perform_bind] at h
        -- the registration is written to the log, which fails only if the time of day cannot be
        -- written
        cases hnote : (note (σ := σ) .info "registered language client" id).perform _ with
        | mk noted logged =>
          rw [hnote] at h
          obtain ⟨hlogged, hlogs, hok⟩ := act_log_cases hnote
          cases noted with
          | error failure =>
            obtain ⟨reason, rfl⟩ := log_fails (act_cases hnote).2
            cases h
            rw [hlogged] at hok ⊢
            exact ⟨rfl, hlogs, .inr ⟨rfl, .inl ⟨⟨reason, rfl⟩, fun hdated => nomatch hok hdated⟩⟩⟩
          | ok =>
            rw [hlogged] at h
            cases h
            exact ⟨rfl, hlogs, .inr ⟨rfl, .inr ⟨rfl, rfl⟩⟩⟩

/-! ### Disposing all clients -/

/-- No stop fails because somebody asked for an end; any other failure may happen. -/
def StopsOrdinarily (kind : ClientKind σ) : Prop :=
  ∀ client state failure, ((kind.stop client).perform state).1 = .error failure →
    failure.isInterruption = false

/-- To log the calls to the clients makes no failure of them. -/
theorem StopsOrdinarily.logged (h : StopsOrdinarily kind) : StopsOrdinarily (logged kind) :=
  fun client (world, clients, _) failure hfails => h client (world, clients) failure hfails

/-- A failure is written to the log, and nothing else is done about it. -/
def OnlyLogs (report : Failure → Step (Stage σ) Unit) : Prop :=
  ∀ failure, ∃ service level message fields,
    report failure = Stage.act (Act.log service level message fields)

/-- A step whose failure is written to the log ends well, unless it fails because somebody asked for
an end. -/
theorem guarded_cases {step : Step (Stage σ) Unit} {report : Failure → Step (Stage σ) Unit}
    (hreport : OnlyLogs report) {before ended after : Stage σ}
    {outcome result : Except Failure Unit} (hstep : step.perform before = (outcome, ended))
    (h : (guarded step report).perform before = (result, after)) :
    after = { ended with world := after.world } ∧ LogsOnly ended.world after.world ∧
      (after.world.Dated →
        (∀ failure, outcome = .error failure → failure.isInterruption = false) →
          result = .ok ()) := by
  unfold guarded at h
  rw [Step.perform_bind_ok (Step.perform_attempt _ _), hstep] at h
  cases outcome with
  | ok =>
    cases h
    exact ⟨rfl, .refl _, fun _ _ => rfl⟩
  | error failure =>
    dsimp only at h
    split at h
    -- who asks for an end is heard: nothing is logged, and the failure is passed on
    next hinterruption =>
      cases h
      refine ⟨rfl, .refl _, fun _ hordinary => ?_⟩
      rw [hordinary failure rfl] at hinterruption
      cases hinterruption
    next =>
      obtain ⟨service, level, message, fields, hlog⟩ := hreport failure
      rw [hlog] at h
      obtain ⟨hafter, hlogs, hok⟩ := act_log_cases h
      exact ⟨hafter, hlogs, fun hdated _ => hok hdated⟩

/-- While the time of day can be written, taking a client out fails only if it does not stop. -/
theorem stop_fails_of_unregister {stage ended : Stage σ} {id : String} {client : Nat}
    {failure : Failure} (hclient : stage.registry.get? id = some client)
    (h : (unregister kind id).perform stage = (.error failure, ended))
    (hdated : ended.world.Dated) :
    ((kind.stop client).perform (stage.world, stage.clients)).1 = .error failure := by
  rw [unregister_occupied hclient, Step.perform_bind] at h
  unfold Stage.withClients at h
  rw [Step.perform_onPart] at h
  dsimp only at h
  cases hstop : ((kind.stop client).perform (stage.world, stage.clients)).1 with
  | error stopped =>
    rw [hstop] at h
    cases h
    rfl
  | ok =>
    rw [hstop] at h
    cases (act_log_cases h).2.2 hdated

/-- A client is taken out and stopped; while the time of day can be written, its failure to stop is
written to the log. -/
theorem guarded_unregister (hordinary : StopsOrdinarily kind)
    {report : Failure → Step (Stage (σ × List Call)) Unit} (hreport : OnlyLogs report)
    {stage after : Stage (σ × List Call)} {id : String} {client : Nat}
    (hclient : stage.registry.get? id = some client) {result : Except Failure Unit}
    (h : (guarded (unregister (logged kind) id) report).perform stage = (result, after)) :
    after.registry = stage.registry.leave id ∧
      after.clients.2 = stage.clients.2 ++ [.stop client] ∧
        (after.world.Dated → result = .ok ()) := by
  have hcalls := calls_unregister kind hclient
  have hregistry := registry_unregister (logged kind) id stage
  rw [hclient] at hregistry
  replace hregistry := hregistry.resolve_right fun hnone => nomatch hnone.1
  -- the failure of the stop is ordinary, so it is reported and not passed on
  cases hended : (unregister (logged kind) id).perform stage with
  | mk outcome ended =>
    rw [hended] at hcalls hregistry
    obtain ⟨hafter, hlogs, hok⟩ := guarded_cases hreport hended h
    rw [hafter]
    refine ⟨hregistry, hcalls, fun hdated => hok hdated ?_⟩
    rintro failure rfl
    exact hordinary.logged _ _ _
      (stop_fails_of_unregister hclient hended (hlogs.dated_iff.1 hdated))

/-- While the time of day can be written, the clients of a table are taken out and stopped one after
the other, whoever of them fails. -/
theorem unregisterEach_dated (hordinary : StopsOrdinarily kind) {entries : Assoc String Nat}
    (hkeys : (Assoc.keys entries).Nodup) {stage after : Stage (σ × List Call)}
    (hentries : stage.registry.clients = entries) {result : Except Failure Unit}
    (h : (unregisterEach (logged kind) (Assoc.keys entries)).perform stage = (result, after))
    (hdated : after.world.Dated) :
    result = .ok () ∧ after.registry.clients = [] ∧
      after.clients.2 = stage.clients.2 ++ entries.map fun entry => .stop entry.2 := by
  induction entries generalizing stage with
  | nil =>
    cases h
    exact ⟨rfl, hentries, (List.append_nil _).symm⟩
  | cons entry rest ih =>
    obtain ⟨id, client⟩ := entry
    obtain ⟨hfirst, hrest⟩ := List.nodup_cons.1 hkeys
    have hclient : stage.registry.get? id = some client := by
      unfold get?
      rw [hentries]
      exact if_pos rfl
    change (unregisterEach (logged kind) (id :: Assoc.keys rest)).perform stage = _ at h
    rw [unregisterEach, Step.perform_bind] at h
    cases hguarded : (guarded (unregister (logged kind) id) _).perform stage with
    | mk settled taken =>
      obtain ⟨hregistry, hcalls, hok⟩ :=
        guarded_unregister hordinary (fun _ => ⟨_, _, _, _, rfl⟩) hclient hguarded
      rw [hguarded] at h
      cases settled with
      -- only a record that cannot be dated ends the round early
      | error failure =>
        cases h
        cases hok hdated
      | ok =>
        have htable : taken.registry.clients = rest := by
          rw [hregistry, leave, hentries]
          exact Assoc.erase_cons_self hfirst client
        obtain ⟨hresult, hempty, hstops⟩ := ih hrest htable h
        refine ⟨hresult, hempty, ?_⟩
        rw [hstops, hcalls, List.map_cons, List.append_assoc, List.singleton_append]

/-! ### Histories -/

/-- An operation only takes clients out, unless it registers one: then that client may stand at the
end of the table, under an id that nobody had. -/
theorem clients_after (kind : ClientKind σ) (history : History σ) (operation : Operation) :
    Shrinks history.stage (history.after kind operation).stage ∨
      ∃ client, operation = .register client ∧
        let id := kind.id history.stage.clients.1 client
        history.stage.registry.get? id = none ∧
          (history.after kind operation).stage.registry.clients =
            history.stage.registry.clients ++ [(id, client)] := by
  -- only a registration can let somebody in
  cases operation with
  | stop id => exact .inl (SameRegistry.shrinks (sameRegistry_stop _ id _))
  | restart id => exact .inl (SameRegistry.shrinks (sameRegistry_restart _ id _))
  | disposeAll => exact .inl (clears_shrinks.disposeAll _ _)
  | dispose handle => exact .inl (clears_shrinks.dispose _ handle _)
  | register client =>
    cases hregister : (register (logged kind) client).perform history.stage with
    | mk result stage =>
      have hstage : (history.after kind (.register client)).stage = stage := by
        cases result with
        | ok handle => exact congrArg History.stage (History.enrol_ok hregister)
        | error failure => exact congrArg History.stage (History.enrol_error hregister)
      rw [hstage]
      rcases clients_register hregister with hsame | hentered
      · exact .inl (.of_eq hsame)
      · exact .inr ⟨client, rfl, hentered⟩

theorem History.run_concat (kind : ClientKind σ) (first : History σ) (operations : List Operation)
    (operation : Operation) :
    first.run kind (operations ++ [operation]) =
      (first.run kind operations).after kind operation := by
  unfold run
  rw [List.foldl_append]
  rfl

/-- What held after every operation since a moment and holds after one more operation has held ever
since. -/
theorem since_concat {α : Type} {operations : List α} {operation : α} {moment : Nat}
    (holds : List α → Prop)
    (hsince : ∀ {later}, moment < later → later ≤ operations.length →
      holds (operations.take later))
    (hstill : holds (operations ++ [operation])) {later : Nat} (hlater : moment < later)
    (hle : later ≤ (operations ++ [operation]).length) :
    holds ((operations ++ [operation]).take later) := by
  rw [List.length_append, List.length_singleton] at hle
  rcases Nat.lt_or_eq_of_le hle with hlt | rfl
  · rw [List.take_append_of_le_length (Nat.le_of_lt_succ hlt)]
    exact hsince hlater (Nat.le_of_lt_succ hlt)
  · rw [List.take_of_length_le (by simp)]
    exact hstill

/-- What holds after the last operation has held since that operation. -/
theorem since_last {α : Type} {operations : List α} {operation : α} (holds : List α → Prop)
    (hlast : holds (operations ++ [operation])) {later : Nat} (hlater : operations.length < later)
    (hle : later ≤ (operations ++ [operation]).length) :
    holds ((operations ++ [operation]).take later) :=
  since_concat holds (fun hlt hle => absurd hle (Nat.not_le_of_lt hlt)) hlast hlater hle

/-- An entry of the table goes back to the registration at a moment, that is after so many
operations. -/
structure Enrolled (kind : ClientKind σ) (first : History σ) (operations : List Operation)
    (moment : Nat) (entry : String × Nat) : Prop where
  /-- The operation at the moment is the registration of the client. -/
  registers : operations[moment]? = some (.register entry.2)
  /-- The id is that of the client. -/
  id : entry.1 = kind.id (first.run kind (operations.take moment)).stage.clients.1 entry.2
  /-- Nobody had the id before. -/
  vacant : (first.run kind (operations.take moment)).stage.registry.get? entry.1 = none
  /-- The client has had the id after every operation since. -/
  since : ∀ {later}, moment < later → later ≤ operations.length →
    (first.run kind (operations.take later)).stage.registry.get? entry.1 = some entry.2

/-- Of two entries of the table one goes back to an earlier registration than the other. -/
def EnrolledBefore (kind : ClientKind σ) (first : History σ) (operations : List Operation)
    (entry other : String × Nat) : Prop :=
  ∃ moment later, moment < later ∧ Enrolled kind first operations moment entry ∧
    Enrolled kind first operations later other

section Enrolled

variable {first : History σ} {operations : List Operation} {operation : Operation}
  {moment : Nat} {entry other : String × Nat}

theorem Enrolled.lt (h : Enrolled kind first operations moment entry) :
    moment < operations.length :=
  (List.getElem?_eq_some_iff.1 h.registers).1

/-- An entry that is still there after one more operation goes back to the same moment. -/
theorem Enrolled.concat (h : Enrolled kind first operations moment entry)
    (hstill : (first.run kind (operations ++ [operation])).stage.registry.get? entry.1 =
      some entry.2) : Enrolled kind first (operations ++ [operation]) moment entry := by
  have htake : (operations ++ [operation]).take moment = operations.take moment :=
    List.take_append_of_le_length (Nat.le_of_lt h.lt)
  constructor
  · rw [List.getElem?_append_left h.lt]
    exact h.registers
  · rw [htake]
    exact h.id
  · rw [htake]
    exact h.vacant
  · exact since_concat
      (fun done => (first.run kind done).stage.registry.get? entry.1 = some entry.2) h.since hstill

/-- An entry goes back to one moment only. -/
theorem Enrolled.unique {moment' : Nat} (h : Enrolled kind first operations moment entry)
    (h' : Enrolled kind first operations moment' entry) : moment = moment' := by
  rcases Nat.lt_trichotomy moment moment' with hlt | heq | hlt
  · have hthere := h.since hlt (Nat.le_of_lt h'.lt)
    rw [h'.vacant] at hthere
    cases hthere
  · exact heq
  · have hthere := h'.since hlt (Nat.le_of_lt h.lt)
    rw [h.vacant] at hthere
    cases hthere

/-- The last registration entered its client. -/
theorem enrolled_last {client : Nat} {id : String}
    (hid : id = kind.id (first.run kind operations).stage.clients.1 client)
    (hvacant : (first.run kind operations).stage.registry.get? id = none)
    (hentered : (first.run kind (operations ++ [.register client])).stage.registry.get? id =
      some client) :
    Enrolled kind first (operations ++ [.register client]) operations.length (id, client) where
  registers := List.getElem?_concat_length
  id := by rw [List.take_left, hid]
  vacant := by rw [List.take_left, hvacant]
  since := since_last (fun done => (first.run kind done).stage.registry.get? id = some client)
    hentered

/-- The table of clients is what is left of the registrations, in their order. -/
structure Ledger (kind : ClientKind σ) (first : History σ) (operations : List Operation) :
    Prop where
  /-- No id is taken twice. -/
  nodup : (first.run kind operations).stage.registry.ids.Nodup
  /-- Every entry goes back to a registration. -/
  enrolled : ∀ {entry}, entry ∈ (first.run kind operations).stage.registry.clients →
    ∃ moment, Enrolled kind first operations moment entry
  /-- The entries stand in the order of their registrations. -/
  ordered : (first.run kind operations).stage.registry.clients.Pairwise
    (EnrolledBefore kind first operations)

/-- What is left of a table is kept in order by an operation that only takes clients out. -/
theorem Ledger.shrink (h : Ledger kind first operations)
    (hshrinks : Shrinks (first.run kind operations).stage
      (first.run kind (operations ++ [operation])).stage) :
    Ledger kind first (operations ++ [operation]) := by
  have hnodup : (first.run kind (operations ++ [operation])).stage.registry.ids.Nodup :=
    h.nodup.sublist (hshrinks.map Prod.fst)
  have hstill {entry : String × Nat} {moment : Nat}
      (hentry : entry ∈ (first.run kind (operations ++ [operation])).stage.registry.clients)
      (henrolled : Enrolled kind first operations moment entry) :
      Enrolled kind first (operations ++ [operation]) moment entry :=
    henrolled.concat (Assoc.get?_of_mem hnodup hentry)
  refine ⟨hnodup, fun hentry => ?_, ?_⟩
  · obtain ⟨moment, henrolled⟩ := h.enrolled (hshrinks.subset hentry)
    exact ⟨moment, hstill hentry henrolled⟩
  · refine (h.ordered.sublist hshrinks).imp_of_mem ?_
    rintro entry other hentry hother ⟨moment, later, hlt, henrolled, henrolled'⟩
    exact ⟨moment, later, hlt, hstill hentry henrolled, hstill hother henrolled'⟩

/-- A client that is entered at the end of the table comes after all others. -/
theorem Ledger.enter (h : Ledger kind first operations) {client : Nat} {id : String}
    (hid : id = kind.id (first.run kind operations).stage.clients.1 client)
    (hvacant : (first.run kind operations).stage.registry.get? id = none)
    (hentered : (first.run kind (operations ++ [.register client])).stage.registry.clients =
      (first.run kind operations).stage.registry.clients ++ [(id, client)]) :
    Ledger kind first (operations ++ [.register client]) := by
  -- the id was free, so entering the client is inserting it
  have hnodup :
      (first.run kind (operations ++ [.register client])).stage.registry.ids.Nodup := by
    have hinserted := Assoc.nodup_keys_insert h.nodup id client
    rw [Assoc.insert_of_not_mem (Assoc.not_mem_keys_of_get?_eq_none hvacant), ← hentered]
      at hinserted
    exact hinserted
  have hthere {entry : String × Nat}
      (hentry : entry ∈ (first.run kind operations).stage.registry.clients ++ [(id, client)]) :
      (first.run kind (operations ++ [.register client])).stage.registry.get? entry.1 =
        some entry.2 :=
    Assoc.get?_of_mem hnodup (hentered ▸ hentry)
  -- those who were enrolled before still are, at the same moments
  have hold {entry : String × Nat} {moment : Nat}
      (hentry : entry ∈ (first.run kind operations).stage.registry.clients)
      (henrolled : Enrolled kind first operations moment entry) :
      Enrolled kind first (operations ++ [.register client]) moment entry :=
    henrolled.concat (hthere (List.mem_append_left _ hentry))
  have hnew : Enrolled kind first (operations ++ [.register client]) operations.length
      (id, client) :=
    enrolled_last hid hvacant (hthere (List.mem_append_right _ (List.mem_singleton_self _)))
  refine ⟨hnodup, fun hentry => ?_, ?_⟩
  · rw [hentered, List.mem_append, List.mem_singleton] at hentry
    rcases hentry with hentry | rfl
    · obtain ⟨moment, henrolled⟩ := h.enrolled hentry
      exact ⟨moment, hold hentry henrolled⟩
    · exact ⟨_, hnew⟩
  · rw [hentered, List.pairwise_append]
    refine ⟨h.ordered.imp_of_mem ?_, List.pairwise_singleton _ _, ?_⟩
    · rintro entry other hentry hother ⟨moment, later, hlt, henrolled, henrolled'⟩
      exact ⟨moment, later, hlt, hold hentry henrolled, hold hother henrolled'⟩
    · intro entry hentry other hother
      obtain ⟨moment, henrolled⟩ := h.enrolled hentry
      cases List.mem_singleton.1 hother
      exact ⟨moment, operations.length, henrolled.lt, hold hentry henrolled, hnew⟩

/-- The table of clients is in order after any operations. -/
theorem ledger_run (kind : ClientKind σ) (world : World) (clients : σ)
    (operations : List Operation) : Ledger kind (.fresh world clients) operations := by
  induction operations using List.reverseRecOn with
  | nil => exact ⟨List.nodup_nil, nofun, List.Pairwise.nil⟩
  | append_singleton operations operation ih =>
    -- the last operation takes clients out, or enters one at the end
    rcases clients_after kind ((History.fresh world clients).run kind operations) operation with
      hshrinks | ⟨client, rfl, hvacant, hentered⟩
    · rw [← History.run_concat] at hshrinks
      exact ih.shrink hshrinks
    · rw [← History.run_concat] at hentered
      exact ih.enter rfl hvacant hentered

end Enrolled

/-! ### What can be relied on -/

/-- After any operations, whichever starts and stops failed: no id is taken twice, and the table
lists the clients in the order of their registrations. A client whose id is taken is not asked to
start and nothing changes; one that does not start leaves the registry as it was. A client that is
restarted stays registered. Disposing all clients stops each of them once, in order, and empties the
table; it ends well while the time of day can be written. -/
theorem registry_orderly (kind : ClientKind σ) (hordinary : StopsOrdinarily kind) (world : World)
    (clients : σ) (operations : List Operation) :
    let first := History.fresh world clients
    let stage := (first.run kind operations).stage
    stage.registry.ids.Nodup ∧
      (∀ entry ∈ stage.registry.clients,
        ∃! moment, Enrolled kind first operations moment entry) ∧
      stage.registry.clients.Pairwise (EnrolledBefore kind first operations) ∧
      (∀ client, stage.registry.get? (kind.id stage.clients.1 client) ≠ none →
        ∃ failure, (register (logged kind) client).perform stage = (.error failure, stage)) ∧
      (∀ client failure, stage.registry.get? (kind.id stage.clients.1 client) = none →
        ((kind.start client).perform (stage.world, stage.clients.1)).1 = .error failure →
          let refused := (register (logged kind) client).perform stage
          refused.1 = .error failure ∧ refused.2.registry = stage.registry) ∧
      (∀ id, ((restart (logged kind) id).perform stage).2.registry = stage.registry) ∧
      let disposed := (disposeAll (logged kind)).perform stage
      disposed.2.world.Dated →
        disposed.1 = .ok () ∧ disposed.2.registry.clients = [] ∧
          disposed.2.clients.2 =
            stage.clients.2 ++ stage.registry.clients.map fun entry => .stop entry.2 := by
  intro first stage
  have hledger := ledger_run kind world clients operations
  refine ⟨hledger.nodup, fun entry hentry => ?_, hledger.ordered, fun client htaken => ?_,
    fun client failure hfree hstart => ?_, fun id => ?_, ?_⟩
  · obtain ⟨moment, henrolled⟩ := hledger.enrolled hentry
    exact ⟨moment, henrolled, fun _ h => h.unique henrolled⟩
  · exact register_taken (Option.isSome_iff_ne_none.2 htaken)
  · exact register_unstarted hfree hstart
  · exact sameRegistry_restart (logged kind) id stage
  · intro disposed hdated
    have hall : (unregisterEach (logged kind) (Assoc.keys stage.registry.clients)).perform stage =
        (disposed.1, disposed.2) := rfl
    exact unregisterEach_dated hordinary hledger.nodup rfl hall hdated

/-- Clients that do not stop; the third does not start either. -/
def stubborn : ClientKind Unit where
  id _ client := if client = 0 then "julia" else "julia-md"
  start client := if client = 2 then throw .timedOut else pure ()
  stop _ := throw (.badValue "the server is gone")

/-- Of four clients one does not start and one has an id that is taken. The other two are registered
in order, and stopped in order although they fail. -/
theorem stubborn_stopped :
    let operations := [.register 0, .register 2, .register 1, .restart "julia", .register 3]
    let stage := ((History.fresh default ()).run stubborn operations).stage
    let disposed := (disposeAll (logged stubborn)).perform stage
    StopsOrdinarily stubborn ∧ stage.registry.clients = [("julia", 0), ("julia-md", 1)] ∧
      disposed.1 = .ok () ∧ disposed.2.registry.clients = [] ∧
        disposed.2.clients.2 = stage.clients.2 ++ [.stop 0, .stop 1] := by
  intro operations stage disposed
  have hordinary : StopsOrdinarily stubborn := by
    rintro client state failure ⟨⟩
    rfl
  obtain ⟨-, -, -, -, -, -, hdisposed⟩ := registry_orderly stubborn hordinary default () operations
  have hdated : disposed.2.world.Dated := by decide +kernel
  exact ⟨hordinary, rfl, hdisposed hdated⟩

end JuliaSession.Registry
