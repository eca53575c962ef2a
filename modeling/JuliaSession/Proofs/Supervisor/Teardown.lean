import Mathlib.Data.List.Infix
import JuliaSession.Proofs.Supervisor.Outcomes

/-!
# Three ways to tear a session down

A session ends when the supervisor is disposed, when the extension is torn down and when the
registry disposes all clients. The three overlap, and may come in any order and as often as they
like; still every client is told to stop at most once, and what the supervisor leaves behind when it
is disposed is the same each time.

* `Registry.tally`: how often a client stands in the registry or was told to stop. No disposal lets
  it grow (`Registry.Ebbs`), so a client that is registered once is told to stop once at most.
* `Tended`: what holds between two deeds while the time of day can be written (`tended_run`).
* `dispose_leaves_nothing`: what a disposal of the supervisor leaves behind, whatever was done
  before, and how the next start goes.
-/

namespace JuliaSession

open Step (Leads)
open Registry (Call)

variable {σ α : Type} {kind : SessionKind σ} {census : Census σ}

/-! ### Clients that log their calls -/

/-- The census of the clients, beside the log of the calls to them. -/
def Census.logged (census : Census σ) : Census (σ × List Call) where
  count clients := census.count clients.1
  texts clients := census.texts clients.1

/-- What is done with clients beyond starting and stopping them is done behind the log. -/
theorem Registry.within_cases {step : Step (World × σ) α} {before after : World × σ × List Call}
    {result : Except Failure α} (h : (within step).perform before = (result, after)) :
    step.perform (before.1, before.2.1) = (result, after.1, after.2.1) ∧
      after.2.2 = before.2.2 := by
  cases h
  exact ⟨rfl, rfl⟩

/-- A step that is taken behind the log leaves the log as it is. -/
theorem Registry.perform_within {step : Step (World × σ) α} {world : World} {clients : σ}
    {result : Except Failure α} {after : World × σ}
    (h : step.perform (world, clients) = (result, after)) (calls : List Call) :
    (within step).perform (world, clients, calls) = (result, after.1, after.2, calls) := by
  unfold within
  rw [Step.perform_onPart, h]

/-- A client that is started is started behind the log, which says so. -/
theorem Registry.start_cases {client : Nat} {before after : World × σ × List Call}
    {result : Except Failure Unit} (h : (kind.logged.start client).perform before = (result, after)) :
    (kind.start client).perform (before.1, before.2.1) = (result, after.1, after.2.1) ∧
      after.2.2 = before.2.2 ++ [.start client] := by
  cases h
  exact ⟨rfl, rfl⟩

/-- Clients that keep the laws keep them if the calls to them are logged. -/
theorem SessionKind.Lawful.logged (h : kind.Lawful census) :
    kind.logged.Lawful census.logged where
  create_ok hcreate := h.create_ok (Registry.within_cases hcreate).1
  create_error server options := fun (world, clients, _) failure after hcreate =>
    let same := h.create_error server options (world, clients) failure _
      (Registry.within_cases hcreate).1
    ⟨same.count, same.texts⟩
  start client := fun (world, clients, _) =>
    ⟨(h.start client (world, clients)).count, (h.start client (world, clients)).texts⟩
  stop client := fun (world, clients, _) =>
    ⟨(h.stop client (world, clients)).count, (h.stop client (world, clients)).texts⟩
  awaitReady client := fun (world, clients, _) =>
    ⟨(h.awaitReady client (world, clients)).count, (h.awaitReady client (world, clients)).texts⟩
  serveTexts hmade hserve :=
    let sets := h.serveTexts hmade (Registry.within_cases hserve).1
    ⟨sets.count, sets.texts⟩
  refuseTexts {client before} hserves := by
    obtain ⟨world, clients, calls⟩ := before
    have hserves : census.texts ((world, clients) : World × σ).2 client =
        some Sessions.textHandler := hserves
    obtain ⟨after, hrefuse, hcount, htexts⟩ := h.refuseTexts hserves
    exact ⟨(after.1, after.2, calls), Registry.perform_within hrefuse calls, hcount, htexts⟩

/-- Clients that can be connected can be connected if the calls to them are logged. -/
theorem SessionKind.Delivers.logged (h : kind.Delivers) : kind.logged.Delivers := by
  rintro server options before client ⟨launched, clients, calls⟩ started hcreate hstart world
  obtain ⟨ready, served, hready, hserve⟩ :=
    h (Registry.within_cases hcreate).1 (Registry.start_cases hstart).1 world
  exact ⟨(ready.1, ready.2, started.2.2), (served.1, served.2, started.2.2),
    Registry.perform_within hready _, Registry.perform_within hserve _⟩

/-! ### Taking clients out -/

namespace Registry

/-- How often a client stands in the registry or was told to stop. -/
def tally (client : Nat) (stage : Stage (σ × List Call)) : Nat :=
  stage.clients.2.count (.stop client) + (stage.registry.clients.map Prod.snd).count client

/-- From one stage to the other there are the same clients, and each answers as before. -/
def SameAnswers (census : Census σ) (before after : Stage σ) : Prop :=
  census.Same (before.world, before.clients) (after.world, after.clients)

instance : Std.Refl (SameAnswers census) := ⟨fun _ => ⟨rfl, rfl⟩⟩

instance : Trans (SameAnswers census) (SameAnswers census) (SameAnswers census) :=
  ⟨fun h h' => ⟨h'.count.trans h.count, h'.texts.trans h.texts⟩⟩

/-- From one stage to the other clients may have left the registry. Each of them was told to stop at
most once for that, nobody else was, and no client answers differently. -/
structure Ebbs (census : Census σ) (before after : Stage (σ × List Call)) : Prop where
  /-- Clients only leave the table. -/
  shrinks : Shrinks before after
  /-- Each client answers as before. -/
  same : SameAnswers census.logged before after
  /-- No client is counted more often. -/
  tally : ∀ client, tally client after ≤ tally client before

instance : Std.Refl (Ebbs census) :=
  ⟨fun _ => ⟨Std.Refl.refl _, Std.Refl.refl _, fun _ => Nat.le_refl _⟩⟩

instance : Trans (Ebbs census) (Ebbs census) (Ebbs census) where
  trans h h' :=
    { shrinks := Trans.trans h.shrinks h'.shrinks
      same := Trans.trans h.same h'.same
      tally := fun client => Nat.le_trans (h'.tally client) (h.tally client) }

theorem ebbs_act (step : Act α) : Leads (Ebbs census) (Stage.act step) :=
  fun _ => ⟨.refl _, ⟨rfl, rfl⟩, fun _ => Nat.le_refl _⟩

/-- What is done to the disposables and the subscriptions leaves the clients alone. -/
theorem ebbs_modifyRegistry {change : Registry → Registry}
    (h : ∀ registry, (change registry).clients = registry.clients) :
    Leads (Ebbs census) (Stage.modifyRegistry change) :=
  .modify fun stage => ⟨by simp [Shrinks, h], ⟨rfl, rfl⟩, fun client => by simp [tally, h]⟩

/-- A client that leaves the table stands in it once less. -/
theorem count_erase {table : Assoc String Nat} {id : String} {resident : Nat}
    (h : Assoc.get? id table = some resident) (client : Nat) :
    ((Assoc.erase id table).map Prod.snd).count client + [resident].count client ≤
      (table.map Prod.snd).count client := by
  induction table with
  | nil => cases h
  | cons entry rest ih =>
    obtain ⟨key, value⟩ := entry
    have hrest : ((Assoc.erase id rest).map Prod.snd).count client ≤
        (rest.map Prod.snd).count client := (List.filter_sublist.map _).count_le _
    have hcons (numbers : List Nat) :
        (value :: numbers).count client = [value].count client + numbers.count client := by
      rw [← List.count_append, List.singleton_append]
    unfold Assoc.get? at h
    unfold Assoc.erase at *
    rw [List.map_cons, hcons]
    by_cases hkey : key = id
    · rw [if_pos hkey] at h
      cases h
      -- further entries under this id, which nothing here rules out, would go as well
      rw [List.filter_cons_of_neg (by simpa using hkey), Nat.add_comm]
      exact Nat.add_le_add_left hrest _
    · rw [if_neg hkey] at h
      rw [List.filter_cons_of_pos (by simpa using hkey), List.map_cons, hcons, Nat.add_assoc]
      exact Nat.add_le_add_left (ih h) _

/-- Taking a client out tells it to stop, and takes it from the table. -/
theorem ebbs_unregister (hlawful : kind.Lawful census) (id : String) :
    Leads (Ebbs census) (unregister kind.logged.toClientKind id) := by
  intro stage
  cases hclient : stage.registry.get? id with
  | none =>
    rw [unregister_vacant hclient]
    exact Std.Refl.refl _
  | some resident =>
    refine ⟨clears_shrinks.unregister _ id stage, ?_, fun client => ?_⟩
    · rw [unregister_occupied hclient]
      have hstop : Leads (SameAnswers census.logged)
          (Stage.withClients (kind.logged.stop resident)) := .onPart
        (hlawful.logged.stop resident) fun h => h
      have hnote : Leads (SameAnswers census.logged)
          (note .info "unregistered language client" id) := fun _ => ⟨rfl, rfl⟩
      exact (hstop.bind fun _ => hnote) { stage with registry := stage.registry.leave id }
    -- the client leaves the table when it is told to stop, so it is counted once either way
    · have hcalls := calls_unregister kind.toClientKind hclient
      have hregistry := registry_unregister kind.logged.toClientKind id stage
      rw [hclient] at hregistry
      replace hregistry := hregistry.resolve_right fun hnone => nomatch hnone.1
      have hcount := count_erase hclient client
      have hstop : [Call.stop resident].count (.stop client) = [resident].count client := by
        rw [List.count_singleton, List.count_singleton]
        congr 1
        simp
      unfold tally
      rw [hregistry]
      change (((unregister (Registry.logged kind.toClientKind) id).perform stage).2.clients.2).count _
        + _ ≤ _
      rw [hcalls, List.count_append, hstop, Nat.add_assoc, Nat.add_comm ([resident].count client)]
      exact Nat.add_le_add_left hcount _

section Disposals

variable (hlawful : kind.Lawful census)

include hlawful

theorem ebbs_tearDown (teardown : Teardown) :
    Leads (Ebbs census) (tearDown kind.logged.toClientKind teardown) := by
  cases teardown with
  | unregister id => exact ebbs_unregister hlawful id
  | foreign name fault =>
    refine .bind (ebbs_act _) fun _ => ?_
    cases fault with
    | none => exact .pure _
    | some failure => exact .throw _

theorem ebbs_dispose (handle : Nat) :
    Leads (Ebbs census) (dispose kind.logged.toClientKind handle) := by
  refine .bind .get fun stage => ?_
  split
  · exact .bind (ebbs_modifyRegistry fun _ => rfl) fun _ => ebbs_tearDown hlawful _
  · exact .pure _

theorem ebbs_unregisterEach (ids : List String) :
    Leads (Ebbs census) (unregisterEach kind.logged.toClientKind ids) := by
  induction ids with
  | nil => exact .pure _
  | cons id rest ih =>
    exact .bind (leads_guarded (ebbs_unregister hlawful id) fun _ => ebbs_act _) fun _ => ih

theorem ebbs_disposeAll : Leads (Ebbs census) (disposeAll kind.logged.toClientKind) :=
  .bind .get fun _ => ebbs_unregisterEach hlawful _

theorem ebbs_disposeLast (count : Nat) :
    Leads (Ebbs census) (disposeLast kind.logged.toClientKind count) := by
  induction count with
  | zero => exact .pure _
  | succ count ih =>
    refine .bind .get fun stage => ?_
    split
    · exact .pure _
    · refine .bind (ebbs_modifyRegistry fun _ => rfl) fun _ => ?_
      exact .bind (leads_guarded (ebbs_dispose hlawful _) fun _ => ebbs_act _) fun _ => ih

theorem ebbs_disposeSubscriptions :
    Leads (Ebbs census) (disposeSubscriptions kind.logged.toClientKind) :=
  .bind .get fun _ => ebbs_disposeLast hlawful _

end Disposals

end Registry

namespace Supervisor

variable {supervisor : Supervisor} {id : String} {before after : Activation (σ × List Call)}

/-! ### Between two deeds -/

/-- What the clients answer requests for texts with while the supervisor holds a session, or none. -/
def answering : Option Running → Nat → Option Handler
  | none => fun _ => none
  | some session => Function.update (fun _ => none) session.client (some Sessions.textHandler)

/-- The session of the supervisor is the only one that is looked after: nobody else stands in the
registry or answers requests for texts, and nobody was told to stop twice. -/
structure Tended (census : Census σ) (activation : Activation (σ × List Call)) : Prop where
  /-- A client stands in the registry or was told to stop, at most once. -/
  once : ∀ client, Registry.tally client activation.stage ≤ 1
  /-- A client that is not made yet was not told to stop, and does not stand in the registry. -/
  unmade : ∀ {client}, census.count activation.stage.clients.1 ≤ client →
    Registry.tally client activation.stage = 0
  /-- Without a session nobody stands in the registry. -/
  vacant : activation.session = none → activation.stage.registry.clients = []
  /-- The client of the session was made. -/
  made : ∀ {session}, activation.session = some session →
    session.client < census.count activation.stage.clients.1
  /-- The session serves. -/
  serves : ∀ {session}, activation.session = some session → session.serving = true
  /-- Nobody but the client of the session answers requests for texts. -/
  answers : census.texts activation.stage.clients.1 = answering activation.session

theorem tended_untouched {clients : σ} (hsilent : ∀ client, census.texts clients client = none)
    (world : World) : Tended census (untouched world clients) where
  once _ := Nat.zero_le _
  unmade _ := rfl
  vacant _ := rfl
  made h := nomatch h
  serves h := nomatch h
  answers := funext hsilent

/-- A disposal that leaves the session alone keeps everything in order. -/
theorem Tended.ebb (h : Tended census before) (hebbs : Registry.Ebbs census before.stage after.stage)
    (hsession : after.session = before.session) : Tended census after where
  once client := Nat.le_trans (hebbs.tally client) (h.once client)
  unmade {client} hle := by
    rw [show census.count _ = _ from hebbs.same.count] at hle
    exact Nat.le_zero.1 (h.unmade hle ▸ hebbs.tally client)
  vacant hnone := by
    have hshrinks : after.stage.registry.clients.Sublist _ := hebbs.shrinks
    rw [h.vacant (hsession ▸ hnone)] at hshrinks
    exact List.sublist_nil.1 hshrinks
  made {session} hholds := by
    rw [hsession] at hholds
    rw [show census.count _ = _ from hebbs.same.count]
    exact h.made hholds
  serves {session} hholds := by
    rw [hsession] at hholds
    exact h.serves hholds
  answers := by
    rw [hsession, show census.texts _ = _ from hebbs.same.texts]
    exact h.answers

/-! ### Starts -/

section Starts

variable {stage ended enlisted : Stage σ} {client handle : Nat}
  {outcome : Except Failure Nat} {cause : Cause}

/-- A client that is registered was made for that. -/
theorem Enlists.counts (hlawful : kind.Lawful census)
    (h : supervisor.Enlists kind stage client outcome enlisted) :
    client = census.count stage.clients ∧
      census.count enlisted.clients = census.count stage.clients + 1 ∧
        census.texts enlisted.clients =
          Function.update (census.texts stage.clients) client none := by
  obtain ⟨made, ⟨_, planned, -, hcreate⟩, hregister⟩ := h
  obtain ⟨hclient, hcount, htexts⟩ := hlawful.create_ok hcreate
  refine ⟨hclient, ?_⟩
  rcases Registry.register_course hregister with
    ⟨-, -, rfl⟩ | ⟨-, started, world, hstart, hclients, -⟩
  · exact ⟨hcount, htexts⟩
  · have hsame := (hlawful.start client).ends hstart
    rw [hclients]
    exact ⟨hsame.count.trans hcount, hsame.texts.trans htexts⟩

/-- A start that fails leaves no client behind that answers requests for texts. -/
theorem FailsBy.silent (hlawful : kind.Lawful census)
    (h : supervisor.FailsBy kind stage cause ended)
    (hsilent : census.texts stage.clients = fun _ => none) :
    census.count stage.clients ≤ census.count ended.clients ∧
      census.texts ended.clients = fun _ => none := by
  cases h with
  | disabled => exact ⟨Nat.le_refl _, hsilent⟩
  | planning => exact ⟨Nat.le_refl _, hsilent⟩
  | making h =>
    obtain ⟨_, planned, -, hcreate⟩ := h
    have hsame := hlawful.create_error _ _ _ _ _ hcreate
    exact ⟨Nat.le_of_eq hsame.count.symm, hsame.texts.trans hsilent⟩
  | registration h =>
    obtain ⟨-, hcount, htexts⟩ := h.counts hlawful
    rw [hsilent] at htexts
    exact ⟨hcount ▸ Nat.le_succ _, htexts.trans (Function.update_eq_self _ _)⟩

end Starts

section Starts

variable {stage ended enlisted : Stage (σ × List Call)} {client : Nat}
  {outcome : Except Failure Nat} {cause : Cause}

/-- To register a client tells nobody to stop. -/
theorem Enlists.stops (h : supervisor.Enlists kind.logged stage client outcome enlisted)
    (other : Nat) :
    enlisted.clients.2.count (.stop other) = stage.clients.2.count (.stop other) := by
  obtain ⟨made, ⟨_, planned, -, hcreate⟩, hregister⟩ := h
  have hmade : made.2.2 = stage.clients.2 := (Registry.within_cases hcreate).2
  rcases Registry.register_course hregister with
    ⟨-, -, rfl⟩ | ⟨-, _, started, hstart, hclients, -⟩
  · rw [hmade]
  · rw [hclients, (Registry.start_cases hstart).2, List.count_append, hmade]
    rfl

/-- A start that fails tells nobody to stop. -/
theorem FailsBy.stops (h : supervisor.FailsBy kind.logged stage cause ended) (other : Nat) :
    ended.clients.2.count (.stop other) = stage.clients.2.count (.stop other) := by
  cases h with
  | disabled => rfl
  | planning => rfl
  | making h =>
    obtain ⟨_, planned, -, hcreate⟩ := h
    rw [(Registry.within_cases hcreate).2]
  | registration h => exact h.stops other

end Starts

/-- A start that fails keeps everything in order. -/
theorem Tended.fails (h : Tended census before) (hlawful : kind.Lawful census)
    (hvacant : before.session = none) (hfails : supervisor.Fails kind.logged before.stage none after)
    (hdated : after.stage.world.Dated) : Tended census after := by
  have hregistry := hfails.registry hdated
  obtain ⟨cause, ended, hcause, hafter, -⟩ := hfails
  have hsilent : census.logged.texts before.stage.clients = fun _ => none := by
    rw [show census.logged.texts _ = _ from h.answers, hvacant]
    rfl
  obtain ⟨hcount, htexts⟩ := hcause.silent hlawful.logged hsilent
  -- a client that was made all the same is not in the registry, and was told to start at most
  have htally (client : Nat) :
      Registry.tally client after.stage = Registry.tally client before.stage := by
    unfold Registry.tally
    rw [hregistry, ← hcause.stops client, hafter]
  have hsession : after.session = none := by rw [hafter]
  have hclients : after.stage.clients = ended.clients := by rw [hafter]
  exact
    { once := fun client => htally client ▸ h.once client
      unmade := fun {client} hle => by
        rw [hclients] at hle
        rw [htally]
        exact h.unmade (Nat.le_trans hcount hle)
      vacant := fun _ => hregistry ▸ h.vacant hvacant
      made := fun hholds => nomatch hsession.symm.trans hholds
      serves := fun hholds => nomatch hsession.symm.trans hholds
      answers := by
        rw [hclients, hsession]
        exact htexts }

/-- A client that was registered stands at the end of the table. -/
theorem Enlists.clients {stage enlisted : Stage σ} {client handle : Nat}
    (h : supervisor.Enlists kind stage client (.ok handle) enlisted) :
    ∃ id, enlisted.registry.clients = stage.registry.clients ++ [(id, client)] := by
  obtain ⟨made, -, hregister⟩ := h
  obtain ⟨hfree, -, hregistry⟩ := Registry.register_ok hregister
  refine ⟨_, (congrArg Registry.clients hregistry).trans (Registry.clients_enter ?_ client)⟩
  rw [Registry.get?_handOut, hfree]

/-- A client that is registered is counted once more, and nobody else is. -/
theorem Enlists.tally {stage enlisted : Stage (σ × List Call)} {client handle : Nat}
    (h : supervisor.Enlists kind.logged stage client (.ok handle) enlisted) (other : Nat) :
    Registry.tally other enlisted = Registry.tally other stage + [client].count other := by
  obtain ⟨id, htable⟩ := h.clients
  unfold Registry.tally
  rw [h.stops, htable, List.map_append, List.count_append, Nat.add_assoc]
  rfl

/-- A client that is not made yet can be counted once more. -/
theorem Tended.tally_newcomer (h : Tended census before) (other : Nat) :
    Registry.tally other before.stage +
      [census.count before.stage.clients.1].count other ≤ 1 := by
  by_cases hother : other = census.count before.stage.clients.1
  · rw [hother, h.unmade (Nat.le_refl _), List.count_singleton_self]
  · rw [List.count_singleton, if_neg (by simpa using Ne.symm hother)]
    exact h.once other

/-- A start that comes to a session keeps everything in order: the client is a new one. -/
theorem Tended.opens (h : Tended census before) (hlawful : kind.Lawful census)
    (hvacant : before.session = none) {client handle : Nat} {enlisted : Stage (σ × List Call)}
    {world : World} {ready served : World × σ × List Call}
    (henlists : supervisor.Enlists kind.logged before.stage client (.ok handle) enlisted)
    (hready : (kind.logged.awaitReady client).perform (world, enlisted.clients) = (.ok (), ready))
    (hserve : (kind.logged.serveTexts client).perform ready = (.ok (), served))
    (hsession : after.session = some ⟨client, handle, true⟩)
    (hclients : after.stage.clients = served.2)
    (hregistry : after.stage.registry = enlisted.registry.keep handle) : Tended census after := by
  obtain ⟨hclient, hcount, htexts⟩ := henlists.counts hlawful.logged
  have hsame := (hlawful.logged.awaitReady client).ends hready
  have hmade : census.logged.count ready.2 = census.logged.count before.stage.clients + 1 :=
    hsame.count.trans hcount
  have hsets := hlawful.logged.serveTexts (by rw [hmade, hclient]; exact Nat.lt_succ_self _) hserve
  have hcounts : census.count after.stage.clients.1 = census.count before.stage.clients.1 + 1 := by
    rw [hclients]
    exact hsets.count.trans hmade
  have hcalls : after.stage.clients.2 = enlisted.clients.2 := by
    rw [hclients, (Registry.within_cases hserve).2, (Registry.within_cases hready).2]
  -- connecting changes neither the table nor the calls, so only the start counts
  have htally (other : Nat) : Registry.tally other after.stage =
      Registry.tally other before.stage + [client].count other := by
    rw [← henlists.tally other]
    unfold Registry.tally
    rw [hcalls, hregistry]
    rfl
  have hanswers : census.texts after.stage.clients.1 = answering after.session := by
    rw [hsession, hclients]
    refine hsets.texts.trans ?_
    rw [show census.logged.texts ready.2 = _ from hsame.texts.trans htexts, Function.update_idem,
      show census.logged.texts before.stage.clients = _ from h.answers, hvacant]
    rfl
  refine
    { once := fun other => ?_
      unmade := fun {other} hle => ?_
      vacant := fun hnone => nomatch hsession.symm.trans hnone
      made := fun {session} hholds => ?_
      serves := fun {session} hholds => ?_
      answers := hanswers }
  · rw [htally, hclient]
    exact h.tally_newcomer other
  · rw [hcounts] at hle
    have hne : client ≠ other := Nat.ne_of_lt (Nat.lt_of_lt_of_le (hclient ▸ Nat.lt_succ_self _) hle)
    rw [htally, h.unmade (Nat.le_of_succ_le hle), List.count_singleton, if_neg (by simpa using hne)]
  · cases hsession.symm.trans hholds
    rw [hcounts]
    exact hclient ▸ Nat.lt_succ_self _
  · cases hsession.symm.trans hholds
    rfl

/-- A start of a supervisor without a session comes to a client that was made for it, or fails for a
cause. Either way everything stays in order. -/
theorem Tended.start_vacant (h : Tended census before) (hlawful : kind.Lawful census)
    (hdelivers : kind.Delivers) (hvacant : before.session = none)
    {result : Except Failure (Option Nat)}
    (hstart : (supervisor.start kind.logged).perform before = (result, after))
    (hdated : after.stage.world.Dated) :
    Tended census after ∧
      ((∃ handle enlisted, supervisor.Enlists kind.logged before.stage
            (census.count before.stage.clients.1) (.ok handle) enlisted ∧
          result = .ok (some (census.count before.stage.clients.1))) ∨
        (∀ client, result ≠ .ok (some client)) ∧
          supervisor.Fails kind.logged before.stage none after) := by
  rcases start_course hvacant hstart hdated with
    ⟨-, client, handle, spec, enlisted, world, outcome, henlists, -, hconnect, hresult⟩ |
      ⟨hnone, hfails⟩
  -- the clients deliver, so a registered client can be connected and is the newest one
  · obtain ⟨made, started, ⟨_, _, -, hcreate⟩, hstarted, hclients⟩ := henlists.started
    obtain ⟨ready, served, hready, hserve⟩ := hdelivers.logged hcreate hstarted world
    rw [← hclients] at hready
    obtain ⟨rfl, hsession, hserved, hregistry⟩ := connect_dated hready hserve hconnect hdated
    have hclient : client = census.count before.stage.clients.1 :=
      (henlists.counts hlawful.logged).1
    exact ⟨h.opens hlawful hvacant henlists hready hserve hsession hserved hregistry,
      .inl ⟨handle, enlisted, hclient ▸ henlists, hclient ▸ hresult⟩⟩
  · exact ⟨h.fails hlawful hvacant hfails hdated, .inr ⟨hnone, hfails⟩⟩

/-- A start keeps everything in order. -/
theorem Tended.start (h : Tended census before) (hlawful : kind.Lawful census)
    (hdelivers : kind.Delivers) {result : Except Failure (Option Nat)}
    (hstart : (supervisor.start kind.logged).perform before = (result, after))
    (hdated : after.stage.world.Dated) : Tended census after := by
  cases hsession : before.session with
  | none => exact (h.start_vacant hlawful hdelivers hsession hstart hdated).1
  | some session =>
    have hafter := (start_held hsession hstart).1
    refine h.ebb ?_ (by rw [hafter])
    rw [hafter]
    exact ⟨.refl _, ⟨rfl, rfl⟩, fun _ => Nat.le_refl _⟩

/-! ### Disposals -/

/-- A disposal of the supervisor tells the client of its session to refuse requests for texts and
disposes the handle. -/
theorem Tended.dispose_course (h : Tended census before) (hlawful : kind.Lawful census)
    {session : Running} (hsession : before.session = some session) {result : Except Failure Unit}
    (hdispose : (Supervisor.dispose kind.logged).perform before = (result, after)) :
    ∃ told, census.logged.Sets session.client none (before.stage.world, before.stage.clients) told ∧
      told.2.2 = before.stage.clients.2 ∧
        let released : Stage (σ × List Call) :=
          ⟨told.1, told.2, before.stage.registry.release session.registration⟩
        after = ⟨((Registry.dispose kind.logged.toClientKind session.registration).perform
          released).2, none⟩ := by
  let behind : World × σ × List Call := (before.stage.world, before.stage.clients)
  have hserves : census.logged.texts behind.2 session.client = some Sessions.textHandler := by
    rw [show census.logged.texts _ = _ from h.answers, hsession, answering, Function.update_self]
  -- the client of the session answers requests for texts, so it can be told to refuse them
  obtain ⟨told, hrefuse, hsets⟩ := hlawful.logged.refuseTexts hserves
  refine ⟨told, hsets, (Registry.within_cases hrefuse).2, ?_⟩
  have hrun := perform_withClients before hrefuse
  unfold Supervisor.dispose at hdispose
  rw [Step.perform_get_bind, hsession] at hdispose
  dsimp only at hdispose
  rw [h.serves hsession, if_pos rfl, Step.perform_bind_ok hrun, perform_setSession_bind,
    perform_modifyRegistry_bind] at hdispose
  cases hdispose
  rfl

/-- Once the registration of the session is disposed nobody stands in the registry, whoever ended the
session. -/
theorem clients_disposed {session : Running} (halone : Alone id before)
    (hphase : Held id session before ∨ Lost id session before) (told : World × σ × List Call) :
    let released : Stage (σ × List Call) :=
      ⟨told.1, told.2, before.stage.registry.release session.registration⟩
    ((Registry.dispose kind.logged.toClientKind session.registration).perform
      released).2.registry.clients = [] := by
  intro released
  have hvacates := Registry.clears_vacates.dispose kind.logged.toClientKind session.registration
    released
  refine Assoc.eq_nil_of_get?_eq_none fun other => ?_
  by_cases hother : other = id
  · rw [hother]
    -- the handle works once: it empties the place of a held session, a lost one left it empty
    rcases hphase with hheld | hlost
    · exact Registry.get?_dispose kind.logged.toClientKind hheld.armed
    · exact hvacates.vacant hlost.vacant
  · exact hvacates.vacant (halone hother)

/-- A disposal of the supervisor leaves nobody in the registry, whoever ended the session. -/
theorem Tended.dispose_held (h : Tended census before) (hlawful : kind.Lawful census)
    {session : Running} (hsession : before.session = some session) (halone : Alone id before)
    (hphase : Held id session before ∨ Lost id session before) {result : Except Failure Unit}
    (hdispose : (Supervisor.dispose kind.logged).perform before = (result, after)) :
    Tended census after ∧ after.session = none ∧ after.stage.registry.clients = [] := by
  obtain ⟨told, hsets, hcalls, rfl⟩ := h.dispose_course hlawful hsession hdispose
  let released : Stage (σ × List Call) :=
    ⟨told.1, told.2, before.stage.registry.release session.registration⟩
  have hebbs := Registry.ebbs_dispose hlawful session.registration released
  have hempty : ((Registry.dispose kind.logged.toClientKind session.registration).perform
      released).2.registry.clients = [] := clients_disposed halone hphase told
  generalize (Registry.dispose kind.logged.toClientKind session.registration).perform
    released = disposed at hebbs hempty ⊢
  -- what the client is told beforehand is not a call, and giving the handle back keeps the table
  have htally (client : Nat) :
      Registry.tally client disposed.2 ≤ Registry.tally client before.stage := by
    refine Nat.le_trans (hebbs.tally client) (Nat.le_of_eq ?_)
    unfold Registry.tally
    rw [hcalls]
    rfl
  refine ⟨?_, rfl, hempty⟩
  exact
    { once := fun client => Nat.le_trans (htally client) (h.once client)
      unmade := fun {client} hle => by
        rw [show census.count _ = _ from hebbs.same.count.trans hsets.count] at hle
        exact Nat.le_zero.1 (h.unmade hle ▸ htally client)
      vacant := fun _ => hempty
      made := nofun
      serves := nofun
      answers := by
        rw [show census.texts _ = _ from hebbs.same.texts.trans hsets.texts,
          show census.logged.texts before.stage.clients = _ from h.answers, hsession]
        unfold answering
        rw [Function.update_idem, Function.update_eq_self_iff] }

/-- Disposals that another owner carries out. -/
theorem Tended.tearDown (h : Tended census before) (hlawful : kind.Lawful census) :
    Tended census (supervisor.carryOut kind before .tearDown) :=
  h.ebb (Registry.ebbs_disposeSubscriptions hlawful before.stage) rfl

theorem Tended.disposeAll (h : Tended census before) (hlawful : kind.Lawful census) :
    Tended census (supervisor.carryOut kind before .disposeAll) :=
  h.ebb (Registry.ebbs_disposeAll hlawful before.stage) rfl

/-! ### Every deed -/

variable {world : World} {clients : σ} {deeds : List Deed}

/-- A disposal of the supervisor keeps everything in order and leaves neither a session nor anybody
in the registry. -/
theorem Tended.dispose (hlawful : kind.Lawful census)
    (hknown : Known supervisor kind id (untouched world clients) deeds)
    (h : Tended census (supervisor.run kind (untouched world clients) deeds)) :
    let disposed := supervisor.run kind (untouched world clients) (deeds ++ [.dispose])
    Tended census disposed ∧ disposed.session = none ∧ disposed.stage.registry.clients = [] := by
  rw [run_concat]
  cases hdispose : (Supervisor.dispose kind.logged).perform
      (supervisor.run kind (untouched world clients) deeds) with
  | mk result after =>
    have hafter : supervisor.carryOut kind (supervisor.run kind (untouched world clients) deeds)
        .dispose = after := congrArg Prod.snd hdispose
    rw [hafter]
    have hheld {session : Running} (hsession : _ = some session)
        (hphase : Held id session _ ∨ Lost id session _) :=
      h.dispose_held hlawful hsession hknown.alone hphase hdispose
    -- without a session there is nothing to dispose of
    cases hknown.phase with
    | held session hphase => exact hheld hphase.holds (.inl hphase)
    | lost session hphase => exact hheld hphase.holds (.inr hphase)
    | idle hidle =>
      unfold Supervisor.dispose at hdispose
      rw [Step.perform_get_bind, hidle.session] at hdispose
      cases hdispose
      exact ⟨h, hidle.session, h.vacant hidle.session⟩

/-- All moments of a run are in order, as far as the time of day can be written at them. -/
theorem tended_run (hlawful : kind.Lawful census) (hdelivers : kind.Delivers)
    (hmakes : kind.MakesUnder id) (hsilent : ∀ client, census.texts clients client = none)
    (hdated : ∀ earlier, earlier <+: deeds →
      (supervisor.run kind (untouched world clients) earlier).stage.world.Dated) :
    Tended census (supervisor.run kind (untouched world clients) deeds) := by
  induction deeds using List.reverseRecOn with
  | nil => exact tended_untouched hsilent world
  | append_singleton deeds deed ih =>
    have hbefore := ih fun earlier hearlier =>
      hdated earlier (hearlier.trans (List.prefix_append deeds [deed]))
    have hknown : Known supervisor kind id (untouched world clients) deeds :=
      known_run hmakes world clients deeds
    have hlast := hdated _ (List.prefix_refl _)
    -- only a start depends on the time of day: a log record without one cuts it short
    rw [run_concat] at hlast ⊢
    cases deed with
    | start => exact hbefore.start hlawful hdelivers rfl hlast
    | tearDown => exact hbefore.tearDown hlawful
    | disposeAll => exact hbefore.disposeAll hlawful
    | dispose =>
      rw [← run_concat]
      exact (hbefore.dispose hlawful hknown).1

/-- Whatever the owners of a session have done in whatever order, and whichever clients failed to
stop: every client was told to stop at most once. After a disposal of the supervisor, also one that
fails, there is no session, the registry is empty, nothing is torn down with the extension and no
client answers requests for texts. If the settings enable the server, the next start plans a launch;
it gives a client back that was made for it, or fails because the launch is not planned or the client
not made or not registered. -/
theorem dispose_leaves_nothing (supervisor : Supervisor) (hlawful : kind.Lawful census)
    (hdelivers : kind.Delivers) (hmakes : kind.MakesUnder id) (world : World)
    (hsilent : ∀ client, census.texts clients client = none) (deeds : List Deed)
    (hdated : ∀ earlier, earlier <+: deeds →
      (supervisor.run kind (untouched world clients) earlier).stage.world.Dated) :
    (∀ client, (supervisor.run kind (untouched world clients) deeds).stage.clients.2.count
        (.stop client) ≤ 1) ∧
      let disposed := supervisor.run kind (untouched world clients) (deeds ++ [.dispose])
      let newcomer := census.count disposed.stage.clients.1
      disposed.session = none ∧ disposed.stage.registry.clients = [] ∧
        disposed.stage.registry.subscriptions = [] ∧
        (∀ client, census.texts disposed.stage.clients.1 client = none) ∧
        (supervisor.settings.enabled = true →
          let started := (supervisor.start kind.logged).perform disposed
          started.2.stage.world.Dated →
            (∃ handle enlisted,
              supervisor.Enlists kind.logged disposed.stage newcomer (.ok handle) enlisted ∧
                started.1 = .ok (some newcomer)) ∨
              (∀ client, started.1 ≠ .ok (some client)) ∧
                ∃ cause ended, cause ≠ .disabled ∧
                  supervisor.FailsBy kind.logged disposed.stage cause ended) := by
  have hbefore : Tended census (supervisor.run kind (untouched world clients) deeds) :=
    tended_run hlawful hdelivers hmakes hsilent hdated
  have hknown : Known supervisor kind id (untouched world clients) deeds :=
    known_run hmakes world clients deeds
  refine ⟨fun client => Nat.le_trans (Nat.le_add_right _ _) (hbefore.once client), ?_⟩
  intro disposed newcomer
  obtain ⟨htended, hnone, hempty⟩ := hbefore.dispose hlawful hknown
  -- no session is held or lost after the disposal, so the supervisor is idle
  have hsubscriptions : disposed.stage.registry.subscriptions = [] := by
    cases hknown.dispose.phase with
    | idle hidle => exact hidle.subscriptions
    | held session hheld => exact nomatch hnone.symm.trans hheld.holds
    | lost session hlost => exact nomatch hnone.symm.trans hlost.holds
  refine ⟨hnone, hempty, hsubscriptions, fun client => ?_, ?_⟩
  · rw [show census.texts _ = _ from htended.answers, show disposed.session = none from hnone]
    rfl
  · intro henabled started hstarted
    obtain ⟨-, hnew | ⟨hfails, cause, ended, hcause, -⟩⟩ :=
      htended.start_vacant hlawful hdelivers hnone rfl hstarted
    · exact .inl hnew
    · refine .inr ⟨hfails, cause, ended, ?_, hcause⟩
      rintro rfl
      cases hcause with
      | disabled hdisabled => exact nomatch henabled.symm.trans hdisabled

/-! ### Clients that do not stop -/

/-- Clients of which only their number is known and what each answers requests for texts with. They
do not stop. -/
def stubborn : SessionKind (Nat × (Nat → Option Handler)) where
  id _ _ := "julia"
  start _ := pure ()
  stop _ := throw (.badValue "the server is gone")
  create _ _ := do
    let (world, count, texts) ← get
    set (world, count + 1, Function.update texts count none)
    return count
  awaitReady _ := pure ()
  serveTexts client := modify fun (world, count, texts) =>
    (world, count, Function.update texts client (some Sessions.textHandler))
  refuseTexts client := modify fun (world, count, texts) =>
    (world, count, Function.update texts client none)

theorem lawful_stubborn : stubborn.Lawful ⟨Prod.fst, Prod.snd⟩ where
  create_ok {server options before after client} h := by
    cases h
    exact ⟨rfl, rfl, rfl⟩
  create_error server options := by
    rintro state failure after ⟨⟩
  start client := .pure _
  stop client := .throw _
  awaitReady client := .pure _
  serveTexts {client before after} _ h := by
    cases h
    exact ⟨rfl, rfl⟩
  refuseTexts {client before} _ := ⟨_, rfl, rfl, rfl⟩

theorem delivers_stubborn : stubborn.Delivers := fun _ _ _ => ⟨_, _, rfl, rfl⟩

theorem makesUnder_stubborn : stubborn.MakesUnder "julia" := fun _ => rfl

/-- What is done to two sessions, each of which is ended by another owner first. -/
def twoSessions : List Deed := [.start, .tearDown, .disposeAll, .dispose, .start, .disposeAll]

/-- Two sessions are ended by other owners, and neither of their clients stops: each was told to stop
once, and once the supervisor is disposed the next start comes to a third client. -/
theorem stubborn_told_once :
    let first := untouched default (0, fun _ => none)
    let ended := simple.run stubborn first twoSessions
    let disposed := simple.run stubborn first (twoSessions ++ [.dispose])
    ended.stage.clients.2 = [.start 0, .stop 0, .start 1, .stop 1] ∧
      ((simple.start stubborn.logged).perform disposed).1 = .ok (some 2) ∧
        (∀ client, ended.stage.clients.2.count (.stop client) ≤ 1) ∧
          disposed.session = none ∧ disposed.stage.registry.clients = [] := by
  have hdated : ∀ earlier ∈ twoSessions.inits,
      (simple.run stubborn (untouched default (0, fun _ => none)) earlier).stage.world.Dated := by
    decide +kernel
  obtain ⟨honce, hnone, hempty, -⟩ := dispose_leaves_nothing simple lawful_stubborn
    delivers_stubborn makesUnder_stubborn default (fun _ => rfl) twoSessions
    fun earlier hearlier => hdated earlier ((List.mem_inits _ _).2 hearlier)
  exact ⟨by decide +kernel, by decide +kernel, honce, hnone, hempty⟩

/-- A supervisor whose settings disable the server. -/
def disabled : Supervisor :=
  { simple with
    settings := { enabled := false }
    planner := fun storage extension => do
      Act.record (.plan storage extension)
      return { command := "julia" } }

/-- If the settings disable the server, the start after a disposal plans nothing and gives no client
back, although a launch can be planned. -/
theorem disabled_plans_nothing :
    let disposed := disabled.run stubborn (untouched default (0, fun _ => none)) [.start, .dispose]
    let started := (disabled.start stubborn.logged).perform disposed
    let planned := disabled.plan.perform disposed.stage.world
    started.1 = .ok none ∧ started.2.stage.world.events.isEmpty ∧
      planned.1.toOption.isSome ∧ planned.2.events.length = 1 := by
  decide +kernel

end Supervisor

end JuliaSession
