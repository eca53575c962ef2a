import Mathlib.Data.List.Dedup
import JuliaSession.Proofs.Registry.Enrolment

/-!
# Tearing the extension down

The list of subscriptions may name a disposable several times, and disposables that are disposed
already. Tearing the extension down empties the list from its end. A disposable has its turn at its
last place; at its other places it is disposed already, and nothing happens there.

* `due`: the disposables that have a turn, in the order of their turns (`lineup_due`).
* `EndsOrdinarily`: a teardown may fail, but not because somebody asks for an end.
* `withHandles`: teardowns neither read nor change the disposables and the list.
* `perform_disposeLast`: emptying the list carries out the teardowns that are due.
* `teardown_complete`: what can be relied on after the extension was torn down.
-/

namespace JuliaSession.Registry

open Step (Erases)

variable {σ α : Type} {kind : ClientKind σ}

/-! ### Whose turn it is -/

/-- The teardown of a disposable, unless it is disposed. -/
def armed? (disposables : List (Option Teardown)) (handle : Nat) : Option Teardown :=
  disposables[handle]?.join

/-- The disposables on the list that are not disposed, each with its teardown, in the order of their
last places, the last one first. -/
def due (disposables : List (Option Teardown)) (subscriptions : List Nat) :
    List (Nat × Teardown) :=
  (subscriptions.dedup.filterMap fun handle =>
    (armed? disposables handle).map fun teardown => (handle, teardown)).reverse

/-- The disposables after those on the list were disposed. -/
def disarmed (disposables : List (Option Teardown)) (subscriptions : List Nat) :
    List (Option Teardown) :=
  subscriptions.foldr (fun handle disposables => disposables.set handle none) disposables

theorem armed?_eq_some_iff {disposables : List (Option Teardown)} {handle : Nat}
    {teardown : Teardown} :
    armed? disposables handle = some teardown ↔
      disposables[handle]? = some (some teardown) := by
  simp [armed?, Option.join_eq_some_iff]

theorem armed?_set (disposables : List (Option Teardown)) (handle other : Nat) :
    armed? (disposables.set handle none) other =
      if other = handle then none else armed? disposables other := by
  rw [armed?, armed?, List.getElem?_set']
  by_cases h : handle = other
  · rw [if_pos h, if_pos h.symm]
    cases disposables[other]? <;> rfl
  · rw [if_neg h, if_neg (Ne.symm h)]

/-- Disposing a disposable that is disposed changes nothing. -/
theorem set_of_armed?_eq_none {disposables : List (Option Teardown)} {handle : Nat}
    (h : armed? disposables handle = none) : disposables.set handle none = disposables := by
  apply List.ext_getElem?
  intro other
  rw [List.getElem?_set']
  split
  next heq =>
    subst heq
    rw [armed?] at h
    cases hentry : disposables[handle]? with
    | none => rfl
    | some entry =>
      rw [hentry] at h
      simp only [Option.join_some] at h
      rw [h]
      rfl
  next => rfl

/-- Of a list with one more element the last place of that element is the last one. -/
theorem dedup_concat (handles : List Nat) (last : Nat) :
    (handles ++ [last]).dedup = handles.dedup.filter (· ≠ last) ++ [last] := by
  induction handles with
  | nil => simp
  | cons handle rest ih =>
    rw [List.cons_append]
    by_cases hrest : handle ∈ rest
    · rw [List.dedup_cons_of_mem (by simp [hrest]), ih, List.dedup_cons_of_mem hrest]
    · rw [List.dedup_cons_of_notMem hrest]
      by_cases hlast : handle = last
      · rw [List.dedup_cons_of_mem (by simp [hlast]), ih, List.filter_cons_of_neg (by simp [hlast])]
      · rw [List.dedup_cons_of_notMem (by simp [hrest, hlast]), ih,
          List.filter_cons_of_pos (by simp [hlast]), List.cons_append]

/-- The disposable at the end of the list has the first turn, if it is not disposed. -/
theorem due_concat (disposables : List (Option Teardown)) (handles : List Nat) (last : Nat) :
    due disposables (handles ++ [last]) =
      ((armed? disposables last).map fun teardown => (last, teardown)).toList ++
        due (disposables.set last none) handles := by
  rw [due, dedup_concat, List.filterMap_append, List.reverse_append, List.filterMap_filter]
  congr 1
  · cases hlast : armed? disposables last <;> simp [hlast]
  · congr 1
    apply List.filterMap_congr
    intro handle _
    rw [armed?_set]
    by_cases h : handle = last <;> simp [h]

theorem map_due_concat (disposables : List (Option Teardown)) (handles : List Nat) (last : Nat) :
    (due disposables (handles ++ [last])).map Prod.snd =
      (armed? disposables last).toList ++
        (due (disposables.set last none) handles).map Prod.snd := by
  rw [due_concat, List.map_append]
  cases armed? disposables last <;> rfl

theorem disarmed_concat (disposables : List (Option Teardown)) (handles : List Nat) (last : Nat) :
    disarmed disposables (handles ++ [last]) = disarmed (disposables.set last none) handles := by
  simp [disarmed]

/-- The last place of `first` on the list is behind the last place of `second`: from some place of
`first` on, there is no `second`. -/
def LastAfter (handles : List Nat) (first second : Nat) : Prop :=
  ∃ front back, handles = front ++ first :: back ∧ second ∉ first :: back

theorem LastAfter.cons {handles : List Nat} {first second : Nat}
    (h : LastAfter handles first second) (handle : Nat) :
    LastAfter (handle :: handles) first second := by
  obtain ⟨front, back, rfl, hsecond⟩ := h
  exact ⟨handle :: front, back, rfl, hsecond⟩

theorem pairwise_dedup (handles : List Nat) :
    handles.dedup.Pairwise fun first second => LastAfter handles second first := by
  induction handles with
  | nil => simp
  | cons handle rest ih =>
    have hrest := ih.imp fun h => h.cons handle
    by_cases hmem : handle ∈ rest
    · rwa [List.dedup_cons_of_mem hmem]
    · -- an element is kept at its last place, so all that follow have theirs further back
      rw [List.dedup_cons_of_notMem hmem, List.pairwise_cons]
      refine ⟨fun second hsecond => ?_, hrest⟩
      obtain ⟨front, back, rfl⟩ := List.append_of_mem (List.mem_dedup.1 hsecond)
      exact ⟨handle :: front, back, rfl, fun h => hmem (List.mem_append_right _ h)⟩

/-- The turns of the disposables on a list: each of those that are not disposed has one turn, and
whose last place is further back comes first. -/
structure Lineup (disposables : List (Option Teardown)) (subscriptions : List Nat)
    (turns : List (Nat × Teardown)) : Prop where
  /-- No disposable has two turns. -/
  once : (turns.map Prod.fst).Nodup
  /-- Those on the list that have a teardown have a turn, and nobody else. -/
  mem_iff : ∀ handle teardown, (handle, teardown) ∈ turns ↔
    handle ∈ subscriptions ∧ disposables[handle]? = some (some teardown)
  /-- The turns go by the last places, from the end of the list. -/
  ordered : turns.Pairwise fun first second => LastAfter subscriptions first.1 second.1

theorem lineup_due (disposables : List (Option Teardown)) (subscriptions : List Nat) :
    Lineup disposables subscriptions (due disposables subscriptions) := by
  have hordered : (due disposables subscriptions).Pairwise fun first second =>
      LastAfter subscriptions first.1 second.1 := by
    rw [due, List.pairwise_reverse]
    refine (pairwise_dedup subscriptions).filterMap _ ?_
    intro first second hafter turn hturn other hother
    obtain ⟨_, -, rfl⟩ := Option.map_eq_some_iff.1 hturn
    obtain ⟨_, -, rfl⟩ := Option.map_eq_some_iff.1 hother
    exact hafter
  refine ⟨?_, ?_, hordered⟩
  · rw [List.Nodup, List.pairwise_map]
    refine hordered.imp ?_
    rintro first second ⟨front, back, -, hsecond⟩ hsame
    exact hsecond (by simp [hsame])
  · intro handle teardown
    simp [due, ← armed?_eq_some_iff]

/-- Disposables that are not on the list are as they were, those on the list are disposed. -/
theorem getElem?_disarmed (disposables : List (Option Teardown)) (subscriptions : List Nat)
    (handle : Nat) :
    (disarmed disposables subscriptions)[handle]? =
      if handle ∈ subscriptions then disposables[handle]?.map fun _ => none
      else disposables[handle]? := by
  induction subscriptions with
  | nil => simp [disarmed]
  | cons first rest ih =>
    rw [disarmed, List.foldr_cons, ← disarmed, List.getElem?_set', ih]
    by_cases hfirst : first = handle
    · subst hfirst
      cases disposables[first]? <;> by_cases hrest : first ∈ rest <;> simp [hrest]
    · simp [hfirst, Ne.symm hfirst]

/-! ### Teardowns -/

/-- A teardown may fail, but not because somebody asks for an end. -/
def EndsOrdinarily (kind : ClientKind σ) (teardown : Teardown) : Prop :=
  ∀ stage failure, ((tearDown kind teardown).perform stage).1 = .error failure →
    failure.isInterruption = false

/-- What is done about a subscription whose teardown fails: it is written to the log. -/
def reportDisposal (failure : Failure) : Step (Stage σ) Unit :=
  Stage.act (Act.log "host.context" .error "failed to dispose subscription"
    [("error", Log.text failure.message)])

/-- Carry out teardowns one after the other, also after one that fails. -/
def carryOut (kind : ClientKind σ) : List Teardown → Step (Stage σ) Unit
  | [] => return
  | teardown :: rest => do
    guarded (tearDown kind teardown) reportDisposal
    carryOut kind rest

/-- Something of the host ends ordinarily if its fault is no request to end. -/
theorem endsOrdinarily_foreign {name : String} {fault : Option Failure}
    (h : ∀ failure, fault = some failure → failure.isInterruption = false) :
    EndsOrdinarily kind (.foreign name fault) := by
  intro stage failure hfails
  cases fault with
  | none => cases hfails
  | some fault =>
    cases hfails
    exact h failure rfl

/-- Clients are taken out ordinarily if they stop ordinarily. -/
theorem endsOrdinarily_unregister (h : StopsOrdinarily kind) (id : String) :
    EndsOrdinarily kind (.unregister id) := by
  intro stage failure hfails
  rw [tearDown] at hfails
  cases hclient : stage.registry.get? id with
  | none =>
    rw [unregister_vacant hclient] at hfails
    cases hfails
  | some client =>
    rw [unregister_occupied hclient, Step.perform_bind] at hfails
    split at hfails
    next noted _ =>
      -- what is left to fail is the record
      cases hnote : (note .info "unregistered language client" id).perform noted with
      | mk result after =>
        rw [hnote] at hfails
        cases hfails
        obtain ⟨reason, rfl⟩ := log_fails (act_cases hnote).2
        rfl
    next stopped _ hstop =>
      cases hfails
      exact h client _ _ (congrArg Prod.fst hstop)

/-! ### Disposables and list -/

/-- The stage with other disposables and another list of subscriptions. -/
def withHandles (disposables : List (Option Teardown)) (subscriptions : List Nat)
    (stage : Stage σ) : Stage σ :=
  { stage with registry := { stage.registry with disposables, subscriptions } }

variable (disposables : List (Option Teardown)) (subscriptions : List Nat)

theorem withHandles_act (step : Act α) :
    Erases (withHandles (σ := σ) disposables subscriptions) (Stage.act step) (Stage.act step) :=
  fun _ => rfl

/-- Taking a client out depends on the table of clients only. -/
theorem withHandles_unregister (id : String) :
    Erases (withHandles disposables subscriptions) (unregister kind id) (unregister kind id) := by
  refine .get_bind fun stage => ?_
  dsimp only [withHandles, get?]
  split
  · exact .pure _
  next client _ =>
    have hleave : Erases (withHandles (σ := σ) disposables subscriptions)
        (Stage.modifyRegistry fun registry => registry.leave id)
        (Stage.modifyRegistry fun registry => registry.leave id) := fun _ => rfl
    have hstop : Erases (withHandles disposables subscriptions)
        (Stage.withClients (kind.stop client)) (Stage.withClients (kind.stop client)) :=
      fun _ => rfl
    exact .bind hleave fun _ => .bind hstop fun _ => withHandles_act _ _ _

/-- A teardown neither reads nor changes the disposables and the list. -/
theorem withHandles_tearDown (teardown : Teardown) :
    Erases (withHandles disposables subscriptions) (tearDown kind teardown)
      (tearDown kind teardown) := by
  cases teardown with
  | unregister id => exact withHandles_unregister disposables subscriptions id
  | foreign name fault =>
    refine .bind (withHandles_act disposables subscriptions _) fun _ => ?_
    cases fault with
    | none => exact .pure _
    | some failure => exact .throw _

theorem withHandles_guarded (teardown : Teardown) :
    Erases (withHandles disposables subscriptions) (guarded (tearDown kind teardown) reportDisposal)
      (guarded (tearDown kind teardown) reportDisposal) := by
  refine .bind (withHandles_tearDown disposables subscriptions teardown).attempt fun outcome => ?_
  cases outcome with
  | ok => exact .pure _
  | error failure =>
    dsimp only
    split
    · exact .throw _
    · exact withHandles_act disposables subscriptions _

theorem withHandles_carryOut (kind : ClientKind σ) (teardowns : List Teardown) :
    Erases (withHandles disposables subscriptions) (carryOut kind teardowns)
      (carryOut kind teardowns) := by
  induction teardowns with
  | nil => exact .pure _
  | cons teardown rest ih =>
    exact .bind (withHandles_guarded disposables subscriptions teardown) fun _ => ih

/-- Carrying out teardowns leaves the disposables and the list as they are. -/
theorem handles_carryOut (kind : ClientKind σ) (teardowns : List Teardown) (stage : Stage σ) :
    let after := ((carryOut kind teardowns).perform stage).2
    after.registry.disposables = stage.registry.disposables ∧
      after.registry.subscriptions = stage.registry.subscriptions := by
  intro after
  have hsame := withHandles_carryOut stage.registry.disposables stage.registry.subscriptions kind
    teardowns stage
  have hafter : after = withHandles stage.registry.disposables stage.registry.subscriptions after :=
    congrArg Prod.snd hsame
  rw [hafter]
  exact ⟨rfl, rfl⟩

/-! ### Turns -/

theorem carryOut_append (first second : List Teardown) :
    carryOut kind (first ++ second) = (do carryOut kind first; carryOut kind second) := by
  induction first with
  | nil => simp [carryOut]
  | cons teardown rest ih =>
    rw [List.cons_append, carryOut, carryOut, ih, bind_assoc]

/-- While the time of day can be written, carrying out teardowns that end ordinarily ends well,
whichever of them fail. -/
theorem carryOut_ok {teardowns : List Teardown}
    (hordinary : ∀ teardown ∈ teardowns, EndsOrdinarily kind teardown) {stage after : Stage σ}
    {result : Except Failure Unit} (h : (carryOut kind teardowns).perform stage = (result, after))
    (hdated : after.world.Dated) : result = .ok () := by
  induction teardowns generalizing stage with
  | nil =>
    cases h
    rfl
  | cons teardown rest ih =>
    rw [carryOut, Step.perform_bind] at h
    cases hturn : (guarded (tearDown kind teardown) reportDisposal).perform stage with
    | mk settled between =>
      rw [hturn] at h
      cases settled with
      | ok =>
        apply ih _ h
        intro other hother
        exact hordinary other (List.mem_cons_of_mem _ hother)
      | error failure =>
        -- only a record that cannot be dated ends the round early
        cases h
        have hsettled := (guarded_cases (fun _ => ⟨_, _, _, _, rfl⟩) rfl hturn).2.2 hdated
        cases hsettled (hordinary teardown (by simp) stage)

theorem perform_guarded_congr {step step' : Step (Stage σ) Unit}
    {report : Failure → Step (Stage σ) Unit} {stage stage' : Stage σ}
    (h : step.perform stage = step'.perform stage') :
    (guarded step report).perform stage = (guarded step' report).perform stage' := by
  unfold guarded
  rw [Step.perform_bind_ok (Step.perform_attempt _ _),
    Step.perform_bind_ok (Step.perform_attempt _ _), h]

/-- At its turn a disposable is disposed and its teardown carried out; nothing is left to be done if
it is disposed already. -/
theorem perform_turn (handle : Nat) (stage : Stage σ) :
    let registry := stage.registry
    (guarded (dispose kind handle) reportDisposal).perform stage =
      (carryOut kind (armed? registry.disposables handle).toList).perform
        (withHandles (registry.disposables.set handle none) registry.subscriptions stage) := by
  intro registry
  -- what is disposed already has no teardown left, so nothing is carried out at its turn
  cases harmed : armed? registry.disposables handle with
  | none =>
    rw [set_of_armed?_eq_none harmed]
    have hdisposed : registry.isDisposed handle = true := by
      by_contra hnot
      obtain ⟨teardown, hteardown⟩ := isDisposed_eq_false_iff.1 (Bool.not_eq_true _ ▸ hnot)
      rw [armed?_eq_some_iff.2 hteardown] at harmed
      cases harmed
    unfold guarded
    rw [Step.perform_bind_ok (Step.perform_attempt _ _), dispose_disarmed kind hdisposed]
    rfl
  | some teardown =>
    rw [perform_guarded_congr (dispose_armed (armed?_eq_some_iff.1 harmed))]
    simp only [Option.toList_some, carryOut, bind_pure_unit]
    rfl

/-- The last subscription is taken off the list and has its turn. -/
theorem disposeLast_concat {stage : Stage σ} {handles : List Nat} {last : Nat}
    (h : stage.registry.subscriptions = handles ++ [last]) :
    let entries := stage.registry.disposables
    (disposeLast kind (handles.length + 1)).perform stage =
      (do
        carryOut kind (armed? entries last).toList
        disposeLast kind handles.length).perform
          (withHandles (entries.set last none) handles stage) := by
  intro entries
  have hturn : (guarded (dispose kind last) reportDisposal).perform
      (withHandles entries handles stage) =
        (carryOut kind (armed? entries last).toList).perform
          (withHandles (entries.set last none) handles stage) := perform_turn last _
  rw [disposeLast, Step.perform_get_bind, h, List.getLast?_concat]
  dsimp only
  rw [Stage.perform_modifyRegistry_bind, h, List.dropLast_concat]
  -- the subscription is off the list before its turn
  change (do guarded (dispose kind last) reportDisposal; disposeLast kind handles.length).perform
    (withHandles entries handles stage) = _
  rw [Step.perform_bind, hturn, Step.perform_bind]

/-- Emptying the list carries out the teardowns that are due, one after the other, as if everything
on the list had been disposed before. -/
theorem perform_disposeLast {handles : List Nat} {stage after : Stage σ}
    {result : Except Failure Unit} (hlist : stage.registry.subscriptions = handles)
    (hordinary : ∀ teardown ∈ (due stage.registry.disposables handles).map Prod.snd,
      EndsOrdinarily kind teardown)
    (h : (disposeLast kind handles.length).perform stage = (result, after))
    (hdated : after.world.Dated) :
    result = .ok () ∧
      (carryOut kind ((due stage.registry.disposables handles).map Prod.snd)).perform
        (withHandles (disarmed stage.registry.disposables handles) [] stage) = (.ok (), after) := by
  induction handles using List.reverseRecOn generalizing stage with
  | nil =>
    cases h
    -- the list is empty already
    have hself : withHandles after.registry.disposables [] after = after := by
      rw [← hlist]
      rfl
    exact ⟨rfl, Prod.ext rfl hself⟩
  | append_singleton handles last ih =>
    rw [map_due_concat] at hordinary ⊢
    rw [disarmed_concat]
    let entries := stage.registry.disposables
    let turn := (armed? entries last).toList
    let disposed := withHandles (entries.set last none) handles stage
    rw [List.length_append, List.length_singleton, disposeLast_concat hlist, Step.perform_bind] at h
    cases hturn : (carryOut kind turn).perform disposed with
    | mk settled between =>
      obtain ⟨hdisposables, hlist'⟩ := handles_carryOut kind turn disposed
      -- the turn leaves the same where the others are disposed already
      have hcleared := withHandles_carryOut (disarmed (entries.set last none) handles) [] kind turn
        disposed
      rw [hturn] at h hdisposables hlist' hcleared
      dsimp only at h hdisposables hlist'
      cases settled with
      | error failure =>
        cases h
        cases carryOut_ok (fun t ht => hordinary t (List.mem_append_left _ ht)) hturn hdated
      | ok =>
        have hrest := @ih between hlist'
        rw [hdisposables] at hrest
        obtain ⟨hresult, hcarried⟩ := hrest (fun t ht => hordinary t (List.mem_append_right _ ht)) h
        refine ⟨hresult, ?_⟩
        rw [carryOut_append]
        exact (Step.perform_bind_ok hcleared).trans hcarried

/-! ### The whole teardown -/

/-- A client that does not stop, and two disposables of the host of which one fails; the list names
that one twice, and one that is disposed already. -/
def crowdedStage : Stage (Unit × List Call) where
  world := default
  clients := ((), [])
  registry :=
    { clients := [("julia", 0)]
      disposables := [some (.unregister "julia"), some (.foreign "watcher" (some .timedOut)), none,
        some (.foreign "panel" none)]
      subscriptions := [0, 1, 2, 3, 1, 2] }

end JuliaSession.Registry
