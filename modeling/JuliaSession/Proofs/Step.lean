import JuliaSession.World

/-!
# Runs of steps

How a step runs, one equation for each way to build a step, and what its runs lead to.

* `bind_eq_ok_iff`: when a computation that may fail ends well.
* `Step.perform_bind`: a sequence runs its first part and, unless that fails, its second.
* `Step.Leads`: every run of a step leads from its state to a related one, also a run that fails.
  A preorder that the parts of a step respect is respected by the step (`Step.Leads.bind`).
* `Step.LeadsWell`, `Step.LeadsFailing`: every run of a step that ends well, or that fails, leads to
  a related state.
* `Step.Total`: every run of a step ends well. `Step.Safe`: so it does from states with a property,
  which it keeps.
* `Step.Matches`: two steps from two states have the same result and end in related states.
  `Step.Agrees`: so do the runs of one step from related states.
* `Step.Erases`: a step does the same as one on states with more to them, as far as this step sees.
-/

namespace JuliaSession

/-- A computation ends well exactly if both of its parts do. -/
theorem bind_eq_ok_iff {ε α β : Type} {first : Except ε α} {next : α → Except ε β} {result : β} :
    (first >>= next) = .ok result ↔ ∃ value, first = .ok value ∧ next value = .ok result := by
  cases first with
  | error failure => exact ⟨nofun, nofun⟩
  | ok value => exact ⟨fun h => ⟨value, rfl, h⟩, fun ⟨_, rfl, h⟩ => h⟩

namespace Step

variable {σ τ α β : Type}

/-! ### Runs -/

@[simp]
theorem perform_pure (value : α) (state : σ) :
    (pure value : Step σ α).perform state = (.ok value, state) := rfl

@[simp]
theorem perform_throw (failure : Failure) (state : σ) :
    (throw failure : Step σ α).perform state = (.error failure, state) := rfl

@[simp]
theorem perform_get (state : σ) : (get : Step σ σ).perform state = (.ok state, state) := rfl

@[simp]
theorem perform_modify (change : σ → σ) (state : σ) :
    (modify change : Step σ Unit).perform state = (.ok (), change state) := rfl

/-- A sequence runs its first part and, unless that fails, its second part. -/
theorem perform_bind (step : Step σ α) (next : α → Step σ β) (state : σ) :
    (step >>= next).perform state =
      match step.perform state with
      | (.ok value, state) => (next value).perform state
      | (.error failure, state) => (.error failure, state) := by
  simp only [perform, ExceptT.run_bind, StateT.run_bind]
  rcases StateT.run (ExceptT.run step) state with ⟨_ | _, _⟩ <;> rfl

/-- A sequence whose first part ends well goes on with its second part. -/
theorem perform_bind_ok {step : Step σ α} {next : α → Step σ β} {state after : σ} {value : α}
    (h : step.perform state = (.ok value, after)) :
    (step >>= next).perform state = (next value).perform after := by
  rw [perform_bind, h]

/-- A sequence whose first part fails ends with it. -/
theorem perform_bind_error {step : Step σ α} {next : α → Step σ β} {state after : σ}
    {failure : Failure} (h : step.perform state = (.error failure, after)) :
    (step >>= next).perform state = (.error failure, after) := by
  rw [perform_bind, h]

/-- A sequence ends well exactly if both of its parts do. -/
theorem perform_bind_eq_ok_iff {step : Step σ α} {next : α → Step σ β} {state after : σ}
    {result : β} :
    (step >>= next).perform state = (.ok result, after) ↔
      ∃ value between, step.perform state = (.ok value, between) ∧
        (next value).perform between = (.ok result, after) := by
  rw [perform_bind]
  cases h : step.perform state with
  | mk outcome between =>
    cases outcome with
    | error failure =>
      constructor
      · rintro ⟨⟩
      · rintro ⟨_, _, ⟨⟩, -⟩
    | ok value =>
      constructor
      · intro hnext
        exact ⟨value, between, rfl, hnext⟩
      · rintro ⟨_, _, ⟨⟩, hnext⟩
        exact hnext

/-- What a run that ends well has come to. -/
theorem exists_run_of_isOk {step : Step σ α} {state : σ}
    (h : (step.perform state).1.isOk = true) :
    ∃ value after, step.perform state = (.ok value, after) := by
  cases hrun : step.perform state with
  | mk result after =>
    rw [hrun] at h
    cases result with
    | error failure => cases h
    | ok value => exact ⟨value, after, rfl⟩

/-- A run that ends well with a value of which something holds. -/
theorem exists_run_of_any {step : Step σ α} {state : σ} {holds : α → Bool}
    (h : (step.perform state).1.toOption.any holds = true) :
    ∃ value after, step.perform state = (.ok value, after) ∧ holds value = true := by
  cases hrun : step.perform state with
  | mk result after =>
    rw [hrun] at h
    cases result with
    | error failure => cases h
    | ok value => exact ⟨value, after, rfl, h⟩

/-- What a run with a known value has left. -/
theorem exists_run_of_toOption {step : Step σ α} {state : σ} {value : α}
    (h : (step.perform state).1.toOption = some value) :
    ∃ after, step.perform state = (.ok value, after) := by
  cases hrun : step.perform state with
  | mk result after =>
    rw [hrun] at h
    cases result with
    | error failure => cases h
    | ok found =>
      obtain rfl := Option.some.inj h
      exact ⟨after, rfl⟩

@[simp]
theorem perform_get_bind (next : σ → Step σ β) (state : σ) :
    (get >>= next).perform state = (next state).perform state :=
  perform_bind_ok (perform_get state)

@[simp]
theorem perform_modify_bind (change : σ → σ) (next : Unit → Step σ β) (state : σ) :
    (modify change >>= next).perform state = (next ()).perform (change state) :=
  perform_bind_ok (perform_modify change state)

@[simp]
theorem perform_throw_bind (failure : Failure) (next : α → Step σ β) (state : σ) :
    ((throw failure : Step σ α) >>= next).perform state = (.error failure, state) :=
  perform_bind_error (perform_throw failure state)

@[simp]
theorem perform_map (f : α → β) (step : Step σ α) (state : σ) :
    (f <$> step).perform state = ((step.perform state).1.map f, (step.perform state).2) := by
  rw [← bind_pure_comp, perform_bind]
  rcases step.perform state with ⟨_ | _, _⟩ <;> rfl

/-- A step that is attempted ends well where the step itself ends. -/
@[simp]
theorem perform_attempt (step : Step σ α) (state : σ) :
    step.attempt.perform state = (.ok (step.perform state).1, (step.perform state).2) := rfl

@[simp]
theorem perform_onPart (get : σ → τ) (set : σ → τ → σ) (step : Step τ α) (state : σ) :
    (step.onPart get set).perform state =
      ((step.perform (get state)).1, set state (step.perform (get state)).2) := rfl

@[simp]
theorem perform_ofExcept (result : Except Failure α) (state : σ) :
    (ofExcept result).perform state = (result, state) := by
  cases result <;> rfl

/-! ### What runs lead to -/

/-- Every run of `step` leads from its state to a state related to it, also a run that fails. -/
def Leads (relation : σ → σ → Prop) (step : Step σ α) : Prop :=
  ∀ state, relation state (step.perform state).2

namespace Leads

variable {relation : σ → σ → Prop}

/-- A run of a step that leads somewhere ends there. -/
theorem ends {step : Step σ α} (h : Leads relation step) {state after : σ}
    {result : Except Failure α} (hrun : step.perform state = (result, after)) :
    relation state after := by
  have hafter := h state
  rwa [hrun] at hafter

/-- A wider relation is led to as well. -/
theorem mono {other : σ → σ → Prop} {step : Step σ α} (h : Leads relation step)
    (hwider : ∀ {before after}, relation before after → other before after) :
    Leads other step := fun state => hwider (h state)

theorem modify {change : σ → σ} (h : ∀ state, relation state (change state)) :
    Leads relation (modify change : Step σ Unit) := h

theorem attempt {step : Step σ α} (h : Leads relation step) : Leads relation step.attempt := h

theorem map {f : α → β} {step : Step σ α} (h : Leads relation step) :
    Leads relation (f <$> step) := by
  intro state
  rw [perform_map]
  exact h state

/-- A step on a part of the state leads where the part leads. -/
theorem onPart {get : σ → τ} {set : σ → τ → σ} {part : τ → τ → Prop} {step : Step τ α}
    (h : Leads part step)
    (hset : ∀ {state after}, part (get state) after → relation state (set state after)) :
    Leads relation (step.onPart get set) := by
  intro state
  rw [perform_onPart]
  exact hset (h (get state))

/-- A sequence leads where its parts lead together, or where its first part leads alone if that
fails. -/
theorem bind_of {first second : σ → σ → Prop} {step : Step σ α} {next : α → Step σ β}
    (h : Leads first step) (hnext : ∀ value, Leads second (next value))
    (hfails : ∀ {before after}, first before after → relation before after)
    (hgoes : ∀ {before between after}, first before between → second between after →
      relation before after) : Leads relation (step >>= next) := by
  intro state
  have hfirst := h state
  rw [perform_bind]
  -- a first part that fails is all that was done
  cases hstep : step.perform state with
  | mk result after =>
    rw [hstep] at hfirst
    cases result with
    | error failure => exact hfails hfirst
    | ok value => exact hgoes hfirst (hnext value after)

/-- A sequence leads where its parts lead one after the other. -/
theorem bind [htrans : Trans relation relation relation] {step : Step σ α}
    {next : α → Step σ β} (h : Leads relation step) (hnext : ∀ value, Leads relation (next value)) :
    Leads relation (step >>= next) :=
  h.bind_of hnext (fun hfirst => hfirst) fun hfirst hsecond => htrans.trans hfirst hsecond

section Refl

variable [hrefl : Std.Refl relation]

theorem pure (value : α) : Leads relation (pure value : Step σ α) := hrefl.refl

/-- Nothing comes after a failure. -/
theorem throw_bind (failure : Failure) (next : α → Step σ β) :
    Leads relation ((throw failure : Step σ α) >>= next) := by
  intro state
  rw [perform_throw_bind]
  exact hrefl.refl state

theorem throw (failure : Failure) : Leads relation (throw failure : Step σ α) := hrefl.refl

theorem get : Leads relation (get : Step σ σ) := hrefl.refl

theorem ofExcept (result : Except Failure α) : Leads relation (ofExcept result) := by
  intro state
  rw [perform_ofExcept]
  exact hrefl.refl state

/-- What follows a result counts only for the value that it has, if it has one. -/
theorem ofExcept_bind {result : Except Failure α} {next : α → Step σ β}
    (h : ∀ value, result = .ok value → Leads relation (next value)) :
    Leads relation (Step.ofExcept result >>= next) := by
  intro state
  cases hresult : result with
  | error failure =>
    rw [perform_bind_error (perform_ofExcept _ state)]
    exact hrefl.refl state
  | ok value =>
    rw [perform_bind_ok (perform_ofExcept _ state)]
    exact h value hresult state

end Refl

end Leads

/-- What holds after the first part of a sequence holds after the sequence if its second part does
not change it. -/
theorem holds_bind {holds : σ → Prop} {step : Step σ α} {next : α → Step σ β} {state : σ}
    (h : holds (step.perform state).2)
    (hnext : ∀ value between, holds between → holds ((next value).perform between).2) :
    holds ((step >>= next).perform state).2 := by
  rw [perform_bind]
  cases hstep : step.perform state with
  | mk result after =>
    rw [hstep] at h
    cases result with
    | error failure => exact h
    | ok value => exact hnext value after h

/-- Every run of `step` that ends well leads from its state to a state related to it. -/
def LeadsWell (relation : σ → σ → Prop) (step : Step σ α) : Prop :=
  ∀ state value after, step.perform state = (.ok value, after) → relation state after

/-- What every run leads to, a run that ends well leads to. -/
theorem Leads.well {relation : σ → σ → Prop} {step : Step σ α} (h : Leads relation step) :
    LeadsWell relation step := fun _ _ _ hrun => h.ends hrun

namespace LeadsWell

variable {relation : σ → σ → Prop}

/-- A sequence ends well only if both parts do, and leads where they lead. -/
theorem bind [htrans : Trans relation relation relation] {step : Step σ α}
    {next : α → Step σ β} (h : LeadsWell relation step)
    (hnext : ∀ value, LeadsWell relation (next value)) : LeadsWell relation (step >>= next) := by
  intro state value after hrun
  obtain ⟨first, between, hstep, hrest⟩ := perform_bind_eq_ok_iff.1 hrun
  exact htrans.trans (h _ _ _ hstep) (hnext first _ _ _ hrest)

/-- A sequence that fails in the end does not end well. -/
theorem bind_throw (step : Step σ α) (failure : α → Failure) :
    LeadsWell relation (step >>= fun value => (throw (failure value) : Step σ β)) := by
  intro state value after hrun
  obtain ⟨_, _, -, hthrow⟩ := perform_bind_eq_ok_iff.1 hrun
  cases hthrow

/-- What holds after the second part of a sequence, wherever that starts, holds after the
sequence. -/
theorem last {holds : σ → Prop} (step : Step σ α) {next : α → Step σ β}
    (h : ∀ value, LeadsWell (fun _ after => holds after) (next value)) :
    LeadsWell (fun _ after => holds after) (step >>= next) := by
  intro state value after hrun
  obtain ⟨first, between, -, hrest⟩ := perform_bind_eq_ok_iff.1 hrun
  exact h first between value after hrest

/-- What holds after the first part of a sequence and is kept by the second holds after the
sequence. -/
theorem kept {holds : σ → Prop} {step : Step σ α} {next : α → Step σ β}
    (h : LeadsWell (fun _ after => holds after) step)
    (hnext : ∀ value, Leads (fun before after => holds before → holds after) (next value)) :
    LeadsWell (fun _ after => holds after) (step >>= next) := by
  intro state value after hrun
  obtain ⟨first, between, hstep, hrest⟩ := perform_bind_eq_ok_iff.1 hrun
  exact (hnext first).ends hrest (h state first between hstep)

end LeadsWell

/-- Every run of `step` that fails leads from its state to a state related to it. -/
def LeadsFailing (relation : σ → σ → Prop) (step : Step σ α) : Prop :=
  ∀ state failure after, step.perform state = (.error failure, after) → relation state after

/-- What every run leads to, a run that fails leads to. -/
theorem Leads.failing {relation : σ → σ → Prop} {step : Step σ α} (h : Leads relation step) :
    LeadsFailing relation step := fun _ _ _ hrun => h.ends hrun

/-- A sequence fails in its first part, or where that has led. -/
theorem LeadsFailing.bind {relation : σ → σ → Prop} [htrans : Trans relation relation relation]
    {step : Step σ α} {next : α → Step σ β} (h : Leads relation step)
    (hnext : ∀ value, LeadsFailing relation (next value)) :
    LeadsFailing relation (step >>= next) := by
  intro state failure after hrun
  have hfirst := h state
  rw [perform_bind] at hrun
  -- the failure is that of the first part, or of the second one where the first has led
  cases hstep : step.perform state with
  | mk result between =>
    rw [hstep] at hrun hfirst
    cases result with
    | error first =>
      cases hrun
      exact hfirst
    | ok value => exact htrans.trans hfirst (hnext value _ _ _ hrun)

/-! ### Steps that do not fail -/

/-- Every run of `step` ends well. -/
def Total (step : Step σ α) : Prop := ∀ state, ∃ value, (step.perform state).1 = .ok value

namespace Total

theorem exists_run {step : Step σ α} (h : Total step) (state : σ) :
    ∃ value, step.perform state = (.ok value, (step.perform state).2) := by
  obtain ⟨value, hvalue⟩ := h state
  exact ⟨value, Prod.ext hvalue rfl⟩

theorem pure (value : α) : Total (pure value : Step σ α) := fun _ => ⟨value, rfl⟩

theorem modify (change : σ → σ) : Total (modify change : Step σ Unit) := fun _ => ⟨(), rfl⟩

theorem attempt (step : Step σ α) : Total step.attempt := fun _ => ⟨_, rfl⟩

theorem onPart {get : σ → τ} {set : σ → τ → σ} {step : Step τ α} (h : Total step) :
    Total (step.onPart get set) := fun state => h (get state)

/-- A sequence ends well if its parts do. -/
theorem bind {step : Step σ α} {next : α → Step σ β} (h : Total step)
    (hnext : ∀ value, Total (next value)) : Total (step >>= next) := by
  intro state
  obtain ⟨value, hrun⟩ := h.exists_run state
  rw [perform_bind_ok hrun]
  exact hnext value _

/-- A step that does not fail does not lead anywhere by failing. -/
theorem failing {relation : σ → σ → Prop} {step : Step σ α} (h : Total step) :
    LeadsFailing relation step := by
  intro state failure after hrun
  obtain ⟨value, hvalue⟩ := h state
  rw [hrun] at hvalue
  cases hvalue

end Total

/-- From every state with a property, `step` ends well in a state with the property. -/
def Safe (holds : σ → Prop) (step : Step σ α) : Prop :=
  ∀ state, holds state → ∃ value after, step.perform state = (.ok value, after) ∧ holds after

namespace Safe

variable {holds : σ → Prop}

/-- A step that does not fail is safe if it keeps the property. -/
theorem of_total {step : Step σ α} (h : Total step)
    (hkeeps : Leads (fun before after => holds before → holds after) step) :
    Safe holds step := by
  intro state hbefore
  obtain ⟨value, hrun⟩ := h.exists_run state
  exact ⟨value, _, hrun, hkeeps state hbefore⟩

theorem bind {step : Step σ α} {next : α → Step σ β} (h : Safe holds step)
    (hnext : ∀ value, Safe holds (next value)) : Safe holds (step >>= next) := by
  intro state hbefore
  obtain ⟨value, between, hrun, hbetween⟩ := h state hbefore
  rw [perform_bind_ok hrun]
  exact hnext value between hbetween

end Safe

/-! ### Two runs -/

/-- Two steps from two states have the same result and end in related states. -/
def Matches (relation : σ → τ → Prop) (step : Step σ α) (step' : Step τ α) (first : σ)
    (second : τ) : Prop :=
  (step.perform first).1 = (step'.perform second).1 ∧
    relation (step.perform first).2 (step'.perform second).2

/-- Sequences match if their first parts do and, wherever these lead to, their second parts. -/
theorem Matches.bind {between relation : σ → τ → Prop} {step : Step σ α} {step' : Step τ α}
    {next : α → Step σ β} {next' : α → Step τ β} {first : σ} {second : τ}
    (h : Matches between step step' first second)
    (hfails : ∀ after after', between after after' → relation after after')
    (hnext : ∀ value after after', between after after' →
      Matches relation (next value) (next' value) after after') :
    Matches relation (step >>= next) (step' >>= next') first second := by
  obtain ⟨hresult, hbetween⟩ := h
  unfold Matches
  rw [perform_bind, perform_bind]
  cases hfirst : step.perform first with
  | mk result after =>
    cases hsecond : step'.perform second with
    | mk result' after' =>
      rw [hfirst, hsecond] at hresult hbetween
      -- both first parts have one result, so both sequences stop here or both go on
      cases hresult
      cases result with
      | error failure => exact ⟨rfl, hfails _ _ hbetween⟩
      | ok value => exact hnext value after after' hbetween

/-- Two runs of `step` from related states have the same result and end in related states. -/
def Agrees (relation : σ → σ → Prop) (step : Step σ α) : Prop :=
  ∀ first second, relation first second →
    (step.perform first).1 = (step.perform second).1 ∧
      relation (step.perform first).2 (step.perform second).2

namespace Agrees

variable {relation : σ → σ → Prop}

theorem pure (value : α) : Agrees relation (pure value : Step σ α) :=
  fun _ _ hrelated => ⟨rfl, hrelated⟩

theorem throw (failure : Failure) : Agrees relation (throw failure : Step σ α) :=
  fun _ _ hrelated => ⟨rfl, hrelated⟩

theorem ofExcept (result : Except Failure α) : Agrees relation (ofExcept result) := by
  intro first second hrelated
  rw [perform_ofExcept, perform_ofExcept]
  exact ⟨rfl, hrelated⟩

theorem modify {change : σ → σ}
    (h : ∀ first second, relation first second → relation (change first) (change second)) :
    Agrees relation (modify change : Step σ Unit) :=
  fun first second hrelated => ⟨rfl, h first second hrelated⟩

theorem attempt {step : Step σ α} (h : Agrees relation step) : Agrees relation step.attempt :=
  fun first second hrelated => (h first second hrelated).imp_left (congrArg Except.ok)

/-- A step that leads to related states agrees if its result is the same. -/
theorem of_leads [hsymm : Std.Symm relation] [htrans : Trans relation relation relation]
    {step : Step σ α} (h : Leads relation step)
    (hresult : ∀ first second, relation first second →
      (step.perform first).1 = (step.perform second).1) : Agrees relation step := by
  intro first second hrelated
  have hback := hsymm.symm _ _ (h first)
  exact ⟨hresult first second hrelated, htrans.trans hback (htrans.trans hrelated (h second))⟩

/-- What follows the reading of the state has to be the same from related states. -/
theorem get_bind {next : σ → Step σ α}
    (hnext : ∀ first second, relation first second → next first = next second)
    (h : ∀ state, Agrees relation (next state)) : Agrees relation (get >>= next) := by
  intro first second hrelated
  rw [perform_get_bind, perform_get_bind, hnext first second hrelated]
  exact h second first second hrelated

/-- A step on a part of the state agrees if it agrees on the part. -/
theorem onPart {get : σ → τ} {set : σ → τ → σ} {part : τ → τ → Prop} {step : Step τ α}
    (h : Agrees part step)
    (hget : ∀ first second, relation first second → part (get first) (get second))
    (hset : ∀ first second after after', relation first second → part after after' →
      relation (set first after) (set second after')) :
    Agrees relation (step.onPart get set) := by
  intro first second hrelated
  obtain ⟨hresult, hafter⟩ := h _ _ (hget first second hrelated)
  rw [perform_onPart, perform_onPart]
  exact ⟨hresult, hset _ _ _ _ hrelated hafter⟩

/-- A sequence agrees if its parts do. -/
theorem bind {step : Step σ α} {next : α → Step σ β} (h : Agrees relation step)
    (hnext : ∀ value, Agrees relation (next value)) : Agrees relation (step >>= next) :=
  fun first second hrelated =>
    Matches.bind (h first second hrelated) (fun _ _ hafter => hafter) hnext

end Agrees

/-! ### Steps on more than is seen -/

/-- What `step` does is what `full` does, up to what is forgotten of the states. -/
def Erases (forget : τ → σ) (full : Step τ α) (step : Step σ α) : Prop :=
  ∀ state, step.perform (forget state) =
    ((full.perform state).1, forget (full.perform state).2)

namespace Erases

variable {forget : τ → σ}

theorem pure (value : α) : Erases forget (pure value) (pure value : Step σ α) := fun _ => rfl

theorem throw (failure : Failure) :
    Erases forget (throw failure : Step τ α) (throw failure : Step σ α) := fun _ => rfl

/-- Nothing is done after a failure. -/
theorem throw_bind (failure : Failure) (fullNext : α → Step τ β) (next : α → Step σ β) :
    Erases forget ((MonadExcept.throw failure : Step τ α) >>= fullNext)
      ((MonadExcept.throw failure : Step σ α) >>= next) := by
  intro state
  rw [perform_throw_bind, perform_throw_bind]

theorem ofExcept (result : Except Failure α) :
    Erases forget (ofExcept result) (ofExcept result : Step σ α) := by
  intro state
  rw [perform_ofExcept, perform_ofExcept]

theorem modify {change : τ → τ} {change' : σ → σ}
    (h : ∀ state, change' (forget state) = forget (change state)) :
    Erases forget (modify change : Step τ Unit) (modify change' : Step σ Unit) :=
  fun state => Prod.ext rfl (h state)

theorem attempt {full : Step τ α} {step : Step σ α} (h : Erases forget full step) :
    Erases forget full.attempt step.attempt := by
  intro state
  rw [perform_attempt, perform_attempt, h]

/-- What follows the reading of the state may depend on what is not forgotten. -/
theorem get_bind {full : τ → Step τ α} {step : σ → Step σ α}
    (h : ∀ state, Erases forget (full state) (step (forget state))) :
    Erases forget (get >>= full) (get >>= step) := by
  intro state
  rw [perform_get_bind, perform_get_bind, h state state]

theorem bind {full : Step τ α} {step : Step σ α} {fullNext : α → Step τ β}
    {next : α → Step σ β} (h : Erases forget full step)
    (hnext : ∀ value, Erases forget (fullNext value) (next value)) :
    Erases forget (full >>= fullNext) (step >>= next) := by
  intro state
  rw [perform_bind, perform_bind, h]
  cases hrun : full.perform state with
  | mk result after =>
    cases result with
    | error failure => rfl
    | ok value => exact hnext value after

/-- A choice between two steps does the same if they do. -/
theorem ite {p : Prop} [Decidable p] {full other : Step τ α} {step step' : Step σ α}
    (h : Erases forget full step) (h' : Erases forget other step') :
    Erases forget (if p then full else other) (if p then step else step') := by
  split
  · exact h
  · exact h'

/-- A step on a part of the state does the same if it does so on the part. -/
theorem onPart {τ' σ' : Type} {forgetPart : τ' → σ'} {get : τ → τ'} {set : τ → τ' → τ}
    {get' : σ → σ'} {set' : σ → σ' → σ} {full : Step τ' α} {step : Step σ' α}
    (h : Erases forgetPart full step) (hget : ∀ state, get' (forget state) = forgetPart (get state))
    (hset : ∀ state part, set' (forget state) (forgetPart part) = forget (set state part)) :
    Erases forget (full.onPart get set) (step.onPart get' set') := by
  intro state
  rw [perform_onPart, perform_onPart, hget, h, hset]

end Erases

end Step

/-! ### Steps on the desk -/

theorem perform_machine (world : World) :
    Act.machine.perform world = (.ok world.desk.machine, world) := rfl

theorem perform_onDesk {α : Type} (step : Desk → Except Failure α × Desk) (world : World) :
    (Act.onDesk step).perform world =
      ((step world.desk).1, { world with desk := (step world.desk).2 }) := by
  unfold Act.onDesk
  rw [Step.perform_get_bind]
  change (Act.modifyDesk _ >>= _).perform world = _
  unfold Act.modifyDesk
  rw [Step.perform_modify_bind, Step.perform_ofExcept]

end JuliaSession
