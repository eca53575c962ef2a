import Mathlib.Data.List.Induction

/-!
# Histories

What can be said of a history of events, of which the last one stands at the end. What an event is
may depend on the events before it.

* `Since`: something has happened and was not undone since.
* `Once`: something happens at some event.
-/

namespace JuliaSession

variable {α : Type}

/-! ### What has happened and was not undone -/

section Since

variable {happens undoes : List α → α → Prop}

/-- In a history something has happened that nothing has undone since. What an event is may depend
on the events before it. -/
inductive Since (happens undoes : List α → α → Prop) : List α → Prop where
  /-- It happens by the last event. -/
  | now {earlier : List α} {event : α} (h : happens earlier event) :
    Since happens undoes (earlier ++ [event])
  /-- It has happened before the last event, which does not undo it. -/
  | still {earlier : List α} {event : α} (h : Since happens undoes earlier)
    (hkept : ¬ undoes earlier event) : Since happens undoes (earlier ++ [event])

theorem not_since_nil : ¬ Since happens undoes [] := by
  intro h
  generalize hnil : ([] : List α) = history at h
  cases h <;> cases List.append_ne_nil_of_right_ne_nil _ (List.cons_ne_nil _ _) hnil.symm

theorem since_concat {earlier : List α} {event : α} :
    Since happens undoes (earlier ++ [event]) ↔
      happens earlier event ∨ (Since happens undoes earlier ∧ ¬ undoes earlier event) := by
  constructor
  · intro h
    -- the constructors speak of a history that ends in an event, so the last event is named first
    generalize hsplit : earlier ++ [event] = history at h
    cases h with
    | now h =>
      obtain ⟨rfl, rfl⟩ := List.append_singleton_inj.1 hsplit
      exact .inl h
    | still h hkept =>
      obtain ⟨rfl, rfl⟩ := List.append_singleton_inj.1 hsplit
      exact .inr ⟨h, hkept⟩
  · rintro (h | ⟨h, hkept⟩)
    · exact .now h
    · exact .still h hkept

end Since

/-! ### What happens at some event -/

section Once

variable {happens : List α → α → Prop}

/-- An event of a history is the last one, or it comes before the last one. -/
theorem split_concat {history earlier later : List α} {last event : α}
    (h : history ++ [last] = earlier ++ event :: later) :
    (earlier = history ∧ event = last ∧ later = []) ∨
      ∃ between, later = between ++ [last] ∧ history = earlier ++ event :: between := by
  rcases List.eq_nil_or_concat later with rfl | ⟨between, final, rfl⟩
  · obtain ⟨rfl, rfl⟩ := List.append_singleton_inj.1 h
    exact .inl ⟨rfl, rfl, rfl⟩
  · rw [List.concat_eq_append, ← List.cons_append, ← List.append_assoc] at h
    obtain ⟨rfl, rfl⟩ := List.append_singleton_inj.1 h
    exact .inr ⟨between, List.concat_eq_append, rfl⟩

/-- In a history something happens at some event. Whether it does may depend on the events before
it. -/
def Once (happens : List α → α → Prop) (history : List α) : Prop :=
  ∃ earlier event later, history = earlier ++ event :: later ∧ happens earlier event

theorem not_once_nil : ¬ Once happens [] := by
  rintro ⟨earlier, event, later, hnil, -⟩
  exact List.append_ne_nil_of_right_ne_nil earlier (List.cons_ne_nil event later) hnil.symm

/-- It happens before the last event, or at the last event. -/
theorem once_concat {history : List α} {last : α} :
    Once happens (history ++ [last]) ↔ Once happens history ∨ happens history last := by
  constructor
  · rintro ⟨earlier, event, later, hsplit, h⟩
    rcases split_concat hsplit with ⟨rfl, rfl, -⟩ | ⟨between, -, rfl⟩
    · exact .inr h
    · exact .inl ⟨earlier, event, between, rfl, h⟩
  · rintro (⟨earlier, event, later, rfl, h⟩ | h)
    · exact ⟨earlier, event, later ++ [last], by rw [List.append_assoc, List.cons_append], h⟩
    · exact ⟨history, last, [], rfl, h⟩

end Once

/-! ### The event that was not undone -/

/-- Where it does not depend on the events before what an event is: something has happened and was
not undone since if it happens at some event and no later one undoes it. -/
theorem since_iff_split {happens undoes : α → Prop} {history : List α} :
    Since (fun _ event => happens event) (fun _ event => undoes event) history ↔
      ∃ earlier event later, history = earlier ++ event :: later ∧ happens event ∧
        ∀ other ∈ later, ¬ undoes other := by
  -- by the last event: it happened there, or before and the event did not undo it
  induction history using List.reverseRecOn with
  | nil =>
    refine iff_of_false not_since_nil ?_
    rintro ⟨earlier, event, later, hnil, -⟩
    exact List.append_ne_nil_of_right_ne_nil earlier (List.cons_ne_nil event later) hnil.symm
  | append_singleton history last ih =>
    rw [since_concat, ih]
    constructor
    · rintro (hlast | ⟨⟨earlier, event, later, rfl, hevent, hkept⟩, hlast⟩)
      · exact ⟨history, last, [], rfl, hlast, fun _ hother => absurd hother List.not_mem_nil⟩
      · refine ⟨earlier, event, later ++ [last], by simp, hevent, fun other hother => ?_⟩
        rcases List.mem_append.1 hother with hother | hother
        · exact hkept other hother
        · rwa [List.mem_singleton.1 hother]
    · rintro ⟨earlier, event, later, hsplit, hevent, hkept⟩
      rcases split_concat hsplit with ⟨rfl, rfl, -⟩ | ⟨between, rfl, rfl⟩
      · exact .inl hevent
      · rw [List.forall_mem_append] at hkept
        exact .inr ⟨⟨earlier, event, between, rfl, hevent, hkept.1⟩,
          hkept.2 last (List.mem_singleton_self last)⟩

end JuliaSession
