import JuliaSession.Proofs.Client.Keeping
import JuliaSession.Proofs.Histories

/-!
# Handlers of notifications

The host registers handlers and takes them back, in any order and as often as it likes: a
registration can be taken back late, more than once, or after another handler has replaced it. What
counts is the history: a handler listens to a method if it was registered for it last and no
registration of the same handler for the method was taken back since.

* `Talk.Listens`: this, for a history of uses.
* `Talk.get?_handlers_after`: the table of handlers holds the handlers that listen, however the
  session is used. So starts and stops are nothing to it.
* `Talk.notification_delivered`: a notification is passed on to the handler that listens to its
  method and to no other.
-/

namespace JuliaSession

open Client (Notifies)

/-! ### Who listens -/

/-- The use ends that the handler listens to the method: it registers a handler for the method, or
it takes back a registration of the same handler for it. -/
def Use.Silences (method : String) (handler : Handler) : Use → Prop
  | .subscribe other _ => other = method
  | .unsubscribe other taken => other = method ∧ taken.key = handler.key
  | _ => False

namespace Talk

variable {method : String} {handler : Handler}

/-- The handler was registered for the method, and since then no handler was registered for it and
no registration of the same handler for it was taken back. -/
def Listens (method : String) (handler : Handler) (uses : List Use) : Prop :=
  Since (fun _ use => use = .subscribe method handler)
    (fun _ use => use.Silences method handler) uses

/-- The handler was registered for the method at some use, and no later use silences it. -/
theorem listens_iff {uses : List Use} :
    Listens method handler uses ↔
      ∃ earlier later, uses = earlier ++ .subscribe method handler :: later ∧
        ∀ use ∈ later, ¬ use.Silences method handler := by
  rw [Listens, since_iff_split]
  constructor
  · rintro ⟨earlier, _, later, hsplit, rfl, hkept⟩
    exact ⟨earlier, later, hsplit, hkept⟩
  · rintro ⟨earlier, later, hsplit, hkept⟩
    exact ⟨earlier, _, later, hsplit, rfl, hkept⟩

/-- At most one handler listens to a method. -/
theorem Listens.unique {other : Handler} {uses : List Use} (h : Listens method handler uses)
    (h' : Listens method other uses) : handler = other := by
  induction uses using List.reverseRecOn with
  | nil => exact absurd h not_since_nil
  | append_singleton uses use ih =>
    -- what is registered last silences whatever listened before
    rcases since_concat.1 h with rfl | ⟨hbefore, hkept⟩
    · rcases since_concat.1 h' with ⟨⟨⟩⟩ | ⟨-, hkept'⟩
      · rfl
      · exact absurd rfl hkept'
    · rcases since_concat.1 h' with rfl | ⟨hbefore', -⟩
      · exact absurd rfl hkept
      · exact ih hbefore hbefore'

/-! ### The table of handlers -/

/-- A use puts a handler into the table by registering it, and leaves it there unless it silences
it. -/
theorem get?_handlers_use (use : Use) (talk : Talk) :
    Assoc.get? method (use.dialog.perform talk).2.session.client.handlers = some handler ↔
      use = .subscribe method handler ∨
        (Assoc.get? method talk.session.client.handlers = some handler ∧
          ¬ use.Silences method handler) := by
  cases use with
  | subscribe other registered =>
    rw [Use.dialog, Dialog.perform_modifyClient]
    dsimp only [Client.subscribe]
    rw [Assoc.get?_insert]
    split_ifs with hmethod
    · subst hmethod
      constructor
      · rintro ⟨⟩
        exact .inl rfl
      · rintro (⟨⟨⟩⟩ | ⟨-, hnot⟩)
        · rfl
        · exact absurd rfl hnot
    · constructor
      · exact fun hbefore => .inr ⟨hbefore, fun hother => hmethod hother.symm⟩
      · rintro (⟨⟨⟩⟩ | ⟨hbefore, -⟩)
        · exact absurd rfl hmethod
        · exact hbefore
  | unsubscribe other taken =>
    rw [Use.dialog, Dialog.perform_modifyClient]
    dsimp only
    rw [Client.get?_unsubscribe]
    split_ifs with hgone
    · obtain ⟨rfl, current, hcurrent, hkey⟩ := hgone
      refine iff_of_false not_false ?_
      rintro (⟨⟨⟩⟩ | ⟨hbefore, hnot⟩)
      rw [hcurrent] at hbefore
      cases hbefore
      exact hnot ⟨rfl, hkey.symm⟩
    · constructor
      · refine fun hbefore => .inr ⟨hbefore, ?_⟩
        rintro ⟨rfl, hkey⟩
        exact hgone ⟨rfl, handler, hbefore, hkey.symm⟩
      · rintro (⟨⟨⟩⟩ | ⟨hbefore, -⟩)
        exact hbefore
  -- nothing else has to do with handlers
  | _ =>
    rw [(kept_use id talk).handlers]
    simp only [reduceCtorEq, Use.Silences, not_false_eq_true, and_true, false_or]

/-- However a session without handlers is used, the handlers in its table are those that listen. -/
theorem get?_handlers_after {talk : Talk} (hnew : talk.session.client.handlers = [])
    (uses : List Use) :
    Assoc.get? method (talk.after uses).session.client.handlers = some handler ↔
      Listens method handler uses := by
  induction uses using List.reverseRecOn with
  | nil =>
    rw [after, List.foldl_nil, hnew]
    exact iff_of_false nofun not_since_nil
  | append_singleton uses use ih =>
    rw [after_concat, get?_handlers_use, ih, Listens, Listens, since_concat]

/-! ### Delivery -/

/-- However a session without handlers is used, with the server started and stopped in between as
often as it may be: a notification is passed on to the handler that listens to its method, with its
parameters, and to no other. -/
theorem notification_delivered {talk : Talk} (hnew : talk.session.client.handlers = [])
    (uses : List Use) {message params : Json} (hnotifies : Notifies message method params)
    (handler : Handler) :
    (∀ cwd given,
      (talk.after uses).session.client.react cwd message = .ok (.call handler given) ↔
        given = params ∧ Listens method handler uses) ∧
      (Listens method handler uses →
        (Dialog.handle message).perform (talk.after uses) =
          (Dialog.callHandler handler params).perform (talk.after uses)) := by
  have hreact : ∀ cwd given,
      (talk.after uses).session.client.react cwd message = .ok (.call handler given) ↔
        given = params ∧ Listens method handler uses := by
    intro cwd given
    -- the table of handlers is what the history of the uses says
    rw [Client.react_eq_call_iff]
    constructor
    · rintro ⟨other, hother, hregistered⟩
      obtain ⟨rfl, rfl⟩ := hother.unique hnotifies
      exact ⟨rfl, (get?_handlers_after hnew uses).1 hregistered⟩
    · rintro ⟨rfl, hlistens⟩
      exact ⟨method, hnotifies, (get?_handlers_after hnew uses).2 hlistens⟩
  refine ⟨hreact, fun hlistens => ?_⟩
  rw [Dialog.perform_handle, (hreact _ _).2 ⟨rfl, hlistens⟩,
    Step.perform_bind_ok (Step.perform_ofExcept _ _), Dialog.carryOut]

/-- The first of two handlers for a method is taken back twice after it was replaced, the second one
for another method only, and the server is stopped and started again: the second handler is called,
and not the first. -/
theorem notification_delivered_replaced :
    let first : Handler := ⟨1, .writeDown "a" false⟩
    let second : Handler := ⟨2, .writeDown "b" false⟩
    let uses : List Use := [.subscribe "m" first, .start, .subscribe "m" second,
      .unsubscribe "m" first, .stop, .unsubscribe "m" first, .unsubscribe "n" second, .start]
    let message : Json := .obj [("method", .str "m"), ("params", .int 7)]
    rehearsed.session.client.handlers = [] ∧ Notifies message "m" (.int 7) ∧
      Listens "m" second uses ∧
      (∀ cwd, (rehearsed.after uses).session.client.react cwd message ≠
        .ok (.call first (.int 7))) ∧
      ((Dialog.handle message).perform (rehearsed.after uses)).2.world.events =
        (rehearsed.after uses).world.events ++ [.handled "b" (.int 7)] := by
  intro first second uses message
  have hnew : rehearsed.session.client.handlers = [] := rfl
  have hnotifies : Notifies message "m" (.int 7) := .notification rfl rfl
  have hlistens : Listens "m" second uses :=
    listens_iff.2 ⟨[.subscribe "m" first, .start], _, rfl, by simp [Use.Silences, first, second]⟩
  obtain ⟨hfirst, -⟩ := notification_delivered hnew uses hnotifies first
  obtain ⟨-, hsecond⟩ := notification_delivered hnew uses hnotifies second
  refine ⟨hnew, hnotifies, hlistens, fun cwd hcalled => ?_, ?_⟩
  · have hsame : first = second := ((hfirst cwd _).1 hcalled).2.unique hlistens
    exact absurd (congrArg Handler.key hsame) (by decide : (1 : Nat) ≠ 2)
  · rw [hsecond hlistens]
    generalize rehearsed.after uses = talk
    rfl

end Talk

end JuliaSession
