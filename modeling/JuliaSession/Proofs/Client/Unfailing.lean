import JuliaSession.Proofs.Client.Handling

/-!
# What cannot fail in a session

Records can fail to be written, and a message of the server can fail to be handled. But what is read
apart from the client's own work is reported at most, so a few steps of a session always end well.

* `Dialog.Discipline`: a property of steps that sequences take over from their parts, and that the
  elementary steps have by which messages are sent. Whatever is made of them has it as well
  (`Dialog.Discipline.send`, `Dialog.Discipline.deliverAll`).
* `Dialog.discipline_total`: they all end well. So messages are handled one after the other, and the
  process is taken down (`Dialog.total_kill`).
-/

namespace JuliaSession

open Step (Total)
open Text.Utf8 (Bytes)

variable {α : Type}

namespace Dialog

/-- A property of steps that a sequence has if its parts have it, and that the elementary steps have
by which a session sends messages and keeps what comes back. -/
structure Discipline (holds : ∀ {α : Type}, Dialog α → Prop) : Prop where
  /-- Nothing is done. -/
  pure {α : Type} (value : α) : holds (pure value : Dialog α)
  /-- One step is done after another. -/
  bind {α β : Type} {step : Dialog α} {next : α → Dialog β} (h : holds step)
    (hnext : ∀ value, holds (next value)) : holds (step >>= next)
  /-- The session is read. -/
  session : holds session
  /-- The session changes. -/
  modifySession (change : Session → Session) : holds (modifySession change)
  /-- Something is done to the outside. -/
  record (event : Event) : holds (act (Act.record event))
  /-- A server reacts to a message. -/
  accept (peer : Peer) (message : Json) : holds (act (peer.accept message))
  /-- Something that the server logs is passed on, if that can be written down. -/
  trace (message : Json) (more : Log.Fields) : holds (trace message more).attempt
  /-- Something is reported, if that can be written down. -/
  log (level : Log.Level) (text : String) (more : Log.Fields) : holds (log level text more).attempt

namespace Discipline

variable {holds : ∀ {α : Type}, Dialog α → Prop} (h : Discipline holds)
include h

theorem client : holds client := h.bind h.session fun _ => h.pure _

/-! ### Streams -/

theorem passLine (line : Bytes) : holds (passLine line) := by
  unfold Dialog.passLine
  dsimp only
  split
  · exact h.pure _
  · exact h.bind (h.trace _ _) fun _ => h.pure _

theorem passLines (lines : List Bytes) : holds (passLines lines) := by
  induction lines using passLines.induct with
  | case1 => exact h.modifySession _
  | case2 rest => exact h.modifySession _
  | case3 line rest hmore ih =>
    rw [passLines.eq_3 line rest hmore]
    exact h.bind (h.passLine line) fun _ => ih

theorem takeIn (arrival : Arrival) : holds (takeIn arrival) := by
  refine h.bind (h.modifySession _) fun _ => h.bind h.session fun _ => ?_
  split
  · exact h.bind h.session fun _ => h.passLines _
  · exact h.pure _

theorem endErrors : holds endErrors :=
  h.bind h.session fun _ => h.bind (h.passLine _) fun _ => h.modifySession _

/-- Messages are sent, and what comes back for them is kept. -/
theorem send (messages : List Json) : holds (send messages) := by
  induction messages with
  | nil => exact h.pure _
  | cons message rest ih =>
    refine h.bind (h.record _) fun _ => h.bind h.session fun _ => ?_
    dsimp only
    split
    · exact ih
    · refine h.bind (h.accept _ _) fun (peer, arrival) => ?_
      refine h.bind (h.modifySession _) fun _ => h.bind (h.takeIn _) fun _ => ?_
      split
      · exact h.bind h.endErrors fun _ => ih
      · exact ih

theorem notify (method : String) (params : Json) : holds (notify method params) :=
  h.bind h.client fun _ => h.send _

/-! ### Messages of the server -/

/-- A message of the server is handled or reported. -/
theorem deliver {message : Json} (hhandle : holds (handle message).attempt) :
    holds (deliver message) := by
  refine h.bind hhandle fun _ => ?_
  split
  · exact h.pure _
  · exact h.bind (h.log _ _ _) fun _ => h.pure _

theorem deliverAll (hhandle : ∀ message, holds (handle message).attempt) (messages : List Json) :
    holds (deliverAll messages) := by
  induction messages with
  | nil => exact h.pure _
  | cons message rest ih => exact h.bind (h.deliver (hhandle message)) fun _ => ih

end Discipline

end Dialog

/-! ### Steps that end well -/

namespace Act

theorem total_record (event : Event) : Total (record event) := .modify _

theorem total_machine : Total machine := fun _ => ⟨_, rfl⟩

end Act

/-- A server takes a message whatever it is. -/
theorem Peer.total_accept (peer : Peer) (message : Json) : Total (peer.accept message) := by
  unfold accept
  split
  · split <;> exact .pure _
  · split
    · refine .bind Act.total_machine fun _ => .bind (.modify _) fun _ => ?_
      dsimp only
      split <;> exact .pure _
    · exact .pure _

namespace Dialog

theorem total_act {step : Act α} (h : Total step) : Total (act step) := h.onPart

/-- Messages are sent, whatever comes back for them. -/
theorem discipline_total : Discipline Total where
  pure := .pure
  bind := .bind
  session talk := ⟨talk.session, rfl⟩
  modifySession _ := .modify _
  record event := total_act (Act.total_record event)
  accept peer message := total_act (peer.total_accept message)
  trace _ _ := .attempt _
  log _ _ _ := .attempt _

theorem perform_deliverAll_cons (message : Json) (rest : List Json) (talk : Talk) :
    (deliverAll (message :: rest)).perform talk =
      (deliverAll rest).perform ((deliver message).perform talk).2 := by
  have htotal : Total (deliver message) := discipline_total.deliver (.attempt _)
  obtain ⟨_, hrun⟩ := htotal.exists_run talk
  rw [deliverAll, Step.perform_bind_ok hrun]

/-- What comes after some messages is handled where these have led. -/
theorem perform_deliverAll_append (earlier later : List Json) (talk : Talk) :
    (deliverAll (earlier ++ later)).perform talk =
      (deliverAll later).perform ((deliverAll earlier).perform talk).2 := by
  induction earlier generalizing talk with
  | nil => rfl
  | cons message rest ih =>
    rw [List.cons_append, perform_deliverAll_cons, perform_deliverAll_cons, ih]

theorem total_takeDown (peer : Peer) : Total (takeDown peer) := by
  refine .bind (Act.total_record _) fun _ => .bind (Act.total_record _) fun _ => ?_
  split
  · exact .bind (Act.total_record _) fun _ => Act.total_record _
  · exact .pure _

theorem total_readOut : Total readOut := by
  refine .bind discipline_total.session fun _ => ?_
  split
  · exact .pure _
  · exact discipline_total.deliverAll (fun _ => .attempt _) _

/-- The process is taken down, whatever it was doing. -/
theorem total_kill : Total kill := by
  have hrest := Total.bind discipline_total.endErrors fun _ => .bind total_readOut fun _ =>
    discipline_total.modifySession fun session =>
      { session with peer := none, reader := none, client := session.client.disconnected }
  refine .bind (discipline_total.modifySession _) fun _ => ?_
  refine .bind discipline_total.session fun _ => ?_
  dsimp only
  split
  · exact hrest
  · exact .bind (total_act (total_takeDown _)) fun _ => hrest

end Dialog

end JuliaSession
