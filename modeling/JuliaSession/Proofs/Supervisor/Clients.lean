import JuliaSession.Client.Sessions
import JuliaSession.Proofs.Client.Keeping

/-!
# What the supervisor relies on in its clients

The supervisor works with clients of any kind. It relies on two things: a client that has started is
ready and can be told to answer requests for texts (`SessionKind.Delivers`), and whatever is done
with a client leaves the others alone, makes no further client and changes what it answers only as
asked (`SessionKind.Lawful`). The language clients of the host are such clients (`delivers_sessions`,
`lawful_sessions`).
-/

namespace JuliaSession

open Step (Leads)

variable {σ α : Type}

/-! ### Laws -/

/-- A client that was made and has started is ready for requests, and can be told to answer requests
for texts. -/
def SessionKind.Delivers (kind : SessionKind σ) : Prop :=
  ∀ {server options before client made started},
    (kind.create server options).perform before = (.ok client, made) →
      (kind.start client).perform made = (.ok (), started) →
        ∀ world, ∃ ready served,
          (kind.awaitReady client).perform (world, started.2) = (.ok (), ready) ∧
            (kind.serveTexts client).perform ready = (.ok (), served)

/-- How many clients were made, and what each of them answers requests for texts with. -/
structure Census (σ : Type) where
  /-- The clients that were made have the numbers below this one. -/
  count : σ → Nat
  /-- The handler of a client for requests for texts. -/
  texts : σ → Nat → Option Handler

namespace Census

variable (census : Census σ)

/-- There are the same clients, and each answers as before. -/
structure Same (before after : World × σ) : Prop where
  /-- No client was made. -/
  count : census.count after.2 = census.count before.2
  /-- Every client answers as before. -/
  texts : census.texts after.2 = census.texts before.2

instance : Std.Refl census.Same := ⟨fun _ => ⟨rfl, rfl⟩⟩

instance : Trans census.Same census.Same census.Same :=
  ⟨fun h h' => ⟨h'.count.trans h.count, h'.texts.trans h.texts⟩⟩

/-- There are the same clients, and one of them answers in its own way from here on. -/
structure Sets (client : Nat) (handler : Option Handler) (before after : World × σ) : Prop where
  /-- No client was made. -/
  count : census.count after.2 = census.count before.2
  /-- The client answers by the handler, every other client as before. -/
  texts : census.texts after.2 = Function.update (census.texts before.2) client handler

end Census

/-- Clients that are made one after the other, and do nothing to one another. -/
structure SessionKind.Lawful (kind : SessionKind σ) (census : Census σ) : Prop where
  /-- A client that is made has the next number, and answers no requests for texts. -/
  create_ok {server : ServerOptions} {options : ClientOptions} {before after : World × σ}
    {client : Nat} (h : (kind.create server options).perform before = (.ok client, after)) :
    client = census.count before.2 ∧ census.count after.2 = census.count before.2 + 1 ∧
      census.texts after.2 = Function.update (census.texts before.2) client none
  /-- A client that is not made changes nothing. -/
  create_error (server : ServerOptions) (options : ClientOptions) :
    Step.LeadsFailing census.Same (kind.create server options)
  /-- Starting a client does not change what it answers. -/
  start (client : Nat) : Leads census.Same (kind.start client)
  /-- Stopping a client does not change what it answers. -/
  stop (client : Nat) : Leads census.Same (kind.stop client)
  /-- Waiting for a client does not change what it answers. -/
  awaitReady (client : Nat) : Leads census.Same (kind.awaitReady client)
  /-- A client that is told to answer does so. -/
  serveTexts {client : Nat} {before after : World × σ} (hmade : client < census.count before.2)
    (h : (kind.serveTexts client).perform before = (.ok (), after)) :
    census.Sets client (some Sessions.textHandler) before after
  /-- A client that answers can be told not to answer any more. -/
  refuseTexts {client : Nat} {before : World × σ}
    (h : census.texts before.2 client = some Sessions.textHandler) :
    ∃ after, (kind.refuseTexts client).perform before = (.ok (), after) ∧
      census.Sets client none before after

/-! ### Language clients -/

namespace Sessions

/-- The sessions that were made. -/
def census : Census Sessions where
  count := List.length
  texts sessions client :=
    (sessions[client]?).bind fun session =>
      Assoc.get? DocumentStore.fullTextRequest session.client.handlers

/-- What is done in the dialog of a session is done with that session. -/
theorem perform_within {sessions : Sessions} {client : Nat} {session : Session}
    (h : sessions[client]? = some session) (dialog : Dialog α) (world : World) :
    (within client dialog).perform (world, sessions) =
      let (result, talk) := dialog.perform ⟨world, session⟩
      (result, talk.world, sessions.set client talk.session) := by
  unfold within
  rw [Step.perform_get_bind]
  dsimp only
  rw [h]
  rfl

theorem perform_within_none {sessions : Sessions} {client : Nat} (h : sessions[client]? = none)
    (dialog : Dialog α) (world : World) :
    (within client dialog).perform (world, sessions) =
      (.error (.missingKey (toString client)), world, sessions) := by
  unfold within
  rw [Step.perform_get_bind]
  dsimp only
  rw [h]
  rfl

/-- A session that is exchanged answers by its own handlers, every other session as before. -/
theorem texts_set {sessions : Sessions} {client : Nat} {session : Session}
    (h : sessions[client]? = some session) (other : Session) :
    census.texts (sessions.set client other) =
      Function.update (census.texts sessions) client
        (Assoc.get? DocumentStore.fullTextRequest other.client.handlers) := by
  funext number
  unfold census
  dsimp only
  rw [List.getElem?_set, Function.update_apply]
  by_cases hnumber : number = client
  · rw [if_pos hnumber, if_pos hnumber.symm, if_pos (List.getElem?_eq_some_iff.1 h).1]
    rfl
  · rw [if_neg hnumber, if_neg (Ne.symm hnumber)]

/-- A dialog in which the client keeps its handlers changes no answers. -/
theorem same_within {client : Nat} {dialog : Dialog α}
    (h : Leads (fun before after =>
      after.session.client.handlers = before.session.client.handlers) dialog) :
    Leads census.Same (within client dialog) := by
  rintro ⟨world, sessions⟩
  cases hsession : sessions[client]? with
  | none =>
    rw [perform_within_none hsession]
    exact ⟨rfl, rfl⟩
  | some session =>
    rw [perform_within hsession]
    refine ⟨List.length_set .., (texts_set hsession _).trans ?_⟩
    rw [h ⟨world, session⟩, Function.update_eq_self_iff]
    change _ = Option.bind sessions[client]? _
    rw [hsession]
    rfl

/-- A session that was made is the last one, and answers no requests for texts. -/
theorem create_cases {server : ServerOptions} {options : ClientOptions}
    {before after : World × Sessions} {client : Nat}
    (h : (kind.create server options).perform before = (.ok client, after)) :
    client = before.2.length ∧ ∃ session, after.2 = before.2 ++ [session] ∧
      session.peer = none ∧ session.client.handlers = [] := by
  cases h
  exact ⟨rfl, _, rfl, rfl, rfl⟩

/-- A client that is ready is not waited for. -/
theorem perform_awaitReady (talk : Talk) (h : talk.session.client.ready = true) :
    Dialog.awaitReady.perform talk = (.ok (), talk) := by
  unfold Dialog.awaitReady
  rw [Step.perform_bind_ok (Dialog.perform_client talk), h]
  rfl

/-- A language client that has started is ready. -/
theorem delivers_sessions : kind.Delivers := by
  intro server options before client made started hcreate hstart world
  obtain ⟨rfl, session, hmade, hpeer, -⟩ := create_cases hcreate
  obtain ⟨launched, sessions⟩ := made
  have hsession : sessions[before.2.length]? = some session := by
    rw [show sessions = _ from hmade]
    exact List.getElem?_concat_length
  have hidle : session.running = false := by
    unfold Session.running
    rw [hpeer]
    rfl
  have hrun := (perform_within hsession Dialog.start launched).symm.trans hstart
  cases hdialog : Dialog.start.perform ⟨launched, session⟩ with
  | mk result talk =>
    rw [hdialog] at hrun
    cases hrun
    -- the session is new, so its start has made it ready, and there is nothing to wait for
    have hready := Dialog.ready_of_start_ok hidle hdialog
    have hset : (sessions.set before.2.length talk.session)[before.2.length]? =
        some talk.session := List.getElem?_set_self (List.getElem?_eq_some_iff.1 hsession).1
    have hwaits := perform_within hset Dialog.awaitReady world
    rw [perform_awaitReady ⟨world, talk.session⟩ hready] at hwaits
    dsimp only at hwaits
    rw [List.set_set] at hwaits
    exact ⟨_, _, hwaits, perform_within hset _ world⟩

/-- The language clients of the host are made one after the other, and do nothing to one another. -/
theorem lawful_sessions : kind.Lawful census where
  create_ok {server options before after client} h := by
    obtain ⟨rfl, session, hafter, -, hhandlers⟩ := create_cases h
    refine ⟨rfl, ?_, ?_⟩
    · rw [hafter]
      exact List.length_append
    · funext number
      unfold census
      dsimp only
      rw [hafter, Function.update_apply]
      split
      next hnumber =>
        rw [hnumber, List.getElem?_concat_length]
        change Assoc.get? _ session.client.handlers = none
        rw [hhandlers]
        rfl
      next hnumber =>
        -- the clients before the new one are as they were, and there is none behind it
        rcases Nat.lt_or_gt_of_ne hnumber with hlt | hgt
        · rw [List.getElem?_append_left hlt]
        · rw [List.getElem?_eq_none (by simpa using Nat.succ_le_of_lt hgt),
            List.getElem?_eq_none (Nat.le_of_lt hgt)]
  create_error server options := by
    rintro state failure after ⟨⟩
  start client := same_within (Dialog.kept_start.mono Talk.Kept.handlers)
  stop client := same_within (Dialog.kept_stop.mono Talk.Kept.handlers)
  awaitReady client := same_within (Dialog.leads_awaitReady.mono Talk.Bound.handlers)
  serveTexts {client before after} _ h := by
    obtain ⟨world, sessions⟩ := before
    cases hsession : sessions[client]? with
    | none => cases (perform_within_none hsession _ world).symm.trans h
    | some session =>
      cases (perform_within hsession _ world).symm.trans h
      refine ⟨List.length_set .., (texts_set hsession _).trans ?_⟩
      exact congrArg _ (Assoc.get?_insert_self _ _ _)
  refuseTexts {client before} h := by
    obtain ⟨world, sessions⟩ := before
    obtain ⟨session, hsession, hhandler⟩ := Option.bind_eq_some_iff.1 h
    refine ⟨_, perform_within hsession _ world, List.length_set .., ?_⟩
    refine (texts_set hsession _).trans (congrArg _ ?_)
    exact (Client.get?_unsubscribe _ _ _ _).trans (if_pos ⟨rfl, _, hhandler, rfl⟩)

end Sessions

end JuliaSession
