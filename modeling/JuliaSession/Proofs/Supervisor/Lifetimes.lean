import Mathlib.Data.List.Induction
import JuliaSession.Client.Sessions
import JuliaSession.Proofs.Supervisor.Launching

/-!
# How long a supervised session lasts

A session has three owners: the supervisor, which gives it up when it is disposed; the host's
extension, whose teardown disposes the subscriptions; and the registry, which can dispose all
clients. The supervisor keeps the session in a field of its own, and only its own disposal clears
the field.

* `Deed`, `run`: what can be done to a supervised session, one deed after the other.
* `Idle`, `Held`, `Lost`: between two deeds there is no session, one whose client is registered and
  up, or one that another owner ended. `known_run` says which of them it is.
* `start_gives_serving_iff`: the client that a start gives back is registered and up exactly if
  neither the extension was torn down nor all clients were disposed since the supervisor last had
  no session.
-/

namespace JuliaSession.Supervisor

open Registry (Call Vacates)

variable {σ : Type} {kind : SessionKind σ} {id : String}
  {before after : Activation (σ × List Call)}

/-! ### Deeds -/

/-- What can be done to a supervised session. -/
inductive Deed where
  /-- The supervisor starts it. -/
  | start
  /-- The supervisor is disposed. -/
  | dispose
  /-- The extension is torn down. -/
  | tearDown
  /-- The registry disposes all clients. -/
  | disposeAll
  deriving DecidableEq

/-- An activation in which nothing was done yet. -/
def untouched (world : World) (clients : σ) : Activation (σ × List Call) where
  stage := { world, clients := (clients, []) }

variable (supervisor : Supervisor) (kind)

/-- The activation after one more deed, which may have failed. -/
def carryOut (activation : Activation (σ × List Call)) : Deed → Activation (σ × List Call)
  | .start => ((supervisor.start kind.logged).perform activation).2
  | .dispose => ((Supervisor.dispose kind.logged).perform activation).2
  | .tearDown =>
    ((onStage (Registry.disposeSubscriptions kind.logged.toClientKind)).perform activation).2
  | .disposeAll => ((onStage (Registry.disposeAll kind.logged.toClientKind)).perform activation).2

/-- The activation after some more deeds. -/
def run (activation : Activation (σ × List Call)) (deeds : List Deed) :
    Activation (σ × List Call) :=
  deeds.foldl (supervisor.carryOut kind) activation

/-- Since a moment without a session, neither was the extension torn down nor were all clients
disposed. -/
def Undisturbed (activation : Activation (σ × List Call)) (deeds : List Deed) : Prop :=
  ∃ earlier later, deeds = earlier ++ later ∧
    (supervisor.run kind activation earlier).session = none ∧
      .tearDown ∉ later ∧ .disposeAll ∉ later

variable {supervisor} {kind}

/-- A client was started and was not stopped since. -/
def Up (client : Nat) (calls : List Call) : Prop :=
  ∃ earlier later, calls = earlier ++ .start client :: later ∧ .stop client ∉ later

theorem run_concat (activation : Activation (σ × List Call)) (deeds : List Deed) (deed : Deed) :
    supervisor.run kind activation (deeds ++ [deed]) =
      supervisor.carryOut kind (supervisor.run kind activation deeds) deed := by
  unfold run
  rw [List.foldl_append]
  rfl

/-- A moment without a session is undisturbed. -/
theorem undisturbed_of_session_none {activation : Activation (σ × List Call)} {deeds : List Deed}
    (h : (supervisor.run kind activation deeds).session = none) :
    supervisor.Undisturbed kind activation deeds :=
  ⟨deeds, [], (List.append_nil _).symm, h, List.not_mem_nil, List.not_mem_nil⟩

/-- As long as there is a session, it is undisturbed if it was before and the deed is neither a
teardown of the extension nor a disposal of all clients. -/
theorem undisturbed_concat_iff {activation : Activation (σ × List Call)} {deeds : List Deed}
    {deed : Deed} (h : (supervisor.run kind activation (deeds ++ [deed])).session ≠ none) :
    supervisor.Undisturbed kind activation (deeds ++ [deed]) ↔
      supervisor.Undisturbed kind activation deeds ∧ deed ≠ .tearDown ∧ deed ≠ .disposeAll := by
  constructor
  -- the moment without a session lies before the last deed, as there is a session after it
  · rintro ⟨earlier, later, hsplit, hvacant, hteardown, hdisposal⟩
    rcases List.eq_nil_or_concat later with rfl | ⟨later, last, rfl⟩
    · rw [List.append_nil] at hsplit
      rw [← hsplit] at hvacant
      exact absurd hvacant h
    · rw [List.concat_eq_append, ← List.append_assoc] at hsplit
      obtain ⟨rfl, hlast⟩ := List.append_inj' hsplit rfl
      cases hlast
      rw [List.concat_eq_append, List.mem_append, not_or, List.mem_singleton] at hteardown hdisposal
      exact ⟨⟨earlier, later, rfl, hvacant, hteardown.1, hdisposal.1⟩,
        Ne.symm hteardown.2, Ne.symm hdisposal.2⟩
  · rintro ⟨⟨earlier, later, rfl, hvacant, hteardown, hdisposal⟩, hne, hne'⟩
    refine ⟨earlier, later ++ [deed], List.append_assoc _ _ _, hvacant, ?_, ?_⟩
    · rw [List.mem_append, List.mem_singleton, not_or]
      exact ⟨hteardown, Ne.symm hne⟩
    · rw [List.mem_append, List.mem_singleton, not_or]
      exact ⟨hdisposal, Ne.symm hne'⟩

/-! ### Phases -/

/-- Nobody is registered under an id other than the one that clients are made under. -/
def Alone (id : String) (activation : Activation (σ × List Call)) : Prop :=
  ∀ {other}, other ≠ id → activation.stage.registry.get? other = none

/-- There is no session. -/
structure Idle (activation : Activation (σ × List Call)) : Prop where
  /-- The supervisor holds none. -/
  session : activation.session = none
  /-- Nothing is torn down with the extension. -/
  subscriptions : activation.stage.registry.subscriptions = []

/-- There is a session, and its client is registered and up. -/
structure Held (id : String) (session : Running) (activation : Activation (σ × List Call)) :
    Prop where
  /-- The supervisor holds it. -/
  holds : activation.session = some session
  /-- Its handle is torn down with the extension. -/
  subscriptions : activation.stage.registry.subscriptions = [session.registration]
  /-- Its handle was not disposed. -/
  armed : activation.stage.registry.disposables[session.registration]? =
    some (some (.unregister id))
  /-- Its client is registered. -/
  registered : activation.stage.registry.get? id = some session.client
  /-- Its client is up. -/
  up : Up session.client activation.stage.clients.2

/-- The supervisor holds a session that another owner ended. -/
structure Lost (id : String) (session : Running) (activation : Activation (σ × List Call)) :
    Prop where
  /-- The supervisor holds it. -/
  holds : activation.session = some session
  /-- Nothing but its handle is torn down with the extension. -/
  subscriptions : activation.stage.registry.subscriptions = [session.registration] ∨
    activation.stage.registry.subscriptions = []
  /-- Nobody is registered. -/
  vacant : activation.stage.registry.get? id = none

theorem SameHouse.alone (h : SameHouse before after) (halone : Alone id before) :
    Alone id after := fun hne => by rw [h.registry, halone hne]

theorem SameHouse.idle (h : SameHouse before after) (hidle : Idle before) : Idle after :=
  ⟨h.session.trans hidle.session, by rw [h.registry, hidle.subscriptions]⟩

theorem SameHouse.held {session : Running} (h : SameHouse before after)
    (hheld : Held id session before) : Held id session after where
  holds := h.session.trans hheld.holds
  subscriptions := by rw [h.registry, hheld.subscriptions]
  armed := by rw [h.registry, hheld.armed]
  registered := by rw [h.registry, hheld.registered]
  up := by rw [h.calls]; exact hheld.up

theorem SameHouse.lost {session : Running} (h : SameHouse before after)
    (hlost : Lost id session before) : Lost id session after where
  holds := h.session.trans hlost.holds
  subscriptions := by rw [h.registry]; exact hlost.subscriptions
  vacant := by rw [h.registry, hlost.vacant]

/-! ### One deed -/

theorem Refuses.alone (h : Refuses id before after) (halone : Alone id before) : Alone id after :=
  fun hne => h.others hne (halone hne)

theorem Refuses.idle (h : Refuses id before after) (hidle : Idle before) : Idle after :=
  ⟨h.session.trans hidle.session, h.subscriptions.trans hidle.subscriptions⟩

theorem Opens.alone {session : Running} (h : Opens id before session after)
    (halone : Alone id before) : Alone id after := by
  intro other hne
  rw [h.registry]
  change (Registry.enter _ id session.client).get? other = none
  rw [Registry.get?_enter, if_neg hne, Registry.get?_handOut, halone hne]

theorem Opens.held {session : Running} (h : Opens id before session after) (hidle : Idle before) :
    Held id session after where
  holds := h.session
  subscriptions := by
    rw [h.registry]
    change before.stage.registry.subscriptions ++ [session.registration] = _
    rw [hidle.subscriptions, List.nil_append]
  armed := by
    rw [h.registry]
    change (before.stage.registry.handOut (.unregister id)).2.disposables[_]? = _
    rw [Registry.getElem?_handOut, if_pos h.registration]
  registered := by
    rw [h.registry]
    change (Registry.enter _ id session.client).get? id = _
    rw [Registry.get?_enter, if_pos rfl]
  up := by
    rw [h.calls]
    exact ⟨before.stage.clients.2, [], rfl, List.not_mem_nil⟩

/-- A start while there is a session changes nothing and gives its client back. -/
theorem start_some {session : Running} (hsession : before.session = some session)
    {result : Except Failure (Option Nat)}
    (h : (supervisor.start kind.logged).perform before = (result, after)) :
    SameHouse before after ∧ ∀ client, result = .ok (some client) → client = session.client := by
  obtain ⟨hafter, hclient⟩ := start_held hsession h
  refine ⟨?_, hclient⟩
  rw [hafter]
  exact ⟨rfl, rfl, rfl⟩

/-- The supervisor forgets a session and disposes its handle. -/
theorem forget_cases {session : Running}
    (hsubscriptions : before.stage.registry.subscriptions = [session.registration] ∨
      before.stage.registry.subscriptions = []) (halone : Alone id before)
    {result : Except Failure Unit}
    (h : (do
        setSession none
        onStage (Stage.modifyRegistry fun registry => registry.release session.registration)
        onStage (Registry.dispose kind.logged.toClientKind session.registration)).perform before =
      (result, after)) : Idle after ∧ Alone id after := by
  rw [perform_setSession_bind, perform_modifyRegistry_bind] at h
  cases h
  have hvacates := Registry.clears_vacates.dispose kind.logged.toClientKind session.registration
    { before.stage with registry := before.stage.registry.release session.registration }
  refine ⟨⟨rfl, hvacates.subscriptions.trans ?_⟩, fun hne => hvacates.vacant (halone hne)⟩
  rcases hsubscriptions with h | h <;> simp [Registry.release, h]

/-- The supervisor gives up its session, unless the client cannot be told to refuse requests for
texts. Then nothing has changed. -/
theorem dispose_some {session : Running} (hsession : before.session = some session)
    (hsubscriptions : before.stage.registry.subscriptions = [session.registration] ∨
      before.stage.registry.subscriptions = []) (halone : Alone id before)
    {result : Except Failure Unit}
    (h : (Supervisor.dispose kind.logged).perform before = (result, after)) :
    SameHouse before after ∨ Idle after ∧ Alone id after := by
  unfold Supervisor.dispose at h
  rw [Step.perform_get_bind, hsession] at h
  dsimp only at h
  split at h
  next =>
    -- only a client that answers requests for texts is told to refuse them
    cases hrefuse : (onStage (Stage.withClients
        (kind.logged.refuseTexts session.client))).perform before with
    | mk outcome told =>
      have hsame : SameHouse before told := (sameHouse_within _).ends hrefuse
      cases outcome with
      | error failure =>
        rw [Step.perform_bind_error hrefuse] at h
        cases h
        exact .inl hsame
      | ok =>
        rw [Step.perform_bind_ok hrefuse] at h
        exact .inr (forget_cases (by rwa [hsame.registry]) (hsame.alone halone) h)
  next => exact .inr (forget_cases hsubscriptions halone h)

/-- What another owner does to the registry: vacant places stay vacant, and the subscriptions stay
the same or are all torn down. -/
structure Clearing (before after : Activation (σ × List Call)) : Prop where
  /-- The supervisor holds the same session. -/
  session : after.session = before.session
  /-- A vacant place stays vacant. -/
  vacant : ∀ {id}, before.stage.registry.get? id = none → after.stage.registry.get? id = none
  /-- The subscriptions are the same, or there are none any more. -/
  subscriptions : after.stage.registry.subscriptions = before.stage.registry.subscriptions ∨
    after.stage.registry.subscriptions = []

theorem Clearing.idle (h : Clearing before after) (hidle : Idle before) : Idle after := by
  refine ⟨h.session.trans hidle.session, ?_⟩
  rcases h.subscriptions with hsame | hnone
  · rw [hsame, hidle.subscriptions]
  · exact hnone

theorem Clearing.lost {session : Running} (h : Clearing before after)
    (hholds : before.session = some session)
    (hsubscriptions : before.stage.registry.subscriptions = [session.registration] ∨
      before.stage.registry.subscriptions = [])
    (hvacant : after.stage.registry.get? id = none) : Lost id session after := by
  refine ⟨h.session.trans hholds, ?_, hvacant⟩
  rcases h.subscriptions with hsame | hnone
  · rwa [hsame]
  · exact .inr hnone

/-- A teardown of the extension is a clearing as long as there is at most one subscription. -/
theorem clearing_tearDown (h : before.stage.registry.subscriptions.length ≤ 1) :
    Clearing before (supervisor.carryOut kind before .tearDown) := by
  have hvacates := Registry.disposeSubscriptions_vacates kind.logged.toClientKind h
  exact ⟨rfl, fun hnone => hvacates.vacant hnone, .inr hvacates.subscriptions⟩

/-- Disposing all clients is a clearing. -/
theorem clearing_disposeAll : Clearing before (supervisor.carryOut kind before .disposeAll) := by
  have hvacates := Registry.clears_vacates.disposeAll kind.logged.toClientKind before.stage
  exact ⟨rfl, fun hnone => hvacates.vacant hnone, .inl hvacates.subscriptions⟩

/-- A teardown of the extension takes the client of a session out. -/
theorem Held.vacant_tearDown {session : Running} (h : Held id session before) :
    (supervisor.carryOut kind before .tearDown).stage.registry.get? id = none :=
  (congrArg (Registry.get? · id)
    (Registry.registry_disposeSubscriptions_singleton kind.logged.toClientKind h.subscriptions)).trans
      (Registry.get?_dispose kind.logged.toClientKind h.armed)

/-! ### Every deed -/

/-- What is known between two deeds: there is no session, one that is held and was not disturbed, or
one that was. -/
inductive Phase (id : String) (undisturbed : Prop) (activation : Activation (σ × List Call)) :
    Prop where
  /-- There is no session. -/
  | idle (h : Idle activation)
  /-- There is a session that is up. -/
  | held (session : Running) (h : Held id session activation) (hstill : undisturbed)
  /-- There is a session that another owner ended. -/
  | lost (session : Running) (h : Lost id session activation) (hended : ¬ undisturbed)

/-- There is at most one subscription in every phase. -/
theorem Phase.subscriptions {undisturbed : Prop} (h : Phase id undisturbed before) :
    before.stage.registry.subscriptions.length ≤ 1 := by
  cases h with
  | idle h => simp [h.subscriptions]
  | held session h => simp [h.subscriptions]
  | lost session h => rcases h.subscriptions with h | h <;> simp [h]

/-- What is known after some deeds. -/
structure Known (supervisor : Supervisor) (kind : SessionKind σ) (id : String)
    (activation : Activation (σ × List Call)) (deeds : List Deed) : Prop where
  /-- Nobody else is registered. -/
  alone : Alone id (supervisor.run kind activation deeds)
  /-- The phase of the session. -/
  phase : Phase id (supervisor.Undisturbed kind activation deeds)
    (supervisor.run kind activation deeds)

theorem known_untouched (world : World) (clients : σ) :
    Known supervisor kind id (untouched world clients) [] where
  alone _ := rfl
  phase := .idle ⟨rfl, rfl⟩

namespace Known

variable {activation : Activation (σ × List Call)} {deeds : List Deed} {deed : Deed}

/-- A deed of the supervisor that leaves the session alone. -/
theorem same (h : Known supervisor kind id activation deeds)
    (hdeed : deed ≠ .tearDown ∧ deed ≠ .disposeAll)
    (hsame : SameHouse (supervisor.run kind activation deeds)
      (supervisor.run kind activation (deeds ++ [deed]))) :
    Known supervisor kind id activation (deeds ++ [deed]) := by
  refine ⟨hsame.alone h.alone, ?_⟩
  cases h.phase with
  | idle hidle => exact .idle (hsame.idle hidle)
  | held session hheld hstill =>
    have hafter := hsame.held hheld
    refine .held session hafter ((undisturbed_concat_iff ?_).2 ⟨hstill, hdeed⟩)
    rw [hafter.holds]
    exact Option.some_ne_none _
  | lost session hlost hended =>
    have hafter := hsame.lost hlost
    refine .lost session hafter fun hstill => hended ((undisturbed_concat_iff ?_).1 hstill).1
    rw [hafter.holds]
    exact Option.some_ne_none _

/-- A deed of another owner loses the session. -/
theorem clear (h : Known supervisor kind id activation deeds)
    (hdeed : ¬ (deed ≠ .tearDown ∧ deed ≠ .disposeAll))
    (hclearing : Clearing (supervisor.run kind activation deeds)
      (supervisor.run kind activation (deeds ++ [deed])))
    (hgone : ∀ session, Held id session (supervisor.run kind activation deeds) →
      (supervisor.run kind activation (deeds ++ [deed])).stage.registry.get? id = none) :
    Known supervisor kind id activation (deeds ++ [deed]) := by
  refine ⟨fun hne => hclearing.vacant (h.alone hne), ?_⟩
  have hlost : ∀ {session}, Lost id session (supervisor.run kind activation (deeds ++ [deed])) →
      ¬ supervisor.Undisturbed kind activation (deeds ++ [deed]) := by
    intro session hlost hstill
    refine hdeed ((undisturbed_concat_iff ?_).1 hstill).2
    rw [hlost.holds]
    exact Option.some_ne_none _
  -- a session that is held loses its client, and one that was lost stays so
  cases h.phase with
  | idle hidle => exact .idle (hclearing.idle hidle)
  | held session hheld hstill =>
    have hafter := hclearing.lost hheld.holds (.inl hheld.subscriptions) (hgone session hheld)
    exact .lost session hafter (hlost hafter)
  | lost session hbefore hended =>
    have hafter := hclearing.lost hbefore.holds hbefore.subscriptions
      (hclearing.vacant hbefore.vacant)
    exact .lost session hafter (hlost hafter)

/-- A start leaves the session alone, or brings one about. -/
theorem start (h : Known supervisor kind id activation deeds) (hmakes : kind.MakesUnder id) :
    Known supervisor kind id activation (deeds ++ [.start]) := by
  cases hstart : (supervisor.start kind.logged).perform (supervisor.run kind activation deeds) with
  | mk result after =>
    have hafter : supervisor.run kind activation (deeds ++ [.start]) = after := by
      rw [run_concat]
      exact congrArg Prod.snd hstart
    -- while there is a session, a start does nothing
    have hsome : ∀ {session}, (supervisor.run kind activation deeds).session = some session →
        Known supervisor kind id activation (deeds ++ [.start]) := fun hsession =>
      h.same (by decide) (hafter ▸ (start_some hsession hstart).1)
    cases h.phase with
    | held session hheld => exact hsome hheld.holds
    | lost session hlost => exact hsome hlost.holds
    | idle hidle =>
      rcases start_cases hmakes supervisor hidle.session hstart with
        ⟨session, hopens, -⟩ | ⟨-, hrefuses⟩
      · refine ⟨hafter ▸ hopens.alone h.alone, .held session (hafter ▸ hopens.held hidle) ?_⟩
        refine (undisturbed_concat_iff ?_).2
          ⟨undisturbed_of_session_none hidle.session, by decide⟩
        rw [hafter, hopens.session]
        exact Option.some_ne_none _
      · exact ⟨hafter ▸ hrefuses.alone h.alone, .idle (hafter ▸ hrefuses.idle hidle)⟩

/-- A disposal of the supervisor leaves the session alone, or ends it. -/
theorem dispose (h : Known supervisor kind id activation deeds) :
    Known supervisor kind id activation (deeds ++ [.dispose]) := by
  cases hdispose : (Supervisor.dispose kind.logged).perform
      (supervisor.run kind activation deeds) with
  | mk result after =>
    have hafter : supervisor.run kind activation (deeds ++ [.dispose]) = after := by
      rw [run_concat]
      exact congrArg Prod.snd hdispose
    -- it does not matter whether another owner has ended the session before
    have hsome : ∀ {session}, (supervisor.run kind activation deeds).session = some session →
        (supervisor.run kind activation deeds).stage.registry.subscriptions =
            [session.registration] ∨
          (supervisor.run kind activation deeds).stage.registry.subscriptions = [] →
        Known supervisor kind id activation (deeds ++ [.dispose]) := by
      intro session hsession hsubscriptions
      rcases dispose_some hsession hsubscriptions h.alone hdispose with hsame | ⟨hidle, halone⟩
      · exact h.same (by decide) (hafter ▸ hsame)
      · exact ⟨hafter ▸ halone, .idle (hafter ▸ hidle)⟩
    cases h.phase with
    | held session hheld => exact hsome hheld.holds (.inl hheld.subscriptions)
    | lost session hlost => exact hsome hlost.holds hlost.subscriptions
    | idle hidle =>
      refine h.same (by decide) ?_
      rw [run_concat]
      unfold carryOut Supervisor.dispose
      rw [Step.perform_get_bind, hidle.session]
      exact ⟨rfl, rfl, rfl⟩

/-- Every deed keeps what is known. -/
theorem concat (h : Known supervisor kind id activation deeds) (hmakes : kind.MakesUnder id)
    (deed : Deed) : Known supervisor kind id activation (deeds ++ [deed]) := by
  cases deed with
  | start => exact h.start hmakes
  | dispose => exact h.dispose
  | tearDown =>
    refine h.clear (by decide) ?_ fun session hheld => ?_
    · rw [run_concat]
      exact clearing_tearDown h.phase.subscriptions
    · rw [run_concat]
      exact hheld.vacant_tearDown
  | disposeAll =>
    refine h.clear (by decide) ?_ fun session hheld => ?_
    · rw [run_concat]
      exact clearing_disposeAll
    · rw [run_concat]
      exact Registry.get?_disposeAll _ h.alone

end Known

/-- What is known between two deeds, whatever was done. -/
theorem known_run (hmakes : kind.MakesUnder id) (world : World) (clients : σ)
    (deeds : List Deed) : Known supervisor kind id (untouched world clients) deeds := by
  induction deeds using List.reverseRecOn with
  | nil => exact known_untouched world clients
  | append_singleton deeds deed ih => exact ih.concat hmakes deed

/-! ### The client that a start gives back -/

/-- A client is registered under its id and up. -/
def Serves (id : String) (client : Nat) (activation : Activation (σ × List Call)) : Prop :=
  activation.stage.registry.get? id = some client ∧ Up client activation.stage.clients.2

/-- The client that a start gives back is registered and was not stopped since it was started
exactly if, since the supervisor last had no session, neither the extension was torn down nor all
clients were disposed. Otherwise the start gives back the client of a session that another owner
ended. -/
theorem start_gives_serving_iff (supervisor : Supervisor) (hmakes : kind.MakesUnder id)
    (world : World) (clients : σ) (deeds : List Deed) {client : Nat}
    (h : (supervisor.start kind.logged).perform
        (supervisor.run kind (untouched world clients) deeds) = (.ok (some client), after)) :
    Serves id client after ↔
      supervisor.Undisturbed kind (untouched world clients) deeds := by
  have hknown : Known supervisor kind id (untouched world clients) deeds :=
    known_run hmakes world clients deeds
  -- the next start makes a session, or gives back one that is held, or one that was lost
  cases hknown.phase with
  | idle hidle =>
    rcases start_cases hmakes supervisor hidle.session h with
      ⟨session, hopens, hclient⟩ | ⟨hnone, -⟩
    · cases hclient client rfl
      have hheld := hopens.held hidle
      exact ⟨fun _ => undisturbed_of_session_none hidle.session,
        fun _ => ⟨hheld.registered, hheld.up⟩⟩
    · exact absurd rfl (hnone client)
  | held session hheld hstill =>
    obtain ⟨hsame, hclient⟩ := start_some hheld.holds h
    cases hclient client rfl
    have hafter := hsame.held hheld
    exact ⟨fun _ => hstill, fun _ => ⟨hafter.registered, hafter.up⟩⟩
  | lost session hlost hended =>
    have hafter := (start_some hlost.holds h).1.lost hlost
    constructor
    · rintro ⟨hregistered, -⟩
      rw [hafter.vacant] at hregistered
      cases hregistered
    · exact fun hstill => absurd hstill hended

/-- The client is made under the id that the host calls the client of the extension by. -/
theorem makesUnder_sessions : Sessions.kind.MakesUnder Sessions.clientId := by
  intro server options state client after h
  cases h
  change Option.elim ((state.2 ++ [_])[state.2.length]?) "" _ = _
  rw [List.getElem?_concat_length]
  rfl

/-- Sessions that are all one client, which starts and stops at once. -/
def namesakes : SessionKind Unit where
  toClientKind := Registry.namesakes
  create _ _ := pure 0
  awaitReady _ := pure ()
  serveTexts _ := pure ()
  refuseTexts _ := pure ()

/-- A supervisor that runs the interpreter wherever it is. -/
def simple : Supervisor where
  layout := ⟨"extension", "storage"⟩
  tmpdir := "/tmp"
  settings := {}
  host := Host.scripted true
  cwd := none
  planner _ _ := pure { command := "julia" }

/-- A session is started and the extension torn down: the next start gives back the client, which
was stopped and taken out. -/
theorem start_gives_stopped_client :
    let before := simple.run namesakes (untouched default ()) [.start, .tearDown]
    let started := (simple.start namesakes.logged).perform before
    started.1 = .ok (some 0) ∧ ¬ Serves "julia" 0 started.2 := by
  intro before started
  have hresult : started.1 = .ok (some 0) := by decide +kernel
  have hmakes : namesakes.MakesUnder "julia" := fun {_ _ _ _ _} _ => rfl
  have hdisturbed : ¬ simple.Undisturbed namesakes (untouched default ()) [.start, .tearDown] := by
    rintro ⟨earlier, later, hsplit, hvacant, hteardown, -⟩
    -- the supervisor has no session only before both deeds, and the teardown comes after that
    match earlier, hsplit with
    | [], hsplit =>
      rw [List.nil_append] at hsplit
      rw [← hsplit] at hteardown
      exact hteardown (by decide)
    | [_], hsplit =>
      cases hsplit
      revert hvacant
      decide +kernel
    | [_, _], hsplit =>
      cases hsplit
      revert hvacant
      decide +kernel
  have hrun : (simple.start namesakes.logged).perform before = (.ok (some 0), started.2) := by
    rw [← hresult]
  rw [start_gives_serving_iff simple hmakes default () [.start, .tearDown] hrun]
  exact ⟨hresult, hdisturbed⟩

end JuliaSession.Supervisor
