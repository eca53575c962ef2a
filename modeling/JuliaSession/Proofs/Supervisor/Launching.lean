import JuliaSession.Supervisor
import JuliaSession.Proofs.Registry.Handles

/-!
# What starting a session leaves behind

A start of the supervisor ends in one of two ways. Either a client was made and registered, and the
supervisor holds it with the handle of its registration (`Admits`); or there is no session, and the
registry has no new client but perhaps one under the id that clients are made under (`Refuses`).

* `RegisterRun`, `LaunchRun`, `StartRun`: how a start and its parts go, with a case for each way to
  end (`registerBy_run`, `launch_run`, `start_run`).
* `registerBy_cases`, `launch_cases`: the two ways for the parts of a start.
* `start_cases`: the two ways for a start of a supervisor without a session.
-/

namespace JuliaSession

open Registry (Call)

variable {σ α : Type}

/-- A step on the world and the clients of clients that log their calls. -/
def Registry.within (step : Step (World × σ) α) : Step (World × σ × List Call) α :=
  step.onPart (fun (world, clients, _) => (world, clients))
    fun (_, _, calls) (world, clients) => (world, clients, calls)

/-- The same clients, with a log of the calls that start and stop them. -/
def SessionKind.logged (kind : SessionKind σ) : SessionKind (σ × List Call) where
  toClientKind := Registry.logged kind.toClientKind
  create server options := Registry.within (kind.create server options)
  awaitReady client := Registry.within (kind.awaitReady client)
  serveTexts client := Registry.within (kind.serveTexts client)
  refuseTexts client := Registry.within (kind.refuseTexts client)

/-- Clients are made under an id. -/
def SessionKind.MakesUnder (kind : SessionKind σ) (id : String) : Prop :=
  ∀ {server options state client after},
    (kind.create server options).perform state = (.ok client, after) → kind.id after.2 client = id

/-- A client that is started logs that, also if it does not start. -/
theorem Registry.calls_start (kind : ClientKind σ) (client : Nat)
    (stage : Stage (σ × List Call)) :
    ((Stage.withClients ((logged kind).start client)).perform stage).2.clients.2 =
      stage.clients.2 ++ [.start client] := rfl

/-- A client that is registered was started. -/
theorem Registry.calls_register_ok {kind : ClientKind σ} {client handle : Nat}
    {stage after : Stage (σ × List Call)}
    (h : (register (logged kind) client).perform stage = (.ok handle, after)) :
    after.clients.2 = stage.clients.2 ++ [.start client] := by
  have hfree := (register_ok h).1
  rw [register_free hfree, Step.perform_bind_ok (Step.perform_attempt _ _)] at h
  generalize (logged kind).id stage.clients client = id at h
  have hstart := calls_start kind client
    { stage with registry := stage.registry.enter id client }
  -- the record of the registration adds nothing to the calls
  revert h hstart
  rcases (Stage.withClients ((logged kind).start client)).perform
    { stage with registry := stage.registry.enter id client } with ⟨failure | _, started⟩
  · intro h hstart
    cases h
  · intro h hstart
    obtain ⟨_, noted, hnote, h⟩ := Step.perform_bind_eq_ok_iff.1 h
    have hclients := clients_note .info "registered language client" id started
    rw [hnote] at hclients
    cases h
    rw [← hstart, ← hclients]

namespace Supervisor

variable {kind : SessionKind σ} {id : String} {before after : Activation (σ × List Call)}

/-! ### Steps of a supervisor -/

@[simp]
theorem perform_setSession_bind (session : Option Running) (next : Unit → Step (Activation σ) α)
    (before : Activation σ) :
    (setSession session >>= next).perform before =
      (next ()).perform { before with session } :=
  Step.perform_modify_bind _ _ _

@[simp]
theorem perform_modifyRegistry_bind (change : Registry → Registry)
    (next : Unit → Step (Activation σ) α) (before : Activation σ) :
    (onStage (Stage.modifyRegistry change) >>= next).perform before =
      (next ()).perform { before with
        stage := { before.stage with registry := change before.stage.registry } } :=
  Step.perform_bind_ok rfl

/-! ### How a start goes -/

section Runs

variable {supervisor : Supervisor} {kind : SessionKind σ} {spec : LaunchSpec}
  {before after : Activation σ}

/-- A step on the world changes the world only. -/
theorem act_cases {step : Act α} {result : Except Failure α}
    (h : (act step).perform before = (result, after)) :
    after = ⟨{ before.stage with world := after.stage.world }, before.session⟩ ∧
      step.perform before.stage.world = (result, after.stage.world) := by
  cases h
  exact ⟨rfl, rfl⟩

/-- A step on the world and the clients changes nothing else. -/
theorem withClients_cases {step : Step (World × σ) α} {result : Except Failure α}
    (h : (onStage (Stage.withClients step)).perform before = (result, after)) :
    step.perform (before.stage.world, before.stage.clients) =
        (result, after.stage.world, after.stage.clients) ∧
      after =
        ⟨⟨after.stage.world, after.stage.clients, before.stage.registry⟩, before.session⟩ := by
  cases h
  exact ⟨rfl, rfl⟩

/-- What ends without a session after a step. -/
theorem ends_none {γ : Type} {step : Step (Activation σ) Unit} {result : Except Failure (Option γ)}
    (h : (do step; return none).perform before = (result, after)) :
    (∃ outcome, step.perform before = (outcome, after)) ∧ ∀ value, result ≠ .ok (some value) := by
  rw [Step.perform_bind] at h
  cases hstep : step.perform before with
  | mk outcome ended =>
    rw [hstep] at h
    cases outcome with
    | error failure =>
      cases h
      exact ⟨⟨_, rfl⟩, nofun⟩
    | ok =>
      cases h
      exact ⟨⟨_, rfl⟩, nofun⟩

/-- What comes to nothing still does if something is done with what it might come to. -/
theorem map_ne_ok_some {β : Type} {result : Except Failure (Option α)}
    (h : ∀ value, result ≠ .ok (some value)) (f : α → β) (value : β) :
    result.map (Option.map f) ≠ .ok (some value) := by
  rcases result with _ | _ | found
  · exact nofun
  · exact nofun
  · exact absurd rfl (h found)

theorem map_none_ne_ok_some {β : Type} (result : Except Failure α) (value : β) :
    result.map (fun _ => none) ≠ .ok (some value) := by
  cases result <;> exact nofun

theorem ok_of_map_some {result : Except Failure α} {value : α}
    (h : result.map some = .ok (some value)) : result = .ok value := by
  cases result <;> cases h
  rfl

/-- A client is made by a plan, or this fails. -/
def Creates (supervisor : Supervisor) (kind : SessionKind σ) (spec : LaunchSpec)
    (before : Activation σ) (outcome : Except Failure Nat) (made : Activation σ) : Prop :=
  (onStage (Stage.withClients (kind.create
    (supervisor.serverOptions before.stage.world.desk.machine spec)
    supervisor.clientOptions))).perform before = (outcome, made)

/-- How it goes to make a client by a plan and register it. -/
inductive RegisterRun (supervisor : Supervisor) (kind : SessionKind σ) (spec : LaunchSpec)
    (before : Activation σ) : Except Failure (Option Running) → Activation σ → Prop
  /-- No client is made. -/
  | unmade {failure : Failure} {made : Activation σ}
    (hcreate : supervisor.Creates kind spec before (.error failure) made) :
    RegisterRun supervisor kind spec before (.error failure) made
  /-- The client is registered. -/
  | registered {client handle : Nat} {made : Activation σ} {stage : Stage σ}
    (hcreate : supervisor.Creates kind spec before (.ok client) made)
    (hregister : (Registry.register kind.toClientKind client).perform made.stage =
      (.ok handle, stage)) :
    RegisterRun supervisor kind spec before (.ok (some ⟨client, handle, false⟩))
      { made with stage }
  /-- The server does not start, which is reported. -/
  | reported {client : Nat} {message : String} {made after : Activation σ} {stage : Stage σ}
    {outcome : Except Failure Unit} {result : Except Failure (Option Running)}
    (hcreate : supervisor.Creates kind spec before (.ok client) made)
    (hregister : (Registry.register kind.toClientKind client).perform made.stage =
      (.error (.serverStart message), stage))
    (hreport : (supervisor.reportFailure "language server failed to start"
      (.serverStart message)).perform { made with stage } = (outcome, after))
    (hnone : ∀ session, result ≠ .ok (some session)) :
    RegisterRun supervisor kind spec before result after
  /-- The client is not registered for another reason. -/
  | refused {client : Nat} {failure : Failure} {made : Activation σ} {stage : Stage σ}
    (hcreate : supervisor.Creates kind spec before (.ok client) made)
    (hregister : (Registry.register kind.toClientKind client).perform made.stage =
      (.error failure, stage))
    (hother : ∀ message, failure = .serverStart message → False) :
    RegisterRun supervisor kind spec before (.error failure) { made with stage }

theorem registerBy_run {result : Except Failure (Option Running)}
    (h : (supervisor.registerBy kind spec).perform before = (result, after)) :
    supervisor.RegisterRun kind spec before result after := by
  unfold registerBy at h
  rw [Step.perform_get_bind] at h
  dsimp only at h
  cases hcreate : (onStage (Stage.withClients (kind.create
      (supervisor.serverOptions before.stage.world.desk.machine spec)
      supervisor.clientOptions))).perform before with
  | mk outcome made =>
    cases outcome with
    | error failure =>
      rw [Step.perform_bind_error hcreate] at h
      cases h
      exact .unmade hcreate
    | ok client =>
      rw [Step.perform_bind_ok hcreate, Step.perform_bind_ok (Step.perform_attempt _ _)] at h
      unfold onStage at h
      rw [Step.perform_onPart] at h
      cases hregister : (Registry.register kind.toClientKind client).perform made.stage with
      | mk outcome stage =>
        rw [hregister] at h
        cases outcome with
        | ok handle =>
          cases h
          exact .registered hcreate hregister
        | error failure =>
          dsimp only at h
          -- only a server that does not start is reported
          split at h
          next message =>
            obtain ⟨⟨_, hreport⟩, hnone⟩ := ends_none h
            exact .reported hcreate hregister hreport hnone
          next hother =>
            cases h
            exact .refused hcreate hregister hother

/-- How it goes to plan a launch and register a client by it. -/
inductive LaunchRun (supervisor : Supervisor) (kind : SessionKind σ) (before : Activation σ) :
    Except Failure (Option (Running × LaunchSpec)) → Activation σ → Prop
  /-- The launch is planned, and it is tried to register a client. -/
  | planned {spec : LaunchSpec} {planned after : Activation σ}
    {result : Except Failure (Option Running)}
    (hplan : (act supervisor.plan).perform before = (.ok spec, planned))
    (hregister : (supervisor.registerBy kind spec).perform planned = (result, after)) :
    LaunchRun supervisor kind before (result.map (Option.map fun session => (session, spec))) after
  /-- There is nothing to run the server with, which is reported. -/
  | reported {message : String} {planned after : Activation σ} {outcome : Except Failure Unit}
    {result : Except Failure (Option (Running × LaunchSpec))}
    (hplan : (act supervisor.plan).perform before = (.error (.configuration message), planned))
    (hreport : (supervisor.reportFailure "cannot plan server launch"
      (.configuration message)).perform planned = (outcome, after))
    (hnone : ∀ launched, result ≠ .ok (some launched)) :
    LaunchRun supervisor kind before result after
  /-- The launch is not planned for another reason. -/
  | unplanned {failure : Failure} {planned : Activation σ}
    (hplan : (act supervisor.plan).perform before = (.error failure, planned))
    (hother : ∀ message, failure = .configuration message → False) :
    LaunchRun supervisor kind before (.error failure) planned

theorem launch_run {result : Except Failure (Option (Running × LaunchSpec))}
    (h : (supervisor.launch kind).perform before = (result, after)) :
    supervisor.LaunchRun kind before result after := by
  unfold launch at h
  rw [Step.perform_bind_ok (Step.perform_attempt _ _)] at h
  cases hplan : (act supervisor.plan).perform before with
  | mk outcome planned =>
    rw [hplan] at h
    cases outcome with
    | ok spec =>
      dsimp only at h
      cases hregister : (supervisor.registerBy kind spec).perform planned with
      | mk result registered =>
        have hrun : supervisor.LaunchRun kind before _ _ := .planned hplan hregister
        rw [Step.perform_bind, hregister] at h
        cases result with
        | error failure =>
          cases h
          exact hrun
        | ok session =>
          cases h
          exact hrun
    | error failure =>
      dsimp only at h
      -- only the want of something to run the server with is reported
      split at h
      next message =>
        obtain ⟨⟨_, hreport⟩, hnone⟩ := ends_none h
        exact .reported hplan hreport hnone
      next hother =>
        cases h
        exact .unplanned hplan hother

/-- How a start without a session goes. -/
inductive StartRun (supervisor : Supervisor) (kind : SessionKind σ) (before : Activation σ) :
    Except Failure (Option Nat) → Activation σ → Prop
  /-- The settings disable the server, which is logged. -/
  | disabled {after : Activation σ} {outcome : Except Failure Unit}
    {result : Except Failure (Option Nat)} (hdisabled : supervisor.settings.enabled = false)
    (hlog : (log .info "language server disabled by configuration" []).perform before =
      (outcome, after))
    (hnone : ∀ client, result ≠ .ok (some client)) : StartRun supervisor kind before result after
  /-- The measurement does not begin. -/
  | untimed {failure : Failure} {timed : Activation σ}
    (htimer : (act (Act.startTimer "lsp.supervisor" "start" [])).perform before =
      (.error failure, timed)) :
    StartRun supervisor kind before (.error failure) timed
  /-- The measurement does not end. -/
  | unmeasured {timer : Log.Timer} {timed launched measured : Activation σ} {failure : Failure}
    {outcome : Except Failure (Option (Running × LaunchSpec))}
    (htimer : (act (Act.startTimer "lsp.supervisor" "start" [])).perform before =
      (.ok timer, timed))
    (hlaunch : (supervisor.launch kind).perform timed = (outcome, launched))
    (hstop : (act (Act.stopTimer timer)).perform launched = (.error failure, measured)) :
    StartRun supervisor kind before (.error failure) measured
  /-- The launch comes to no session. -/
  | unlaunched {timer : Log.Timer} {timed launched measured : Activation σ}
    {outcome : Except Failure (Option (Running × LaunchSpec))}
    (htimer : (act (Act.startTimer "lsp.supervisor" "start" [])).perform before =
      (.ok timer, timed))
    (hlaunch : (supervisor.launch kind).perform timed = (outcome, launched))
    (hstop : (act (Act.stopTimer timer)).perform launched = (.ok (), measured))
    (hnone : ∀ launched, outcome ≠ .ok (some launched)) :
    StartRun supervisor kind before (outcome.map fun _ => none) measured
  /-- The launch comes to a session, and it is tried to connect it. -/
  | connected {timer : Log.Timer} {timed launched measured after : Activation σ} {session : Running}
    {spec : LaunchSpec} {result : Except Failure Nat}
    (henabled : supervisor.settings.enabled = true)
    (htimer : (act (Act.startTimer "lsp.supervisor" "start" [])).perform before =
      (.ok timer, timed))
    (hlaunch : (supervisor.launch kind).perform timed = (.ok (some (session, spec)), launched))
    (hstop : (act (Act.stopTimer timer)).perform launched = (.ok (), measured))
    (hconnect : (connect kind session spec).perform measured = (result, after)) :
    StartRun supervisor kind before (result.map some) after

/-- What comes after the measurement of a launch. -/
theorem measured_run (henabled : supervisor.settings.enabled = true) {timer : Log.Timer}
    {timed launched measured : Activation σ}
    {outcome : Except Failure (Option (Running × LaunchSpec))}
    (htimer : (act (Act.startTimer "lsp.supervisor" "start" [])).perform before =
      (.ok timer, timed))
    (hlaunch : (supervisor.launch kind).perform timed = (outcome, launched))
    (hstop : (act (Act.stopTimer timer)).perform launched = (.ok (), measured))
    {result : Except Failure (Option Nat)}
    (h : (do
        match ← Step.ofExcept outcome with
        | none => return none
        | some (session, spec) => return some (← connect kind session spec)).perform measured =
      (result, after)) :
    supervisor.StartRun kind before result after := by
  cases outcome with
  | error failure =>
    have hrun : supervisor.StartRun kind before _ _ := .unlaunched htimer hlaunch hstop nofun
    rw [Step.perform_bind_error (Step.perform_ofExcept _ _)] at h
    cases h
    exact hrun
  | ok outcome =>
    rw [Step.perform_bind_ok (Step.perform_ofExcept _ _)] at h
    cases outcome with
    | none =>
      have hrun : supervisor.StartRun kind before _ _ := .unlaunched htimer hlaunch hstop nofun
      cases h
      exact hrun
    | some outcome =>
      obtain ⟨session, spec⟩ := outcome
      dsimp only at h
      cases hconnect : (connect kind session spec).perform measured with
      | mk result connected =>
        have hrun : supervisor.StartRun kind before _ _ :=
          .connected henabled htimer hlaunch hstop hconnect
        rw [Step.perform_bind, hconnect] at h
        cases result with
        | error failure =>
          cases h
          exact hrun
        | ok client =>
          cases h
          exact hrun

theorem start_run (hvacant : before.session = none) {result : Except Failure (Option Nat)}
    (h : (supervisor.start kind).perform before = (result, after)) :
    supervisor.StartRun kind before result after := by
  unfold start at h
  split at h
  next hdisabled =>
    obtain ⟨⟨_, hlog⟩, hnone⟩ := ends_none h
    exact .disabled (by simpa using hdisabled) hlog hnone
  next henabled =>
    rw [Step.perform_get_bind, hvacant] at h
    dsimp only at h
    cases htimer : (act (Act.startTimer "lsp.supervisor" "start" [])).perform before with
    | mk outcome timed =>
      cases outcome with
      | error failure =>
        rw [Step.perform_bind_error htimer] at h
        cases h
        exact .untimed htimer
      | ok timer =>
        rw [Step.perform_bind_ok htimer, Step.perform_bind_ok (Step.perform_attempt _ _)] at h
        cases hlaunch : (supervisor.launch kind).perform timed with
        | mk outcome launched =>
          rw [hlaunch] at h
          cases hstop : (act (Act.stopTimer timer)).perform launched with
          | mk stopped measured =>
            cases stopped with
            | error failure =>
              rw [Step.perform_bind_error hstop] at h
              cases h
              exact .unmeasured htimer hlaunch hstop
            | ok =>
              rw [Step.perform_bind_ok hstop] at h
              have henabled : supervisor.settings.enabled = true := by simpa using henabled
              exact measured_run henabled htimer hlaunch hstop h

/-- A start of a supervisor that holds a session changes the world at most, and gives the client of
the session back unless the settings disable the server. -/
theorem start_held {session : Running} (hsession : before.session = some session)
    {result : Except Failure (Option Nat)}
    (h : (supervisor.start kind).perform before = (result, after)) :
    after = ⟨{ before.stage with world := after.stage.world }, before.session⟩ ∧
      ∀ client, result = .ok (some client) → client = session.client := by
  unfold start at h
  split at h
  next =>
    obtain ⟨⟨_, hlog⟩, hnone⟩ := ends_none h
    exact ⟨(act_cases hlog).1, fun client hclient => absurd hclient (hnone client)⟩
  next =>
    rw [Step.perform_get_bind, hsession] at h
    cases h
    refine ⟨rfl, ?_⟩
    rintro _ ⟨⟩
    rfl

end Runs

/-! ### Steps that leave the session alone -/

/-- Two moments of an activation with the same session, registry and calls to the clients. -/
structure SameHouse (before after : Activation (σ × List Call)) : Prop where
  /-- The session of the supervisor. -/
  session : after.session = before.session
  /-- The registry. -/
  registry : after.stage.registry = before.stage.registry
  /-- The calls to the clients. -/
  calls : after.stage.clients.2 = before.stage.clients.2

instance : Std.Refl (SameHouse (σ := σ)) := ⟨fun _ => ⟨rfl, rfl, rfl⟩⟩

instance : Trans (SameHouse (σ := σ)) SameHouse SameHouse where
  trans h h' := ⟨h'.session.trans h.session, h'.registry.trans h.registry, h'.calls.trans h.calls⟩

/-- A step on the world does not touch the session. -/
theorem sameHouse_act (step : Act α) : Step.Leads (SameHouse (σ := σ)) (act step) :=
  fun _ => ⟨rfl, rfl, rfl⟩

/-- What is done with a client beyond starting and stopping it. -/
theorem perform_within (step : Step (World × σ) α) (before : Activation (σ × List Call)) :
    (onStage (Stage.withClients (Registry.within step))).perform before =
      let (result, world, clients) :=
        step.perform (before.stage.world, before.stage.clients.1)
      (result, { before with
        stage := { before.stage with world, clients := (clients, before.stage.clients.2) } }) := rfl

/-- What is done with a client beyond starting and stopping it does not touch the session. -/
theorem sameHouse_within (step : Step (World × σ) α) :
    Step.Leads SameHouse (onStage (Stage.withClients (Registry.within step))) :=
  fun _ => ⟨rfl, rfl, rfl⟩

theorem sameHouse_reportFailure (supervisor : Supervisor) (message : String) (failure : Failure) :
    Step.Leads (SameHouse (σ := σ)) (supervisor.reportFailure message failure) :=
  .bind (sameHouse_act _) fun _ => sameHouse_act _

/-! ### Outcomes of a registration -/

/-- A client was made and registered, and a handle for it was handed out. -/
structure Admits (id : String) (before : Activation (σ × List Call)) (session : Running)
    (after : Activation (σ × List Call)) : Prop where
  /-- Nobody was registered under the id. -/
  vacant : before.stage.registry.get? id = none
  /-- The handle is a new one. -/
  registration : session.registration = before.stage.registry.disposables.length
  /-- The client is registered, and the handle is armed. -/
  registry : after.stage.registry =
    (before.stage.registry.handOut (.unregister id)).2.enter id session.client
  /-- The client was started. -/
  calls : after.stage.clients.2 = before.stage.clients.2 ++ [.start session.client]
  /-- The supervisor does not hold the session yet. -/
  session : after.session = before.session

/-- No session came about: a client may be left in the registry under the id that clients are made
under, but no handle among the subscriptions. -/
structure Refuses (id : String) (before after : Activation (σ × List Call)) : Prop where
  /-- The supervisor holds the same session, or none. -/
  session : after.session = before.session
  /-- The subscriptions are the same. -/
  subscriptions : after.stage.registry.subscriptions = before.stage.registry.subscriptions
  /-- Nobody is registered under another id. -/
  others : ∀ {other}, other ≠ id → before.stage.registry.get? other = none →
    after.stage.registry.get? other = none

theorem Refuses.trans {first : Activation (σ × List Call)} (h : Refuses id first before)
    (h' : Refuses id before after) : Refuses id first after where
  session := h'.session.trans h.session
  subscriptions := h'.subscriptions.trans h.subscriptions
  others hne hnone := h'.others hne (h.others hne hnone)

theorem SameHouse.refuses (h : SameHouse before after) : Refuses id before after :=
  ⟨h.session, by rw [h.registry], fun _ hnone => by rw [h.registry, hnone]⟩

/-- An outcome that is reached from the same house. -/
theorem Admits.of_sameHouse {first : Activation (σ × List Call)} {session : Running}
    (h : Admits id before session after) (hfirst : SameHouse first before) :
    Admits id first session after where
  vacant := by rw [← hfirst.registry, h.vacant]
  registration := by rw [← hfirst.registry, h.registration]
  registry := by rw [← hfirst.registry, h.registry]
  calls := by rw [← hfirst.calls, h.calls]
  session := h.session.trans hfirst.session

/-- An outcome whose house stays the same. -/
theorem Admits.sameHouse {last : Activation (σ × List Call)} {session : Running}
    (h : Admits id before session after) (hlast : SameHouse after last) :
    Admits id before session last where
  vacant := h.vacant
  registration := h.registration
  registry := hlast.registry.trans h.registry
  calls := hlast.calls.trans h.calls
  session := hlast.session.trans h.session

/-- What is left when a client is not registered. -/
theorem refuses_of_register_error {client : Nat} {failure : Failure}
    {stage : Stage (σ × List Call)}
    (hid : kind.logged.id before.stage.clients client = id)
    (h : (Registry.register kind.logged.toClientKind client).perform before.stage =
      (.error failure, stage)) : Refuses id before { before with stage } := by
  -- the id was taken, or the client entered and left again, or it entered and the record failed
  rcases Registry.register_cases h with
    ⟨-, hregistry⟩ | ⟨-, ⟨-, hregistry⟩ | ⟨-, hregistry⟩ | ⟨hok, -⟩⟩
  · exact ⟨rfl, by rw [hregistry], fun _ hnone => by rw [hregistry, hnone]⟩
  · rw [hid] at hregistry
    refine ⟨rfl, by rw [hregistry]; rfl, fun hne hnone => ?_⟩
    rw [hregistry, Registry.get?_leave, if_neg hne, Registry.get?_enter, if_neg hne, hnone]
  · rw [hid] at hregistry
    refine ⟨rfl, by rw [hregistry]; rfl, fun hne hnone => ?_⟩
    rw [hregistry, Registry.get?_enter, if_neg hne, hnone]
  · cases hok

/-- What is left when a client is registered. -/
theorem admits_of_register_ok {client handle : Nat} {stage : Stage (σ × List Call)}
    (hid : kind.logged.id before.stage.clients client = id)
    (h : (Registry.register kind.logged.toClientKind client).perform before.stage =
      (.ok handle, stage)) :
    Admits id before ⟨client, handle, false⟩ { before with stage } := by
  obtain ⟨hvacant, hhandle, hregistry⟩ := Registry.register_ok h
  rw [hid] at hvacant hregistry
  exact ⟨hvacant, hhandle, hregistry, Registry.calls_register_ok h, rfl⟩

/-- An admission that comes to nothing leaves the client in the registry. -/
theorem Admits.refuses {session : Running} (h : Admits id before session after) :
    Refuses id before after where
  session := h.session
  subscriptions := by rw [h.registry]; rfl
  others hne hnone := by
    rw [h.registry, Registry.get?_enter, if_neg hne, Registry.get?_handOut, hnone]

/-- A session came about: its client was admitted, the supervisor holds it, and its handle is among
the subscriptions. -/
structure Opens (id : String) (before : Activation (σ × List Call)) (session : Running)
    (after : Activation (σ × List Call)) : Prop where
  /-- Nobody was registered under the id. -/
  vacant : before.stage.registry.get? id = none
  /-- The handle is a new one. -/
  registration : session.registration = before.stage.registry.disposables.length
  /-- The client is registered, and the handle is armed and subscribed. -/
  registry : after.stage.registry =
    ((before.stage.registry.handOut (.unregister id)).2.enter id session.client).keep
      session.registration
  /-- The client was started. -/
  calls : after.stage.clients.2 = before.stage.clients.2 ++ [.start session.client]
  /-- The supervisor holds the session. -/
  session : after.session = some session

/-- A session whose house stays the same. -/
theorem Opens.sameHouse {last : Activation (σ × List Call)} {session : Running}
    (h : Opens id before session after) (hlast : SameHouse after last) :
    Opens id before session last where
  vacant := h.vacant
  registration := h.registration
  registry := hlast.registry.trans h.registry
  calls := hlast.calls.trans h.calls
  session := hlast.session.trans h.session

/-! ### Parts of a start -/

/-- A client that is made has the id that clients are made under. -/
theorem id_create (hmakes : kind.MakesUnder id) {supervisor : Supervisor} {spec : LaunchSpec}
    {client : Nat} (h : supervisor.Creates kind.logged spec before (.ok client) after) :
    kind.logged.id after.stage.clients client = id := by
  have hrun := perform_within (kind.create
    (supervisor.serverOptions before.stage.world.desk.machine spec) supervisor.clientOptions) before
  cases hcreate : (kind.create (supervisor.serverOptions before.stage.world.desk.machine spec)
      supervisor.clientOptions).perform (before.stage.world, before.stage.clients.1) with
  | mk outcome made =>
    rw [hcreate] at hrun
    cases hrun.symm.trans h
    exact hmakes hcreate

/-- The making of a client does not touch the session. -/
theorem Creates.sameHouse {supervisor : Supervisor} {spec : LaunchSpec}
    {outcome : Except Failure Nat}
    (h : supervisor.Creates kind.logged spec before outcome after) : SameHouse before after :=
  (sameHouse_within _).ends h

/-- A client is registered by a plan, or there is no session. -/
theorem registerBy_cases (hmakes : kind.MakesUnder id) (supervisor : Supervisor)
    (spec : LaunchSpec) {result : Except Failure (Option Running)}
    (h : (supervisor.registerBy kind.logged spec).perform before = (result, after)) :
    (∃ session, result = .ok (some session) ∧ Admits id before session after) ∨
      (∀ session, result ≠ .ok (some session)) ∧ Refuses id before after := by
  cases registerBy_run h with
  | unmade hcreate => exact .inr ⟨nofun, hcreate.sameHouse.refuses⟩
  | registered hcreate hregister =>
    have hadmits := admits_of_register_ok (id_create hmakes hcreate) hregister
    exact .inl ⟨_, rfl, hadmits.of_sameHouse hcreate.sameHouse⟩
  | reported hcreate hregister hreport hnone =>
    have hrefused := refuses_of_register_error (id_create hmakes hcreate) hregister
    have hreported := (sameHouse_reportFailure _ _ _).ends hreport
    exact .inr ⟨hnone, (hcreate.sameHouse.refuses.trans hrefused).trans hreported.refuses⟩
  | refused hcreate hregister =>
    have hrefused := refuses_of_register_error (id_create hmakes hcreate) hregister
    exact .inr ⟨nofun, hcreate.sameHouse.refuses.trans hrefused⟩

/-- A launch is planned and its client registered, or there is no session. -/
theorem launch_cases (hmakes : kind.MakesUnder id) (supervisor : Supervisor)
    {result : Except Failure (Option (Running × LaunchSpec))}
    (h : (supervisor.launch kind.logged).perform before = (result, after)) :
    (∃ session spec, result = .ok (some (session, spec)) ∧ Admits id before session after) ∨
      (∀ launched, result ≠ .ok (some launched)) ∧ Refuses id before after := by
  cases launch_run h with
  | @planned spec planned _ outcome hplan hregister =>
    have hhouse : SameHouse before planned := (sameHouse_act _).ends hplan
    rcases registerBy_cases hmakes supervisor spec hregister with
      ⟨session, rfl, hadmits⟩ | ⟨hnone, hrefuses⟩
    · exact .inl ⟨session, spec, rfl, hadmits.of_sameHouse hhouse⟩
    · exact .inr ⟨map_ne_ok_some hnone _, hhouse.refuses.trans hrefuses⟩
  | reported hplan hreport hnone =>
    have hreported := (sameHouse_reportFailure _ _ _).ends hreport
    exact .inr ⟨hnone, ((sameHouse_act _).ends hplan).refuses.trans hreported.refuses⟩
  | unplanned hplan => exact .inr ⟨nofun, ((sameHouse_act _).ends hplan).refuses⟩

/-- The supervisor holds a session before it is connected, and its handle is subscribed by then. -/
theorem connect_cases {first : Activation (σ × List Call)} {session : Running} {spec : LaunchSpec}
    {result : Except Failure Nat} (hadmits : Admits id first session before)
    (h : (connect kind.logged session spec).perform before = (result, after)) :
    ∃ held, Opens id first held after ∧ ∀ client, result = .ok client → client = held.client := by
  have hopens : Opens id first session { before with
      session := some session
      stage := { before.stage with
        registry := before.stage.registry.keep session.registration } } :=
    { vacant := hadmits.vacant
      registration := hadmits.registration
      registry := by rw [hadmits.registry]
      calls := hadmits.calls
      session := rfl }
  unfold connect at h
  rw [perform_setSession_bind, perform_modifyRegistry_bind] at h
  generalize { before with
    session := some session
    stage := { before.stage with
      registry := before.stage.registry.keep session.registration } } = opened at h hopens
  -- whatever fails from here on, the session is held and its handle is subscribed
  cases hready : (onStage (Stage.withClients (kind.logged.awaitReady session.client))).perform
      opened with
  | mk outcome ready =>
    replace hopens := hopens.sameHouse ((sameHouse_within _).ends hready)
    cases outcome with
    | error failure =>
      rw [Step.perform_bind_error hready] at h
      cases h
      exact ⟨session, hopens, nofun⟩
    | ok =>
      rw [Step.perform_bind_ok hready] at h
      cases hserve : (onStage (Stage.withClients
          (kind.logged.serveTexts session.client))).perform ready with
      | mk outcome serving =>
        replace hopens := hopens.sameHouse ((sameHouse_within _).ends hserve)
        cases outcome with
        | error failure =>
          rw [Step.perform_bind_error hserve] at h
          cases h
          exact ⟨session, hopens, nofun⟩
        | ok =>
          rw [Step.perform_bind_ok hserve, perform_setSession_bind] at h
          have hlog := ((sameHouse_act _).bind fun _ => .pure session.client).ends h
          refine ⟨{ session with serving := true }, ?_, ?_⟩
          · exact
              { hopens with
                registry := hlog.registry.trans hopens.registry
                calls := hlog.calls.trans hopens.calls
                session := hlog.session }
          · rintro client rfl
            obtain ⟨_, _, -, h⟩ := Step.perform_bind_eq_ok_iff.1 h
            cases h
            rfl

/-- A start of a supervisor without a session brings one about, or leaves it without one. -/
theorem start_cases (hmakes : kind.MakesUnder id) (supervisor : Supervisor)
    (hvacant : before.session = none) {result : Except Failure (Option Nat)}
    (h : (supervisor.start kind.logged).perform before = (result, after)) :
    (∃ session, Opens id before session after ∧
        ∀ client, result = .ok (some client) → client = session.client) ∨
      (∀ client, result ≠ .ok (some client)) ∧ Refuses id before after := by
  cases start_run hvacant h with
  | disabled _ hlog hnone => exact .inr ⟨hnone, ((sameHouse_act _).ends hlog).refuses⟩
  | untimed htimer => exact .inr ⟨nofun, ((sameHouse_act _).ends htimer).refuses⟩
  | unmeasured htimer hlaunch hstop =>
    have htimed := (sameHouse_act _).ends htimer
    have hmeasured := (sameHouse_act _).ends hstop
    refine .inr ⟨nofun, (htimed.refuses.trans ?_).trans hmeasured.refuses⟩
    -- a client that was admitted stays behind, without a session
    rcases launch_cases hmakes supervisor hlaunch with ⟨_, _, -, hadmits⟩ | ⟨-, hrefuses⟩
    · exact hadmits.refuses
    · exact hrefuses
  | unlaunched htimer hlaunch hstop hnone =>
    have htimed := (sameHouse_act _).ends htimer
    have hmeasured := (sameHouse_act _).ends hstop
    rcases launch_cases hmakes supervisor hlaunch with ⟨_, _, rfl, -⟩ | ⟨-, hrefuses⟩
    · exact absurd rfl (hnone _)
    · exact .inr ⟨map_none_ne_ok_some _,
        (htimed.refuses.trans hrefuses).trans hmeasured.refuses⟩
  | connected _ htimer hlaunch hstop hconnect =>
    have htimed := (sameHouse_act _).ends htimer
    have hmeasured := (sameHouse_act _).ends hstop
    rcases launch_cases hmakes supervisor hlaunch with ⟨_, _, hsame, hadmits⟩ | ⟨hnone, -⟩
    · cases hsame
      obtain ⟨held, hopens, hclient⟩ :=
        connect_cases ((hadmits.of_sameHouse htimed).sameHouse hmeasured) hconnect
      exact .inl ⟨held, hopens, fun client hresult => hclient client (ok_of_map_some hresult)⟩
    · exact absurd rfl (hnone _)

end Supervisor

end JuliaSession
