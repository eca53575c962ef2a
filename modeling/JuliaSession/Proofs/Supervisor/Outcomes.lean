import JuliaSession.Proofs.Registry.Enrolment
import JuliaSession.Proofs.Supervisor.Clients
import JuliaSession.Proofs.Supervisor.Lifetimes

/-!
# How a start ends

A start of a supervisor without a session plans a launch, makes a client and registers it. Each of
these can fail; then nothing is left of the start but what the plan, the making of the client and
the client itself did to the world. The user is told about a failure in two cases only.

* `Plans`, `Makes`, `Enlists`: the parts of a start that were come to, and how the last one ended.
* `FailsBy`: why a start brings no session about, and what it has left by then.
* `start_course`: a start comes to a registered client, which is connected, or fails for a cause.
* `start_leaves_no_trace`: a start that gives no client back leaves neither a session nor a client
  nor a subscription, and tells the user once about a launch that cannot be planned and a server
  that does not start.
-/

namespace JuliaSession

variable {σ : Type}

namespace Supervisor

variable {supervisor : Supervisor} {kind : SessionKind σ}

/-! ### Causes -/

/-- Why a start brings no session about. -/
inductive Cause where
  /-- The settings disable the server. -/
  | disabled
  /-- The launch cannot be planned. -/
  | planning (failure : Failure)
  /-- No client is made. -/
  | making (failure : Failure)
  /-- The client is not registered. -/
  | registration (failure : Failure)

/-- What the user is told about: that there is nothing to run the server with, or that the server
does not start. -/
def Cause.told : Cause → Option Failure
  | .planning (.configuration message) => some (.configuration message)
  | .registration (.serverStart message) => some (.serverStart message)
  | _ => none

theorem Cause.told_planning {failure : Failure}
    (h : ∀ message, failure = .configuration message → False) :
    (Cause.planning failure).told = none := by
  cases failure with
  | configuration message => exact (h message rfl).elim
  | _ => rfl

theorem Cause.told_registration {failure : Failure}
    (h : ∀ message, failure = .serverStart message → False) :
    (Cause.registration failure).told = none := by
  cases failure with
  | serverStart message => exact (h message rfl).elim
  | _ => rfl

/-- From one world to the other the log was written and, if there is something to tell, the host was
asked once to show it as an error. -/
def Tells (host : Host) : Option Failure → World → World → Prop
  | none, before, after => LogsOnly before after
  | some failure, before, after =>
    ∃ asked, LogsOnly before asked ∧
      LogsOnly ((host.showMessage failure.describe .error).perform asked).2 after

theorem Tells.logsOnly {host : Host} {told : Option Failure} {before between after : World}
    (h : Tells host told before between) (hlogs : LogsOnly between after) :
    Tells host told before after := by
  cases told with
  | none => exact LogsOnly.trans h hlogs
  | some failure =>
    obtain ⟨asked, hbefore, hafter⟩ := h
    exact ⟨asked, hbefore, hafter.trans hlogs⟩

/-! ### Parts of a start -/

/-- The world when the measurement of a start has begun. -/
def timed (world : World) : World :=
  ((Act.startTimer "lsp.supervisor" "start" []).perform world).2

/-- A launch was planned. -/
def Plans (supervisor : Supervisor) (stage : Stage σ) (outcome : Except Failure LaunchSpec)
    (planned : World) : Prop :=
  supervisor.plan.perform (timed stage.world) = (outcome, planned)

/-- A client was made by a plan. -/
def Makes (supervisor : Supervisor) (kind : SessionKind σ) (stage : Stage σ)
    (outcome : Except Failure Nat) (made : World × σ) : Prop :=
  ∃ spec planned, supervisor.Plans stage (.ok spec) planned ∧
    (kind.create (supervisor.serverOptions planned.desk.machine spec)
      supervisor.clientOptions).perform (planned, stage.clients) = (outcome, made)

/-- A client that was made was registered. -/
def Enlists (supervisor : Supervisor) (kind : SessionKind σ) (stage : Stage σ) (client : Nat)
    (outcome : Except Failure Nat) (enlisted : Stage σ) : Prop :=
  ∃ made, supervisor.Makes kind stage (.ok client) made ∧
    (Registry.register kind.toClientKind client).perform
      { stage with world := made.1, clients := made.2 } = (outcome, enlisted)

/-- A start fails for a cause, having come to a stage. -/
inductive FailsBy (supervisor : Supervisor) (kind : SessionKind σ) (stage : Stage σ) :
    Cause → Stage σ → Prop
  /-- The settings disable the server. -/
  | disabled (h : supervisor.settings.enabled = false) : FailsBy supervisor kind stage .disabled stage
  /-- The launch cannot be planned. -/
  | planning {failure : Failure} {planned : World}
    (h : supervisor.Plans stage (.error failure) planned) :
    FailsBy supervisor kind stage (.planning failure) { stage with world := planned }
  /-- No client is made. -/
  | making {failure : Failure} {made : World × σ}
    (h : supervisor.Makes kind stage (.error failure) made) :
    FailsBy supervisor kind stage (.making failure)
      { stage with world := made.1, clients := made.2 }
  /-- The client is not registered. -/
  | registration {client : Nat} {failure : Failure} {enlisted : Stage σ}
    (h : supervisor.Enlists kind stage client (.error failure) enlisted) :
    FailsBy supervisor kind stage (.registration failure) enlisted

/-- From a stage something failed for a cause. Since then the user was told, if there was something
to tell, and nothing else was done. -/
def Fails (supervisor : Supervisor) (kind : SessionKind σ) (stage : Stage σ)
    (session : Option Running) (after : Activation σ) : Prop :=
  ∃ cause ended, supervisor.FailsBy kind stage cause ended ∧
    after = ⟨{ ended with world := after.stage.world }, session⟩ ∧
      Tells supervisor.host cause.told ended.world after.stage.world

/-- A record that is written after a failure changes nothing about it. -/
theorem Fails.of_logsOnly {stage : Stage σ} {session : Option Running}
    {before after : Activation σ} (h : supervisor.Fails kind stage session before)
    (hafter : after = ⟨{ before.stage with world := after.stage.world }, before.session⟩)
    (hlogs : LogsOnly before.stage.world after.stage.world) :
    supervisor.Fails kind stage session after := by
  obtain ⟨cause, ended, hfails, hbefore, htells⟩ := h
  refine ⟨cause, ended, hfails, ?_, htells.logsOnly hlogs⟩
  rw [hafter, hbefore]

/-- A start that fails has the registry as it was, unless its client was registered and the record of
that could not be written. -/
theorem FailsBy.registry {stage ended : Stage σ} {cause : Cause}
    (h : supervisor.FailsBy kind stage cause ended) :
    ended.registry = stage.registry ∨ cause.told = none ∧ ¬ ended.world.Dated := by
  cases h with
  | disabled => exact .inl rfl
  | planning => exact .inl rfl
  | making => exact .inl rfl
  | registration h =>
    obtain ⟨made, -, hregister⟩ := h
    rcases Registry.register_course hregister with
      ⟨-, -, rfl⟩ | ⟨-, -, -, -, -, -, ⟨-, -, -, hsame⟩ | ⟨-, ⟨⟨_, hreason⟩, hundated⟩ | ⟨hok, -⟩⟩⟩
    · exact .inl rfl
    · exact .inl hsame
    · cases hreason
      exact .inr ⟨rfl, hundated⟩
    · cases hok

/-- While the time of day can be written, a start that fails leaves the registry as it was. -/
theorem Fails.registry {stage : Stage σ} {session : Option Running} {after : Activation σ}
    (h : supervisor.Fails kind stage session after) (hdated : after.stage.world.Dated) :
    after.stage.registry = stage.registry := by
  obtain ⟨cause, ended, hfails, hafter, htells⟩ := h
  have hended : after.stage.registry = ended.registry := by rw [hafter]
  rcases hfails.registry with hregistry | ⟨htold, hundated⟩
  · exact hended.trans hregistry
  · rw [htold] at htells
    exact absurd (LogsOnly.dated_iff htells |>.1 hdated) hundated

/-! ### Courses -/

/-- A step on the world and the clients changes nothing else. -/
theorem perform_withClients {α : Type} {step : Step (World × σ) α} (activation : Activation σ)
    {result : Except Failure α} {after : World × σ}
    (h : step.perform (activation.stage.world, activation.stage.clients) = (result, after)) :
    (onStage (Stage.withClients step)).perform activation =
      (result, ⟨⟨after.1, after.2, activation.stage.registry⟩, activation.session⟩) := by
  unfold onStage Stage.withClients
  rw [Step.perform_onPart, Step.perform_onPart, h]

/-- While the time of day can be written, a failure that is reported is shown to the user. -/
theorem reportFailure_dated {message : String} {failure : Failure} {before after : Activation σ}
    {result : Except Failure Unit}
    (h : (supervisor.reportFailure message failure).perform before = (result, after))
    (hdated : after.stage.world.Dated) :
    after = ⟨{ before.stage with world := after.stage.world }, before.session⟩ ∧
      Tells supervisor.host (some failure) before.stage.world after.stage.world := by
  unfold reportFailure at h
  rw [Step.perform_bind] at h
  -- the record is written while the date can be, so the host is asked
  cases hlog : (log (σ := σ) .error message [("error", Log.text failure.message)]).perform before with
  | mk outcome asked =>
    rw [hlog] at h
    obtain ⟨hasked, hrecord⟩ := act_cases hlog
    cases outcome with
    | error failure =>
      cases h
      cases log_ok hrecord hdated
    | ok =>
      obtain ⟨hafter, hshow⟩ := act_cases h
      rw [hasked] at hafter hshow
      refine ⟨hafter, _, (logsOnly_log _ _ _ _).ends hrecord, ?_⟩
      rw [hshow]
      exact .refl _

/-- A client that is made by a plan is made from the world that the plan has left. -/
theorem Creates.makes {spec : LaunchSpec} {stage : Stage σ} {planned : World}
    {session : Option Running} {outcome : Except Failure Nat} {made : Activation σ}
    (h : supervisor.Creates kind spec ⟨{ stage with world := planned }, session⟩ outcome made)
    (hplans : supervisor.Plans stage (.ok spec) planned) :
    ∃ run, supervisor.Makes kind stage outcome run ∧
      made = ⟨{ stage with world := run.1, clients := run.2 }, session⟩ := by
  obtain ⟨hcreate, hmade⟩ := withClients_cases h
  exact ⟨(made.stage.world, made.stage.clients), ⟨spec, planned, hplans, hcreate⟩, hmade⟩

/-- A launch that is planned is planned in the world where the measurement has begun. -/
theorem plans_of_act {stage : Stage σ} {session : Option Running}
    {outcome : Except Failure LaunchSpec} {planned : Activation σ}
    (h : (act supervisor.plan).perform ⟨{ stage with world := timed stage.world }, session⟩ =
      (outcome, planned)) :
    ∃ world, supervisor.Plans stage outcome world ∧
      planned = ⟨{ stage with world }, session⟩ := by
  obtain ⟨hplanned, hplan⟩ := act_cases h
  exact ⟨planned.stage.world, hplan, hplanned⟩

/-- A client is made and registered by a plan, or the registration fails for a cause. -/
theorem registerBy_course {spec : LaunchSpec} {stage : Stage σ} {planned : World}
    {session : Option Running} {after : Activation σ} {result : Except Failure (Option Running)}
    (hplans : supervisor.Plans stage (.ok spec) planned)
    (h : (supervisor.registerBy kind spec).perform ⟨{ stage with world := planned }, session⟩ =
      (result, after)) :
    (∃ client handle, result = .ok (some ⟨client, handle, false⟩) ∧
        supervisor.Enlists kind stage client (.ok handle) after.stage ∧ after.session = session) ∨
      (∀ running, result ≠ .ok (some running)) ∧
        (after.stage.world.Dated → supervisor.Fails kind stage session after) := by
  cases registerBy_run h with
  | unmade hcreate =>
    obtain ⟨made, hmakes, rfl⟩ := hcreate.makes hplans
    exact .inr ⟨nofun, fun _ => ⟨_, _, .making hmakes, rfl, .refl _⟩⟩
  | registered hcreate hregister =>
    obtain ⟨made, hmakes, rfl⟩ := hcreate.makes hplans
    exact .inl ⟨_, _, rfl, ⟨made, hmakes, hregister⟩, rfl⟩
  | reported hcreate hregister hreport hnone =>
    obtain ⟨made, hmakes, rfl⟩ := hcreate.makes hplans
    exact .inr ⟨hnone, fun hdated =>
      ⟨_, _, .registration ⟨made, hmakes, hregister⟩, reportFailure_dated hreport hdated⟩⟩
  | refused hcreate hregister hother =>
    obtain ⟨made, hmakes, rfl⟩ := hcreate.makes hplans
    refine .inr ⟨nofun, fun _ => ⟨_, _, .registration ⟨made, hmakes, hregister⟩, rfl, ?_⟩⟩
    rw [Cause.told_registration hother]
    exact .refl _

/-- A launch is planned and a client registered, or this fails for a cause. -/
theorem launch_course {stage : Stage σ} {session : Option Running}
    {after : Activation σ} {result : Except Failure (Option (Running × LaunchSpec))}
    (h : (supervisor.launch kind).perform ⟨{ stage with world := timed stage.world }, session⟩ =
      (result, after)) :
    (∃ client handle spec, result = .ok (some (⟨client, handle, false⟩, spec)) ∧
        supervisor.Enlists kind stage client (.ok handle) after.stage ∧ after.session = session) ∨
      (∀ launched, result ≠ .ok (some launched)) ∧
        (after.stage.world.Dated → supervisor.Fails kind stage session after) := by
  cases launch_run h with
  | planned hplan hregister =>
    obtain ⟨planned, hplans, rfl⟩ := plans_of_act hplan
    rcases registerBy_course hplans hregister with
      ⟨client, handle, rfl, henlists, hsession⟩ | ⟨hnone, hfails⟩
    · exact .inl ⟨client, handle, _, rfl, henlists, hsession⟩
    · exact .inr ⟨map_ne_ok_some hnone _, hfails⟩
  | reported hplan hreport hnone =>
    obtain ⟨planned, hplans, rfl⟩ := plans_of_act hplan
    exact .inr ⟨hnone, fun hdated =>
      ⟨_, _, .planning hplans, reportFailure_dated hreport hdated⟩⟩
  | unplanned hplan hother =>
    obtain ⟨planned, hplans, rfl⟩ := plans_of_act hplan
    refine .inr ⟨nofun, fun _ => ⟨_, _, .planning hplans, rfl, ?_⟩⟩
    rw [Cause.told_planning hother]
    exact .refl _

/-- The measurement of a start begins, and nothing else is done. -/
theorem timed_of_act {before timed : Activation σ} {timer : Log.Timer}
    (hvacant : before.session = none)
    (h : (act (Act.startTimer "lsp.supervisor" "start" [])).perform before = (.ok timer, timed)) :
    timed = ⟨{ before.stage with world := Supervisor.timed before.stage.world }, none⟩ := by
  obtain ⟨htimed, hmeasure⟩ := act_cases h
  have hworld : timed.stage.world = Supervisor.timed before.stage.world :=
    (congrArg Prod.snd hmeasure).symm
  rw [htimed, hworld, hvacant]

/-- A start of a supervisor without a session comes to a registered client that is connected then,
or it fails. -/
theorem start_course {before after : Activation σ} {result : Except Failure (Option Nat)}
    (hvacant : before.session = none)
    (h : (supervisor.start kind).perform before = (result, after))
    (hdated : after.stage.world.Dated) :
    (supervisor.settings.enabled = true ∧ ∃ client handle spec enlisted world outcome,
        supervisor.Enlists kind before.stage client (.ok handle) enlisted ∧
          LogsOnly enlisted.world world ∧
            (connect kind ⟨client, handle, false⟩ spec).perform
              ⟨{ enlisted with world }, none⟩ = (outcome, after) ∧
                result = outcome.map some) ∨
      (∀ client, result ≠ .ok (some client)) ∧ supervisor.Fails kind before.stage none after := by
  cases start_run hvacant h with
  | disabled hdisabled hlog hnone =>
    obtain ⟨hafter, hrecord⟩ := act_cases hlog
    rw [hvacant] at hafter
    exact .inr ⟨hnone, _, _, .disabled hdisabled, hafter, (logsOnly_log _ _ _ _).ends hrecord⟩
  | untimed htimer =>
    obtain ⟨_, hok⟩ := startTimer_ok (act_cases htimer).2 hdated
    cases hok
  | unmeasured _ _ hstop => cases stopTimer_ok (act_cases hstop).2 hdated
  | unlaunched htimer hlaunch hstop hnone =>
    obtain rfl := timed_of_act hvacant htimer
    obtain ⟨hlast, hmeasured⟩ := act_cases hstop
    have hlogs := (logsOnly_stopTimer _).ends hmeasured
    rcases launch_course hlaunch with ⟨_, _, _, rfl, -, -⟩ | ⟨-, hfails⟩
    · exact absurd rfl (hnone _)
    · exact .inr ⟨map_none_ne_ok_some _,
        (hfails (hlogs.dated_iff.1 hdated)).of_logsOnly hlast hlogs⟩
  | @connected timer _ launched measured _ session spec outcome henabled htimer hlaunch hstop
      hconnect =>
    obtain rfl := timed_of_act hvacant htimer
    obtain ⟨hlast, hmeasured⟩ := act_cases hstop
    rcases launch_course hlaunch with ⟨client, handle, _, hsame, henlists, hsession⟩ | ⟨hnone, -⟩
    · cases hsame
      rw [hlast, hsession] at hconnect
      exact .inl ⟨henabled, client, handle, spec, launched.stage, measured.stage.world, outcome,
        henlists, (logsOnly_stopTimer timer).ends hmeasured, hconnect, rfl⟩
    · exact absurd rfl (hnone _)

/-! ### Connecting -/

/-- While the time of day can be written, a session whose client is ready and can be told to answer
requests for texts is held and serving. -/
theorem connect_dated {client handle : Nat} {spec : LaunchSpec} {before after : Activation σ}
    {ready served : World × σ} {outcome : Except Failure Nat}
    (hready : (kind.awaitReady client).perform (before.stage.world, before.stage.clients) =
      (.ok (), ready))
    (hserve : (kind.serveTexts client).perform ready = (.ok (), served))
    (h : (connect kind ⟨client, handle, false⟩ spec).perform before = (outcome, after))
    (hdated : after.stage.world.Dated) :
    outcome = .ok client ∧ after.session = some ⟨client, handle, true⟩ ∧
      after.stage.clients = served.2 ∧
        after.stage.registry = before.stage.registry.keep handle := by
  let held : Activation σ :=
    ⟨{ before.stage with registry := before.stage.registry.keep handle },
      some ⟨client, handle, false⟩⟩
  -- the client is ready and serves, so nothing but the record at the end could fail
  have hwaits := perform_withClients held hready
  have hserves := perform_withClients ⟨⟨ready.1, ready.2, held.stage.registry⟩, held.session⟩ hserve
  unfold connect at h
  rw [perform_setSession_bind, perform_modifyRegistry_bind, Step.perform_bind_ok hwaits,
    Step.perform_bind_ok hserves, perform_setSession_bind, Step.perform_bind] at h
  cases hlog : (log (σ := σ) .info "session started"
      [("precompiled", .json (.bool spec.precompiled))]).perform _ with
  | mk noted logged =>
    rw [hlog] at h
    obtain ⟨hafter, hrecord⟩ := act_cases hlog
    cases noted with
    | error failure =>
      cases h
      cases log_ok hrecord hdated
    | ok =>
      cases h
      rw [hafter]
      exact ⟨rfl, rfl, rfl, rfl⟩

/-- A client that was registered was made and has started. -/
theorem Enlists.started {stage enlisted : Stage σ} {client handle : Nat}
    (h : supervisor.Enlists kind stage client (.ok handle) enlisted) :
    ∃ made started, supervisor.Makes kind stage (.ok client) made ∧
      (kind.start client).perform made = (.ok (), started) ∧ enlisted.clients = started.2 := by
  obtain ⟨made, hmakes, hregister⟩ := h
  rcases Registry.register_course hregister with
    ⟨-, ⟨_, herror⟩, -⟩ | ⟨-, outcome, started, hstart, hclients, -, ⟨_, -, herror, -⟩ | ⟨rfl, -⟩⟩
  · cases herror
  · cases herror
  · exact ⟨made, started, hmakes, hstart, hclients⟩

/-! ### Starts that fail -/

/-- A start that gives no client back leaves the supervisor without a session and the registry as it
was. It has failed for a cause: the user is told once about a launch that cannot be planned and about
a server that does not start, and is told nothing about any other cause. -/
theorem start_leaves_no_trace (supervisor : Supervisor) (hdelivers : kind.Delivers)
    {before after : Activation σ} {result : Except Failure (Option Nat)}
    (hvacant : before.session = none)
    (h : (supervisor.start kind).perform before = (result, after))
    (hnone : ∀ client, result ≠ .ok (some client)) (hdated : after.stage.world.Dated) :
    after.session = none ∧ after.stage.registry = before.stage.registry ∧
      ∃ cause ended, supervisor.FailsBy kind before.stage cause ended ∧
        Tells supervisor.host cause.told ended.world after.stage.world := by
  rcases start_course hvacant h hdated with
    ⟨-, client, handle, spec, enlisted, world, outcome, henlists, -, hconnect, hresult⟩ |
      ⟨-, hfails⟩
  -- a registered client is ready and can be connected, so the start would have given it back
  · obtain ⟨made, started, ⟨_, _, -, hcreate⟩, hstart, hclients⟩ := henlists.started
    obtain ⟨ready, served, hready, hserve⟩ := hdelivers hcreate hstart world
    rw [← hclients] at hready
    obtain ⟨rfl, -⟩ := connect_dated hready hserve hconnect hdated
    exact absurd hresult (hnone client)
  · have hregistry := hfails.registry hdated
    obtain ⟨cause, ended, hcause, hafter, htells⟩ := hfails
    exact ⟨by rw [hafter], hregistry, cause, ended, hcause, htells⟩

/-- A supervisor that finds nothing to run the server with. -/
def adrift : Supervisor :=
  { simple with planner := fun _ _ => throw (.configuration "no julia executable") }

/-- A launch that cannot be planned. -/
theorem adrift_leaves_no_trace :
    let before : Activation Sessions := ⟨{ world := default, clients := [] }, none⟩
    let started := (adrift.start Sessions.kind).perform before
    started.1 = .ok none ∧ started.2.session = none ∧
      started.2.stage.registry = before.stage.registry ∧
        ∃ cause ended, adrift.FailsBy Sessions.kind before.stage cause ended ∧
          Tells adrift.host cause.told ended.world started.2.stage.world := by
  intro before started
  have hresult : started.1 = .ok none := by decide +kernel
  have hdated : started.2.stage.world.Dated := by decide +kernel
  have hnone : ∀ client, started.1 ≠ .ok (some client) := by
    rw [hresult]
    exact nofun
  exact ⟨hresult, start_leaves_no_trace adrift Sessions.delivers_sessions rfl rfl hnone hdated⟩

end Supervisor

end JuliaSession
