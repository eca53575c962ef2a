import JuliaSession.Proofs.Supervisor.Outcomes

/-!
# Clients that are watched

To say what clients were told, and whether they did it, their calls are written down beside them.
Nobody asks for what is written down: without it, a run of the registry or of the supervisor is the
run with the clients themselves.

* `SessionKind.watched`: the same clients, and what they were told.
* `Supervisor.erases_start`, `Registry.erases_disposeSubscriptions`: a start of the supervisor and a
  teardown of the extension do the same with clients that are watched.
* `Supervisor.start_told`: a start tells at most one client to start. If it starts, it is the only
  registered client, and the extension stops it when it is torn down; if not, nobody is registered.
-/

namespace JuliaSession

variable {σ α : Type}

open Step (Erases)

/-! ### What clients are told -/

/-- What a client is told, and whether it did so. -/
inductive Told where
  /-- The client was told to start. -/
  | start (client : Nat) (well : Bool)
  /-- The client was told to stop. -/
  | stop (client : Nat)
  deriving DecidableEq, Repr

/-- The clients without what they were told. -/
def unwatched (state : World × σ × List Told) : World × σ := (state.1, state.2.1)

/-- A step on the world and the clients that tells them nothing. -/
def untold (step : Step (World × σ) α) : Step (World × σ × List Told) α :=
  step.onPart unwatched fun (_, _, told) (world, clients) => (world, clients, told)

/-- Write down what a client was told. -/
def tell (told : Told) : Step (World × σ × List Told) Unit :=
  modify fun (world, clients, earlier) => (world, clients, earlier ++ [told])

/-- The same clients, and what they were told. -/
def SessionKind.watched (kind : SessionKind σ) : SessionKind (σ × List Told) where
  id clients client := kind.id clients.1 client
  start client := do
    let outcome ← (untold (kind.start client)).attempt
    tell (.start client outcome.isOk)
    Step.ofExcept outcome
  stop client := do
    tell (.stop client)
    untold (kind.stop client)
  create server options := untold (kind.create server options)
  awaitReady client := untold (kind.awaitReady client)
  serveTexts client := untold (kind.serveTexts client)
  refuseTexts client := untold (kind.refuseTexts client)

theorem erases_untold (step : Step (World × σ) α) : Erases unwatched (untold step) step :=
  fun _ => rfl

/-- A step that tells the clients nothing is taken behind what they were told. -/
theorem untold_cases {step : Step (World × σ) α} {before after : World × σ × List Told}
    {result : Except Failure α} (h : (untold step).perform before = (result, after)) :
    step.perform (unwatched before) = (result, unwatched after) ∧ after.2.2 = before.2.2 := by
  cases h
  exact ⟨rfl, rfl⟩

theorem perform_untold {step : Step (World × σ) α} {world : World} {clients : σ}
    {result : Except Failure α} {after : World × σ}
    (h : step.perform (world, clients) = (result, after)) (told : List Told) :
    (untold step).perform (world, clients, told) = (result, after.1, after.2, told) := by
  unfold untold
  rw [Step.perform_onPart]
  unfold unwatched
  dsimp only
  rw [h]

section Kind

variable (kind : SessionKind σ)

theorem erases_watched_start (client : Nat) :
    Erases unwatched (kind.watched.start client) (kind.start client) := by
  intro state
  have hstart := erases_untold (kind.start client) state
  rw [hstart]
  unfold SessionKind.watched
  dsimp only
  rw [Step.perform_bind_ok (Step.perform_attempt _ _)]
  cases ((untold (kind.start client)).perform state).1 <;> rfl

theorem erases_watched_stop (client : Nat) :
    Erases unwatched (kind.watched.stop client) (kind.stop client) := fun _ => rfl

/-- A client that is told to start does what it does unwatched, and it is written down whether it
started. -/
theorem watched_start_cases {client : Nat} {before after : World × σ × List Told}
    {result : Except Failure Unit}
    (h : (kind.watched.start client).perform before = (result, after)) :
    (kind.start client).perform (unwatched before) = (result, unwatched after) ∧
      after.2.2 = before.2.2 ++ [.start client result.isOk] := by
  have hstart := erases_watched_start kind client before
  rw [h] at hstart
  refine ⟨hstart, ?_⟩
  change (((untold (kind.start client)).attempt >>= fun outcome =>
    tell (.start client outcome.isOk) >>= fun _ => Step.ofExcept outcome).perform before) = _ at h
  rw [Step.perform_bind_ok (Step.perform_attempt _ _), tell, Step.perform_modify_bind,
    Step.perform_ofExcept] at h
  cases h
  rfl

/-- Clients that can be connected can be connected while they are watched. -/
theorem SessionKind.Delivers.watched {kind : SessionKind σ} (h : kind.Delivers) :
    kind.watched.Delivers := by
  intro server options before client made started hcreate hstart world
  obtain ⟨ready, served, hready, hserve⟩ :=
    h (untold_cases hcreate).1 (watched_start_cases kind hstart).1 world
  exact ⟨(ready.1, ready.2, started.2.2), (served.1, served.2, started.2.2),
    perform_untold hready _, perform_untold hserve _⟩

/-! ### The registry -/

/-- The host without what its clients were told. -/
def Stage.unwatched (stage : Stage (σ × List Told)) : Stage σ :=
  ⟨stage.world, stage.clients.1, stage.registry⟩

namespace Stage

theorem erases_act (step : Act α) :
    Erases Stage.unwatched (act (σ := σ × List Told) step) (act step) := fun _ => rfl

theorem erases_withClients {full : Step (World × σ × List Told) α} {step : Step (World × σ) α}
    (h : Erases JuliaSession.unwatched full step) :
    Erases Stage.unwatched (withClients full) (withClients step) :=
  h.onPart (fun _ => rfl) fun _ _ => rfl

theorem erases_modifyRegistry (change : Registry → Registry) :
    Erases Stage.unwatched (modifyRegistry (σ := σ × List Told) change) (modifyRegistry change) :=
  fun _ => rfl

end Stage

namespace Registry

open Stage (erases_act erases_withClients erases_modifyRegistry)

theorem erases_register (client : Nat) :
    Erases Stage.unwatched (register kind.watched.toClientKind client)
      (register kind.toClientKind client) := by
  refine .get_bind fun stage => .get_bind fun stage' => ?_
  refine .ite (p := (stage'.registry.get? (kind.id stage.clients.1 client)).isSome) ?_ ?_
  · exact .throw_bind _ _ _
  · refine .bind (erases_modifyRegistry _) fun _ =>
      .bind (erases_withClients (erases_watched_start kind client)).attempt fun outcome => ?_
    cases outcome with
    | error failure => exact .bind (erases_modifyRegistry _) fun _ => .throw _
    | ok =>
      exact .bind (erases_act _) fun _ => .get_bind fun _ =>
        .bind (erases_modifyRegistry _) fun _ => .pure _

theorem erases_unregister (id : String) :
    Erases Stage.unwatched (unregister kind.watched.toClientKind id)
      (unregister kind.toClientKind id) := by
  refine .get_bind fun stage => ?_
  dsimp only [Stage.unwatched]
  split
  · exact .pure _
  · exact .bind (erases_modifyRegistry _) fun _ =>
      .bind (erases_withClients (erases_watched_stop kind _)) fun _ => erases_act _

theorem erases_tearDown (teardown : Teardown) :
    Erases Stage.unwatched (tearDown kind.watched.toClientKind teardown)
      (tearDown kind.toClientKind teardown) := by
  cases teardown with
  | unregister id => exact erases_unregister kind id
  | foreign name fault =>
    refine .bind (erases_act _) fun _ => ?_
    cases fault with
    | none => exact .pure _
    | some failure => exact .throw _

theorem erases_dispose (handle : Nat) :
    Erases Stage.unwatched (dispose kind.watched.toClientKind handle)
      (dispose kind.toClientKind handle) := by
  refine .get_bind fun stage => ?_
  dsimp only [Stage.unwatched]
  split
  · exact .bind (erases_modifyRegistry _) fun _ => erases_tearDown kind _
  · exact .pure _

theorem erases_guarded {full : Step (Stage (σ × List Told)) Unit} {step : Step (Stage σ) Unit}
    (h : Erases Stage.unwatched full step)
    {report : Failure → Step (Stage (σ × List Told)) Unit} {report' : Failure → Step (Stage σ) Unit}
    (hreport : ∀ failure, Erases Stage.unwatched (report failure) (report' failure)) :
    Erases Stage.unwatched (guarded full report) (guarded step report') := by
  refine .bind h.attempt fun outcome => ?_
  cases outcome with
  | ok => exact .pure _
  | error failure =>
    dsimp only
    split
    · exact .throw _
    · exact hreport failure

theorem erases_disposeLast (count : Nat) :
    Erases Stage.unwatched (disposeLast kind.watched.toClientKind count)
      (disposeLast kind.toClientKind count) := by
  induction count with
  | zero => exact .pure _
  | succ count ih =>
    refine .get_bind fun stage => ?_
    dsimp only [Stage.unwatched]
    split
    · exact .pure _
    · exact .bind (erases_modifyRegistry _) fun _ =>
        .bind (erases_guarded (erases_dispose kind _) fun _ => erases_act _) fun _ => ih

/-- A teardown of the extension does not depend on what the clients were told. -/
theorem erases_disposeSubscriptions :
    Erases Stage.unwatched (disposeSubscriptions kind.watched.toClientKind)
      (disposeSubscriptions kind.toClientKind) :=
  .get_bind fun _ => erases_disposeLast kind _

end Registry

/-! ### The supervisor -/

/-- The activation without what its clients were told. -/
def Activation.unwatched (activation : Activation (σ × List Told)) : Activation σ :=
  ⟨activation.stage.unwatched, activation.session⟩

namespace Supervisor

open Stage (erases_withClients)

theorem erases_onStage {full : Step (Stage (σ × List Told)) α} {step : Step (Stage σ) α}
    (h : Erases Stage.unwatched full step) :
    Erases Activation.unwatched (onStage full) (onStage step) :=
  h.onPart (fun _ => rfl) fun _ _ => rfl

theorem erases_act (step : Act α) :
    Erases Activation.unwatched (act (σ := σ × List Told) step) (act step) :=
  erases_onStage (Stage.erases_act step)

theorem erases_setSession (session : Option Running) :
    Erases Activation.unwatched (setSession (σ := σ × List Told) session) (setSession session) :=
  fun _ => rfl

variable (supervisor : Supervisor)

theorem erases_reportFailure (message : String) (failure : Failure) :
    Erases Activation.unwatched (supervisor.reportFailure (σ := σ × List Told) message failure)
      (supervisor.reportFailure message failure) :=
  .bind (erases_act _) fun _ => erases_act _

theorem erases_registerBy (spec : LaunchSpec) :
    Erases Activation.unwatched (supervisor.registerBy kind.watched spec)
      (supervisor.registerBy kind spec) := by
  refine .get_bind fun activation => .bind
    (erases_onStage (erases_withClients (erases_untold _))) fun client => .bind
      (erases_onStage (Registry.erases_register kind client)).attempt fun outcome => ?_
  cases outcome with
  | ok registration => exact .pure _
  | error failure =>
    dsimp only
    split
    · exact .bind (erases_reportFailure supervisor _ _) fun _ => .pure _
    · exact .throw _

theorem erases_launch :
    Erases Activation.unwatched (supervisor.launch kind.watched) (supervisor.launch kind) := by
  refine .bind (erases_act _).attempt fun outcome => ?_
  cases outcome with
  | ok spec => exact .bind (erases_registerBy kind supervisor spec) fun _ => .pure _
  | error failure =>
    dsimp only
    split
    · exact .bind (erases_reportFailure supervisor _ _) fun _ => .pure _
    · exact .throw _

theorem erases_connect (session : Running) (spec : LaunchSpec) :
    Erases Activation.unwatched (connect kind.watched session spec) (connect kind session spec) :=
  .bind (erases_setSession _) fun _ =>
    .bind (erases_onStage (Stage.erases_modifyRegistry _)) fun _ =>
      .bind (erases_onStage (erases_withClients (erases_untold _))) fun _ =>
        .bind (erases_onStage (erases_withClients (erases_untold _))) fun _ =>
          .bind (erases_setSession _) fun _ => .bind (erases_act _) fun _ => .pure _

/-- A start of the supervisor does not depend on what the clients were told. -/
theorem erases_start :
    Erases Activation.unwatched (supervisor.start kind.watched) (supervisor.start kind) := by
  unfold start
  split
  · exact .bind (erases_act _) fun _ => .pure _
  · refine .get_bind fun activation => ?_
    dsimp only [Activation.unwatched]
    split
    · exact .pure _
    · refine .bind (erases_act _) fun timer =>
        .bind (erases_launch kind supervisor).attempt fun outcome =>
          .bind (erases_act _) fun _ => .bind (.ofExcept _) fun launched => ?_
      cases launched with
      | none => exact .pure _
      | some launched => exact .bind (erases_connect kind _ _) fun _ => .pure _

end Supervisor

end Kind

/-! ### What a start tells -/

/-- The activation before anything is done. -/
def Activation.fresh (world : World) (clients : σ) : Activation (σ × List Told) where
  stage := { world, clients := (clients, []) }

/-- A registry with one client, which is stopped when the extension is torn down. -/
def Registry.sole (id : String) (client : Nat) : Registry :=
  ⟨[(id, client)], [some (.unregister id)], [0]⟩

namespace Supervisor

variable {kind : SessionKind σ} {census : Census σ} {supervisor : Supervisor}

/-- A client that is registered in an empty registry is the only one, and started. -/
theorem Enlists.told {stage enlisted : Stage (σ × List Told)} {client handle : Nat}
    (hempty : stage.registry = {})
    (h : supervisor.Enlists kind.watched stage client (.ok handle) enlisted) :
    enlisted.clients.2 = stage.clients.2 ++ [.start client true] ∧
      ∃ id, enlisted.registry.keep handle = .sole id client := by
  obtain ⟨made, ⟨_, _, -, hcreate⟩, hregister⟩ := h
  obtain ⟨-, hhandle, hregistry⟩ := Registry.register_ok hregister
  rcases Registry.register_course hregister with
    ⟨-, ⟨_, herror⟩, -⟩ | ⟨-, outcome, started, hstart, hclients, -, ⟨_, -, herror, -⟩ | ⟨rfl, -⟩⟩
  · cases herror
  · cases herror
  · refine ⟨?_, kind.watched.id made.2 client, ?_⟩
    · rw [hclients, (watched_start_cases kind hstart).2, (untold_cases hcreate).2]
      rfl
    · dsimp only at hhandle hregistry
      rw [hregistry, hhandle, hempty]
      rfl

/-- A start that fails while the time of day can be written told at most one client to start, and
that client did not. -/
theorem Fails.told {stage : Stage (σ × List Told)} {session : Option Running}
    {after : Activation (σ × List Told)} (h : supervisor.Fails kind.watched stage session after)
    (hempty : stage.registry = {}) (hdated : after.stage.world.Dated) :
    after.stage.clients.2 = stage.clients.2 ∨
      ∃ client, after.stage.clients.2 = stage.clients.2 ++ [.start client false] := by
  obtain ⟨cause, ended, hcause, hafter, htells⟩ := h
  have hclients : after.stage.clients = ended.clients := by rw [hafter]
  rw [hclients]
  cases hcause with
  | disabled => exact .inl rfl
  | planning => exact .inl rfl
  | making hmakes =>
    obtain ⟨_, _, -, hcreate⟩ := hmakes
    exact .inl (untold_cases hcreate).2
  | @registration client _ _ henlists =>
    obtain ⟨made, ⟨_, _, -, hcreate⟩, hregister⟩ := henlists
    have hmade := (untold_cases hcreate).2
    -- nobody was registered, so the id was free; the client was started, and that failed
    rcases Registry.register_course hregister with
      ⟨htaken, -⟩ | ⟨-, _, started, hstart, hended, -, ⟨failure, rfl, -⟩ |
        ⟨-, ⟨⟨_, hreason⟩, hundated⟩ | ⟨hok, -⟩⟩⟩
    · rw [hempty] at htaken
      exact absurd rfl htaken
    · right
      refine ⟨client, ?_⟩
      rw [hended, (watched_start_cases kind hstart).2, hmade]
      rfl
    · -- a record that cannot be written is not told about, so the time of day is still the same
      cases hreason
      exact absurd (LogsOnly.dated_iff htells |>.1 hdated) hundated
    · cases hok

/-- Connecting a client tells it nothing, and makes no further one. -/
theorem connect_told {stage enlisted : Stage (σ × List Told)} {client handle : Nat}
    {spec : LaunchSpec} {before after : Activation (σ × List Told)} {outcome : Except Failure Nat}
    (hlawful : kind.Lawful census) (hdelivers : kind.Delivers)
    (henlists : supervisor.Enlists kind.watched stage client (.ok handle) enlisted)
    (hbefore : before.stage.clients = enlisted.clients)
    (h : (connect kind.watched ⟨client, handle, false⟩ spec).perform before = (outcome, after))
    (hdated : after.stage.world.Dated) :
    outcome = .ok client ∧ client < census.count after.stage.clients.1 ∧
      after.stage.clients.2 = before.stage.clients.2 ∧
        after.stage.registry = before.stage.registry.keep handle := by
  obtain ⟨made, started, ⟨_, _, -, hcreate⟩, hstart, hclients⟩ := henlists.started
  rw [hclients] at hbefore
  obtain ⟨ready, served, hready, hserve⟩ := hdelivers.watched hcreate hstart before.stage.world
  rw [← hbefore] at hready
  obtain ⟨houtcome, -, hclients, hregistry⟩ := connect_dated hready hserve h hdated
  have hready' := untold_cases hready
  have hserve' := untold_cases hserve
  obtain ⟨hclient, hcount, -⟩ := hlawful.create_ok (untold_cases hcreate).1
  -- the client was the last one that was made, and there are as many as then
  have hmade : client < census.count (unwatched ready).2 := by
    rw [((hlawful.awaitReady client).ends hready'.1).count]
    change client < census.count before.stage.clients.1
    rw [hbefore]
    change client < census.count (unwatched started).2
    rw [((hlawful.start client).ends (watched_start_cases kind hstart).1).count, hcount, hclient]
    exact Nat.lt_succ_self _
  refine ⟨houtcome, ?_, ?_, hregistry⟩
  · rw [hclients]
    change client < census.count (unwatched served).2
    rwa [(hlawful.serveTexts hmade hserve'.1).count]
  · rw [hclients, hserve'.2, hready'.2]

/-- How a start from scratch ends while the time of day can be written. Either one client was told
to start and did; it is registered alone, and the extension stops it when it is torn down. Or nobody
is registered, and no client that was told to start did. -/
theorem start_told (hlawful : kind.Lawful census) (hdelivers : kind.Delivers) {world : World}
    {clients : σ} {result : Except Failure (Option Nat)} {after : Activation (σ × List Told)}
    (h : (supervisor.start kind.watched).perform (.fresh world clients) = (result, after))
    (hdated : after.stage.world.Dated) :
    (∃ id client, result = .ok (some client) ∧ client < census.count after.stage.clients.1 ∧
        after.stage.registry = .sole id client ∧ after.stage.clients.2 = [.start client true]) ∨
      (∀ client, result ≠ .ok (some client)) ∧ after.stage.registry = {} ∧
        ∀ client, .start client true ∉ after.stage.clients.2 ∧
          .stop client ∉ after.stage.clients.2 := by
  rcases start_course rfl h hdated with
    ⟨-, client, handle, spec, enlisted, later, outcome, henlists, -, hconnect, hresult⟩ |
      ⟨hnone, hfails⟩
  -- connecting a client does not tell it to start or to stop
  · obtain ⟨htold, id, hsole⟩ := henlists.told rfl
    obtain ⟨rfl, hmade, htold', hregistry⟩ :=
      connect_told hlawful hdelivers henlists rfl hconnect hdated
    exact .inl ⟨id, client, hresult, hmade, hregistry.trans hsole, htold'.trans htold⟩
  · refine .inr ⟨hnone, hfails.registry hdated, fun client => ?_⟩
    rcases hfails.told rfl hdated with htold | ⟨_, htold⟩
    · rw [htold]
      exact ⟨List.not_mem_nil, List.not_mem_nil⟩
    · rw [htold]
      exact ⟨nofun, nofun⟩

end Supervisor

end JuliaSession
