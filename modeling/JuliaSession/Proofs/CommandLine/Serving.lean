import JuliaSession.CommandLine.Run
import JuliaSession.Proofs.Client.Stopping
import JuliaSession.Proofs.Supervisor.Outcomes
import JuliaSession.Proofs.Supervisor.Watching

/-!
# Serving until the server ends

The command that starts the server opens some files on it and waits for it to end. Each of this may
fail: there is nothing to start, a file cannot be opened, the server does not end. Whatever happens,
the extension is torn down, and with it the client.

* `Serves`: a client was made, and the time of day can be written; nothing that serving does to the
  session fails then.
* `openFiles_cases`: the files are opened in order, up to the first one that cannot be.
* `serve_ends`: how serving ends (`ServeEnds`), and that the client can still be stopped then.
* `tearDown_sole`: the only client is stopped with the extension.
* `start_leaves_no_server`: what the command comes to, and that no server is left behind.
-/

namespace JuliaSession

open Step (Leads Safe Total)

variable {σ α : Type}

namespace Dialog

open Talk (Dated)

/-- A change of the documents is told to the server while the time of day can be written. -/
theorem safe_update (change : Client → Client × List Json) : Safe Dated (update change) :=
  .bind discipline_safe.client fun _ => .bind (discipline_safe.modifySession _) fun _ =>
    .bind (discipline_safe.send _) fun _ => safe_exchange

end Dialog

namespace CommandLine

open DocumentStore (ofFile)

/-! ### A client that serves -/

/-- A client was made, and the time of day can be written. -/
structure Serves (client : Nat) (state : World × Sessions) : Prop where
  /-- There is such a client. -/
  made : client < state.2.length
  /-- The time of day can be written. -/
  dated : state.1.Dated

/-- What is safe for a session is safe for the client. -/
theorem safe_within {client : Nat} {dialog : Dialog α} (h : Safe Talk.Dated dialog) :
    Safe (Serves client) (Sessions.within client dialog) := by
  rintro ⟨world, sessions⟩ hserves
  obtain ⟨session, hsession⟩ : ∃ session, sessions[client]? = some session :=
    ⟨_, List.getElem?_eq_getElem hserves.made⟩
  obtain ⟨value, talk, hrun, hdated⟩ := h ⟨world, session⟩ hserves.dated
  rw [Sessions.perform_within hsession, hrun]
  exact ⟨value, _, rfl, by simpa using hserves.made, hdated⟩

/-- Opening files goes well, or up to the first one that cannot be opened. -/
theorem openFiles_cases {client : Nat} (files : List String) {state : World × Sessions}
    (h : Serves client state) :
    (∃ after, (openFiles client files).perform state = (.ok (), after) ∧ Serves client after) ∨
      ∃ opened path later between failure, files = opened ++ path :: later ∧
        (openFiles client opened).perform state = (.ok (), between) ∧
          ofFile between.1.desk.machine path = .error failure ∧
            (openFiles client files).perform state = (.error failure, between) ∧
              Serves client between := by
  -- by induction on the files; a file that cannot be opened ends the command there, and the files
  -- before it stay open
  induction files generalizing state with
  | nil => exact .inl ⟨state, rfl, h⟩
  | cons path rest ih =>
    cases hfile : ofFile state.1.desk.machine path with
    | error failure =>
      refine .inr ⟨[], path, rest, state, failure, rfl, rfl, hfile, ?_, h⟩
      unfold openFiles
      rw [Step.perform_get_bind]
      dsimp only
      unfold DocumentStore.openFile
      rw [hfile]
      exact Step.perform_bind_error (Step.perform_ofExcept _ _)
    | ok document =>
      let noted : World × Sessions :=
        ({ state.1 with documents := state.1.documents.add document }, state.2)
      have hnoted : Serves client noted := ⟨h.made, h.dated⟩
      obtain ⟨_, told, htold, hserves⟩ :=
        safe_within (Dialog.safe_update fun c => c.openDocument document) noted hnoted
      have hopen : state.1.documents.openFile state.1.desk.machine path =
          .ok (document, state.1.documents.add document) := by
        unfold DocumentStore.openFile
        rw [hfile]
        rfl
      -- the first file is opened and announced no matter what files follow
      have hrest : ∀ more, (openFiles client (path :: more)).perform state =
          (openFiles client more).perform told := by
        intro more
        rw [openFiles, Step.perform_get_bind]
        dsimp only
        rw [hopen, Step.perform_bind_ok (Step.perform_ofExcept _ _)]
        dsimp only
        rw [Step.perform_modify_bind, Step.perform_bind_ok htold]
      rcases ih hserves with ⟨after, hafter, hlast⟩ |
        ⟨opened, bad, later, between, failure, hsplit, hopened, hfault, hfails, hbetween⟩
      · exact .inl ⟨after, (hrest rest).trans hafter, hlast⟩
      · exact .inr ⟨path :: opened, bad, later, between, failure, by rw [hsplit, List.cons_append],
          (hrest opened).trans hopened, hfault, (hrest rest).trans hfails, hbetween⟩

/-! ### Waiting -/

/-- What waiting for the process of a session comes to: its exit code, if there is a process. Nobody
waits for a process that goes on. -/
def exit (session : Session) : Except Failure (Option Int) :=
  match session.peer with
  | none => .ok none
  | some peer =>
    match peer.code with
    | some code => .ok (some code)
    | none => .error .stillRunning

/-- Something is done to the world beside a client that was made. -/
theorem perform_within_act {client : Nat} {sessions : Sessions} (hmade : client < sessions.length)
    (step : Act α) (world : World) :
    (Sessions.within client (Dialog.act step)).perform (world, sessions) =
      ((step.perform world).1, (step.perform world).2, sessions) := by
  rw [Sessions.perform_within (List.getElem?_eq_getElem hmade)]
  exact Prod.ext rfl (Prod.ext rfl (List.set_getElem_self hmade))

/-- Nothing that is written to the log fails while the time of day can be written. -/
theorem safe_log (service : String) (level : Log.Level) (message : String) (fields : Log.Fields) :
    Safe World.Dated (Act.log service level message fields) := by
  intro world hdated
  have hafter := (logsOnly_log service level message fields world).dated_iff.2 hdated
  exact ⟨(), _, Prod.ext (log_ok rfl hafter) rfl, hafter⟩

/-- The line that says that the server is running. -/
def runningLine : List Char :=
  Markup.styled "green" (Sessions.clientName ++ " running") ++ " [dim](Ctrl-C to stop)[/dim]".toList

/-- The line is well-formed markup. -/
theorem runningLine_readable : (Markup.read runningLine).isOk = true := by decide +kernel

theorem safe_print_runningLine : Safe World.Dated (Act.print runningLine) := by
  intro world hdated
  obtain ⟨text, htext⟩ : ∃ text, Markup.read runningLine = .ok text := by
    have hreadable := runningLine_readable
    revert hreadable
    cases Markup.read runningLine with
    | error fault => exact nofun
    | ok text => exact fun _ => ⟨text, rfl⟩
  unfold Act.print
  rw [htext]
  exact ⟨(), _, rfl, hdated⟩

/-- Waiting for a client comes to what waiting for its process comes to, and takes no time. -/
theorem perform_waitClosed {client : Nat} {sessions : Sessions} {session : Session}
    (h : sessions[client]? = some session) (world : World) :
    ∃ waited, (Sessions.within client Dialog.waitClosed).perform (world, sessions) =
      (exit session, waited, sessions) ∧ (world.Dated → waited.Dated) := by
  have hset : sessions.set client session = sessions := by
    obtain ⟨hlt, hsession⟩ := List.getElem?_eq_some_iff.1 h
    rw [← hsession, List.set_getElem_self]
  rw [Sessions.perform_within h]
  unfold Dialog.waitClosed exit
  rw [Step.perform_bind_ok (Dialog.perform_session _)]
  cases session.peer with
  | none => exact ⟨world, by dsimp only [Step.perform_pure]; rw [hset], id⟩
  | some peer =>
    let waited : World := { world with events := world.events ++ [.wait none] }
    have hrecord : (Dialog.act (Act.record (.wait none))).perform ⟨world, session⟩ =
        (.ok (), ⟨waited, session⟩) := rfl
    refine ⟨waited, ?_, id⟩
    dsimp only
    rw [Step.perform_bind_ok hrecord]
    cases peer.code <;> exact Prod.ext rfl (Prod.ext rfl hset)

/-! ### How serving ends -/

/-- How serving ends: with the fault of the first file that cannot be opened, or, once all files are
open, with what waiting for the process comes to; the exit code is zero if there is none. -/
inductive ServeEnds (client : Nat) (files : List String) (state : World × Sessions) :
    Except Failure Int → Prop
  /-- A file cannot be opened, and all before it can. -/
  | unopened {opened : List String} {path : String} {later : List String}
    {between : World × Sessions} {failure : Failure} (hsplit : files = opened ++ path :: later)
    (hopened : (openFiles client opened).perform state = (.ok (), between))
    (hfault : ofFile between.1.desk.machine path = .error failure) :
    ServeEnds client files state (.error failure)
  /-- All files are open. -/
  | waited {after : World × Sessions} {session : Session}
    (hopened : (openFiles client files).perform state = (.ok (), after))
    (hsession : after.2[client]? = some session) :
    ServeEnds client files state ((exit session).map (Option.getD · 0))

/-- However serving ends, the client serves on. -/
theorem serve_ends {client : Nat} (files : List String) {state : World × Sessions}
    (h : Serves client state) :
    ServeEnds client files state ((serve client files).perform state).1 ∧
      Serves client ((serve client files).perform state).2 := by
  rcases openFiles_cases files h with ⟨⟨world, sessions⟩, hopened, hserves⟩ |
    ⟨opened, path, later, between, failure, hsplit, hopened, hfault, hfails, hserves⟩
  · have hmade : client < sessions.length := hserves.made
    have hsession : sessions[client]? = some sessions[client] := List.getElem?_eq_getElem hmade
    obtain ⟨_, printed, hprint, hprinted⟩ := safe_print_runningLine world hserves.dated
    obtain ⟨waited, hwait, hwaited⟩ := perform_waitClosed hsession printed
    have hprint' := perform_within_act hmade (Act.print runningLine) world
    rw [hprint] at hprint'
    have hrun : (serve client files).perform state =
        ((Sessions.within client Dialog.waitClosed) >>= fun code => do
          Sessions.within client (Dialog.act
            (Act.log "cli.start" .info "server exited" [("code", .json (.ofInt? code))]))
          return code.getD 0).perform (printed, sessions) := by
      unfold serve
      rw [Step.perform_bind_ok hopened]
      dsimp only
      exact Step.perform_bind_ok hprint'
    have hend : ServeEnds client files state ((exit sessions[client]).map (Option.getD · 0)) :=
      .waited hopened hsession
    rw [hrun]
    -- the end of the process is what the client waited for; only a process that ended is logged
    cases hexit : exit sessions[client] with
    | error failure =>
      rw [hexit] at hwait hend
      rw [Step.perform_bind_error hwait]
      exact ⟨hend, hmade, hwaited hprinted⟩
    | ok code =>
      rw [hexit] at hwait hend
      obtain ⟨_, logged, hlog, hlogged⟩ := safe_log "cli.start" .info "server exited"
        [("code", .json (.ofInt? code))] waited (hwaited hprinted)
      have hlog' := perform_within_act hmade (Act.log "cli.start" .info "server exited"
        [("code", .json (.ofInt? code))]) waited
      rw [hlog] at hlog'
      rw [Step.perform_bind_ok hwait, Step.perform_bind_ok hlog']
      exact ⟨hend, hmade, hlogged⟩
  · have hrun : (serve client files).perform state = (.error failure, between) :=
      Step.perform_bind_error hfails
    rw [hrun]
    exact ⟨.unopened hsplit hopened hfault, hserves⟩

/-! ### Tearing down -/

/-- Waiting for the visible commands ends well while the time of day can be written. -/
theorem safe_waitTerminals : Safe World.Dated Host.waitTerminals := by
  have hlogs (terminals : List Terminal) : Safe World.Dated
      (forIn terminals PUnit.unit fun terminal _ => do
        Act.log "host.ui" .info "visible command finished"
          [("label", Log.text terminal.label), ("code", Log.number terminal.code)]
        pure (.yield PUnit.unit) : Act PUnit) := by
    -- by induction on the terminals that are still open, each of which writes one record
    induction terminals with
    | nil => exact fun world hdated => ⟨_, world, rfl, hdated⟩
    | cons terminal rest ih =>
      rw [List.forIn_cons]
      refine .bind (.bind (safe_log _ _ _ _) fun _ => ?_) fun step => ?_
      · exact fun world hdated => ⟨_, world, rfl, hdated⟩
      · cases step with
        | done => exact fun world hdated => ⟨_, world, rfl, hdated⟩
        | yield => exact ih
  intro world hdated
  obtain ⟨_, logged, hrun, hlogged⟩ := hlogs world.terminals world hdated
  unfold Host.waitTerminals
  rw [Step.perform_get_bind, Step.perform_bind_ok hrun]
  exact ⟨(), _, rfl, hlogged⟩

/-- A client that serves is taken out and stops. -/
theorem unregister_serving {stage : Stage (Sessions × List Told)} {id : String} {client : Nat}
    (hclient : stage.registry.get? id = some client)
    (hserves : Serves client (stage.world, stage.clients.1)) :
    ∃ world sessions,
      (Registry.unregister Sessions.kind.watched.toClientKind id).perform stage =
        (.ok (), ⟨world, (sessions, stage.clients.2 ++ [.stop client]), stage.registry.leave id⟩) ∧
      world.Dated := by
  obtain ⟨_, stopped, hstop, hstopped⟩ := safe_within Dialog.safe_stop _ hserves
  let told := stage.clients.2 ++ [.stop client]
  have hrun : (Stage.withClients (Sessions.kind.watched.stop client)).perform
      { stage with registry := stage.registry.leave id } =
        (.ok (), ⟨stopped.1, (stopped.2, told), stage.registry.leave id⟩) := by
    have htold : (Sessions.kind.watched.stop client).perform (stage.world, stage.clients) =
        (.ok (), stopped.1, stopped.2, told) := perform_untold hstop told
    unfold Stage.withClients
    rw [Step.perform_onPart, htold]
  obtain ⟨_, logged, hlog, hlogged⟩ := safe_log "host.context" .info "unregistered language client"
    [("client_id", Log.text id)] stopped.1 hstopped.dated
  refine ⟨logged, stopped.2, ?_, hlogged⟩
  rw [Registry.unregister_occupied hclient, Step.perform_bind_ok hrun]
  unfold Registry.note Stage.act
  rw [Step.perform_onPart, hlog]

/-- The only client is stopped when the extension is torn down, and nobody is registered then. -/
theorem tearDown_sole {stage : Stage (Sessions × List Told)} {id : String} {client : Nat}
    (hsole : stage.registry = .sole id client)
    (hserves : Serves client (stage.world, stage.clients.1)) :
    ∃ after,
      (Registry.disposeSubscriptions Sessions.kind.watched.toClientKind).perform stage =
        (.ok (), after) ∧
      after.registry.clients = [] ∧ after.registry.subscriptions = [] ∧
        after.clients.2 = stage.clients.2 ++ [.stop client] ∧ after.world.Dated := by
  obtain ⟨world, clients, registry⟩ := stage
  dsimp only at hsole
  subst hsole
  let disarmed : Stage (Sessions × List Told) := ⟨world, clients, [(id, client)], [none], []⟩
  have hclient : disarmed.registry.get? id = some client := if_pos rfl
  obtain ⟨ended, sessions, hunregister, hdated⟩ := unregister_serving hclient hserves
  -- the only subscription is the one that unregisters the client: to dispose of it stops the client
  have hdispose : (Registry.dispose Sessions.kind.watched.toClientKind 0).perform
      ⟨world, clients, [(id, client)], [some (.unregister id)], []⟩ =
        (Registry.unregister Sessions.kind.watched.toClientKind id).perform disarmed := by
    rw [Registry.dispose_armed rfl]
    rfl
  have hrun : (Registry.disposeSubscriptions Sessions.kind.watched.toClientKind).perform
      ⟨world, clients, .sole id client⟩ =
        (.ok (), ⟨ended, (sessions, clients.2 ++ [.stop client]), disarmed.registry.leave id⟩) := by
    rw [Registry.disposeSubscriptions_singleton _ rfl]
    unfold Registry.guarded Registry.sole
    rw [Step.perform_bind_ok (Step.perform_attempt _ _), hdispose, hunregister]
    rfl
  exact ⟨_, hrun, Assoc.erase_cons_self List.not_mem_nil client, rfl, rfl, hdated⟩

/-! ### From start to end -/

section Kind

variable (supervisor : Supervisor) (kind : SessionKind σ) (served : Nat → Step (World × σ) Int)

/-- Start a session of clients of some kind and do something with its client. -/
def sessionBy : Step (Activation σ) Int := do
  match ← supervisor.start kind with
  | none => return 1
  | some client => Supervisor.onStage (Stage.withClients (served client))

/-- Start a session of clients of some kind, do something with its client and tear the extension
down. -/
def servedBy : Step (Activation σ) Int := do
  let result ← (sessionBy supervisor kind served).attempt
  Supervisor.onStage (Registry.disposeSubscriptions kind.toClientKind)
  Supervisor.act Host.waitTerminals
  Step.ofExcept result

/-- What happens to the clients does not depend on their being watched. -/
theorem erases_servedBy :
    Step.Erases Activation.unwatched
      (servedBy supervisor kind.watched fun client => untold (served client))
      (servedBy supervisor kind served) := by
  have hsession : Step.Erases Activation.unwatched
      (sessionBy supervisor kind.watched fun client => untold (served client))
      (sessionBy supervisor kind served) := by
    refine .bind (Supervisor.erases_start kind supervisor) fun started => ?_
    cases started with
    | none => exact .pure _
    | some client => exact Supervisor.erases_onStage (Stage.erases_withClients (erases_untold _))
  exact .bind hsession.attempt fun result =>
    .bind (Supervisor.erases_onStage (Registry.erases_disposeSubscriptions kind)) fun _ =>
      .bind (Supervisor.erases_act _) fun _ => .ofExcept result

variable {supervisor kind served}

/-- What comes of a session is the result, if the teardown ends well while the time of day can be
written. -/
theorem perform_servedBy {before ended : Activation σ} {result : Except Failure Int}
    {torn : Stage σ}
    (hsession : (sessionBy supervisor kind served).perform before = (result, ended))
    (htear : (Registry.disposeSubscriptions kind.toClientKind).perform ended.stage = (.ok (), torn))
    (hdated : torn.world.Dated) :
    ∃ world, (servedBy supervisor kind served).perform before =
      (result, ⟨{ torn with world }, ended.session⟩) := by
  obtain ⟨_, waited, hwait, -⟩ := safe_waitTerminals torn.world hdated
  have htorn :
      (Supervisor.onStage (Registry.disposeSubscriptions kind.toClientKind)).perform ended =
        (.ok (), ⟨torn, ended.session⟩) := by
    unfold Supervisor.onStage
    rw [Step.perform_onPart, htear]
  have hwaited : (Supervisor.act Host.waitTerminals).perform ⟨torn, ended.session⟩ =
      (.ok (), ⟨{ torn with world := waited }, ended.session⟩) := by
    unfold Supervisor.act Supervisor.onStage Stage.act
    rw [Step.perform_onPart, Step.perform_onPart, hwait]
  refine ⟨waited, ?_⟩
  unfold servedBy
  rw [Step.perform_bind_ok (Step.perform_attempt _ _), hsession, Step.perform_bind_ok htorn,
    Step.perform_bind_ok hwaited, Step.perform_ofExcept]

/-- Without a client nothing is done, and there is nothing to tear down. -/
theorem servedBy_unstarted {before begun : Activation σ} {started : Except Failure (Option Nat)}
    (hstart : (supervisor.start kind).perform before = (started, begun))
    (hnone : ∀ client, started ≠ .ok (some client)) (hempty : begun.stage.registry = {})
    (hdated : begun.stage.world.Dated) :
    ∃ world, (servedBy supervisor kind served).perform before =
      (started.map fun _ => 1, ⟨{ begun.stage with world }, begun.session⟩) := by
  have hsession : (sessionBy supervisor kind served).perform before =
      (started.map fun _ => 1, begun) := by
    unfold sessionBy
    cases started with
    | error failure => exact Step.perform_bind_error hstart
    | ok client? =>
      cases client? with
      | none => exact Step.perform_bind_ok hstart
      | some client => exact absurd rfl (hnone client)
  -- nothing was registered, hence the teardown has no subscription to dispose of
  have htear := Registry.disposeSubscriptions_nil kind.toClientKind
    (show begun.stage.registry.subscriptions = [] by rw [hempty])
  exact perform_servedBy hsession htear hdated

end Kind

/-- A client that has started serves, and is stopped then. -/
theorem servedBy_started {supervisor : Supervisor} (files : List String) {client : Nat}
    {id : String} {before begun : Activation (Sessions × List Told)}
    (hstart : (supervisor.start Sessions.kind.watched).perform before = (.ok (some client), begun))
    (hsole : begun.stage.registry = .sole id client)
    (hserves : Serves client (begun.stage.world, begun.stage.clients.1)) :
    ∃ result ended,
      (servedBy supervisor Sessions.kind.watched fun client => untold (serve client files)).perform
        before = (result, ended) ∧
      ServeEnds client files (begun.stage.world, begun.stage.clients.1) result ∧
        ended.stage.registry.clients = [] ∧ ended.stage.registry.subscriptions = [] ∧
          ended.stage.clients.2 = begun.stage.clients.2 ++ [.stop client] := by
  obtain ⟨hends, hover⟩ := serve_ends files hserves
  cases hserve : (serve client files).perform (begun.stage.world, begun.stage.clients.1) with
  | mk result served =>
    rw [hserve] at hends hover
    let ended : Stage (Sessions × List Told) :=
      ⟨served.1, (served.2, begun.stage.clients.2), begun.stage.registry⟩
    have hsession : (sessionBy supervisor Sessions.kind.watched fun client =>
        untold (serve client files)).perform before =
          (result, ⟨ended, begun.session⟩) := by
      unfold sessionBy
      rw [Step.perform_bind_ok hstart]
      exact Supervisor.perform_withClients _ (perform_untold hserve _)
    have hsole' : ended.registry = .sole id client := hsole
    obtain ⟨torn, htear, hclients, hsubscriptions, htold, hdated⟩ := tearDown_sole hsole' hover
    obtain ⟨world, hrun⟩ := perform_servedBy hsession htear hdated
    exact ⟨result, _, hrun, hends, hclients, hsubscriptions, htold⟩

/-- The command that starts the server starts, serves and tears down, once there is a supervisor. -/
theorem perform_start {layout : ServerLayout} {host : Host} {files : List String}
    {world built : World} {supervisor : Supervisor}
    (hbuilt : (CommandLine.supervisor layout host).perform world = (.ok supervisor, built)) :
    let ended := (servedBy supervisor Sessions.kind (serve · files)).perform
      ⟨{ world := built, clients := [] }, none⟩
    (start layout host files).perform world = (ended.1, ended.2.stage.world) := by
  intro ended
  unfold start
  rw [Step.perform_bind_ok hbuilt, Step.perform_get_bind]
  have hset : (set ended.2.stage.world : Act PUnit).perform built = (.ok ⟨⟩, ended.2.stage.world) :=
    rfl
  change (set ended.2.stage.world >>= fun _ => Step.ofExcept ended.1 : Act Int).perform built = _
  rw [Step.perform_bind_ok hset, Step.perform_ofExcept]

/-- How the command ends, by how the start of the session has ended. -/
def EndsBy (files : List String) (state : World × Sessions) :
    Except Failure (Option Nat) → Except Failure Int → Prop
  | .error failure, result => result = .error failure
  | .ok none, result => result = .ok 1
  | .ok (some client), result => ServeEnds client files state result

/-- A session from scratch that opens some files, and whose client is watched. -/
def watchedRun (supervisor : Supervisor) (files : List String) (built : World) :
    Except Failure Int × Activation (Sessions × List Told) :=
  (servedBy supervisor Sessions.kind.watched fun client => untold (serve client files)).perform
    (.fresh built [])

/-- However a session from scratch goes, every client that has started was told to stop once, nobody
else was, and nobody is registered. -/
theorem servedBy_ends {supervisor : Supervisor} {files : List String} {built : World}
    {started : Except Failure (Option Nat)} {begun : Activation (Sessions × List Told)}
    {result : Except Failure Int} {ended : Activation (Sessions × List Told)}
    (hstart : (supervisor.start Sessions.kind.watched).perform (.fresh built []) = (started, begun))
    (hdated : begun.stage.world.Dated)
    (hrun : watchedRun supervisor files built = (result, ended)) :
    EndsBy files (begun.stage.world, begun.stage.clients.1) started result ∧
      (∀ client, ended.stage.clients.2.count (.stop client) =
        if .start client true ∈ ended.stage.clients.2 then 1 else 0) ∧
        (∀ client, started = .ok (some client) → .start client true ∈ ended.stage.clients.2) ∧
          ended.stage.registry.clients = [] ∧ ended.stage.registry.subscriptions = [] := by
  rcases
    Supervisor.start_told Sessions.lawful_sessions Sessions.delivers_sessions hstart hdated with
    ⟨id, client, rfl, hmade, hsole, htold⟩ | ⟨hnone, hempty, hsilent⟩
  · obtain ⟨_, _, hended, hends, hclients, hsubscriptions, hstops⟩ :=
      servedBy_started files hstart hsole ⟨hmade, hdated⟩
    cases hrun.symm.trans hended
    rw [htold] at hstops
    rw [hstops]
    refine ⟨hends, fun other => ?_, ?_, hclients, hsubscriptions⟩
    · by_cases hother : other = client
      · rw [hother]
        simp
      · simp [hother, Ne.symm hother]
    · rintro other ⟨⟩
      exact List.mem_cons_self
  · obtain ⟨_, hended⟩ := servedBy_unstarted hstart hnone hempty hdated
    cases hrun.symm.trans hended
    refine ⟨?_, fun client => ?_, fun client h => absurd h (hnone client), ?_, ?_⟩
    · cases started with
      | error failure => exact rfl
      | ok client? =>
        cases client? with
        | none => exact rfl
        | some client => exact absurd rfl (hnone client)
    · obtain ⟨hstart, hstop⟩ := hsilent client
      rw [if_neg hstart, List.count_eq_zero_of_not_mem hstop]
    · exact congrArg Registry.clients hempty
    · exact congrArg Registry.subscriptions hempty

/-- A shell script that answers the first request and exits with the code 3. -/
def script : String :=
  "#!/bin/sh\nprintf 'Content-Length: 36\\r\\n\\r\\n%s' " ++
    "'\x7b\"jsonrpc\":\"2.0\",\"id\":1,\"result\":\x7b\x7d\x7d'\nexit 3\n"

/-- A machine with a shell, a compiled server and an empty file. -/
def equipped : World :=
  let bare : Machine := { files := .empty, env := [], cwd := "/", now := 1700000000000 }
  let shell := bare.install "/bin/sh" (.file (Shell.toolMark ++ [0x73, 0x68]) 0o755 0)
  let served := shell.install "/st/JuliaLS/bin/JuliaLS" (.file (Text.Utf8.encode script) 0o755 0)
  .atStart (served.install "/a.jl" (.file [] 0o644 0))

/-- The directories of the installation. -/
def installation : ServerLayout := ⟨"/ext", "/st"⟩

end CommandLine

end JuliaSession
