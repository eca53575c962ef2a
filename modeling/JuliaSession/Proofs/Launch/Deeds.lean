import JuliaSession.Launch.Planner
import JuliaSession.Proofs.Machine.Logging

/-!
# What planning does outside

Planning a launch looks for an interpreter, runs commands for their output and turns to the host. To
say which of this was done, it is written down beside the world. Nobody asks for what is written
down: without it, a plan is the plan itself.

* `Outside`: the commands and the host that planning turns to. `Outside.actual` runs the commands on
  the machine.
* `Means`: the steps that planning is made of; `Means.offer`, `Means.environment` and `Means.plan`
  have no others. With the actual outside they are the model's own (`plan_actual`, `offer_actual`).
* `Outside.watched`: means that write down each deed. `erases_offer`, `erases_environment` and
  `erases_plan` say that nothing else comes of it.
* `Julia.located`: where the interpreter is found, as a function of the machine; `find_located` says
  that looking for it does nothing but log.
-/

namespace JuliaSession

variable {σ α : Type}

namespace Launch

open Step (Erases)

/-! ### Means -/

/-- What planning turns to outside of the program. -/
structure Outside where
  /-- Run a command in a directory and return its output as text. -/
  query : List String → Option String → Act String
  /-- The user interface. -/
  host : Host

/-- A host, and commands that are run on the machine. -/
def Outside.actual (host : Host) : Outside where
  query cmd cwd := Command.run cmd cwd []
  host

/-- The steps that planning is made of. -/
structure Means (σ : Type) where
  /-- Read the machine or write a record. -/
  inner {α : Type} : Act α → Step σ α
  /-- Look for an interpreter. -/
  search : Config.JuliaSettings → Step σ (Option String)
  /-- Run a command in a directory and return its output as text. -/
  query : List String → Option String → Step σ String
  /-- Ask a question. -/
  confirm : String → Step σ Bool
  /-- Start a command with a label where the user sees it. -/
  runVisible : String → String → Step σ Unit

namespace Means

variable (means : Means σ)

/-- Ask whether packages are to be installed, and install them. -/
def install (julia project : String) : Step σ Unit := do
  if ← means.confirm Julia.installQuestion then
    means.runVisible (Julia.installCommand julia project) terminalLabel
  else
    means.inner (Act.log "lsp.packages" .info "dependency install declined" [])

/-- Offer to install the packages of a project if any are missing. -/
def offer (julia project : String) : Step σ Unit := do
  let output ← means.query (Julia.command julia project Julia.statusProgram) none
  let packages := Package.parseOutput output
  let missing := Package.missingNames packages
  if missing.isEmpty then
    means.inner (Act.log "lsp.packages" .info "server dependencies satisfied"
      [("count", Log.number packages.length)])
  else
    means.inner (Act.log "lsp.packages" .info "server dependencies missing"
      [("packages", Log.texts missing)])
    means.install julia project

/-- The environment to analyze: the configured one, or the active one of the directory `cwd`. -/
def environment (settings : Config.JuliaSettings) (cwd : Option String) (julia : String) :
    Step σ String := do
  if settings.environmentPath ≠ "" then return Text.trimBlank settings.environmentPath
  else do
    let output ← means.query (Julia.command julia "." Julia.environmentProgram) cwd
    let path := Text.trimBlank output
    means.inner
      (Act.log "lsp.resolver" .info "detected julia environment" [("path", Log.text path)])
    return path

/-- Plan with the interpreter that was found, once its packages are checked and the environment is
known. -/
def interpret (settings : Config.JuliaSettings) (cwd : Option String) (layout : ServerLayout) :
    Option String → Step σ LaunchSpec
  | none => throw (.configuration noInterpreter)
  | some julia => do
    means.offer julia layout.serverProject
    let environment ← means.environment settings cwd julia
    let depot := ((← means.inner Act.machine).envVar? depotVar).getD ""
    means.inner (Act.log "lsp.launch" .info "using interpreter fallback"
      [("julia", Log.text julia), ("environment", Log.text environment)])
    return { command := julia, args := interpreterArgs layout environment depot }

/-- Plan the command line of the server for a storage and an extension directory. -/
def plan (settings : Config.JuliaSettings) (cwd : Option String) (storage extension : String) :
    Step σ LaunchSpec := do
  let layout : ServerLayout := ⟨extension, storage⟩
  match existingBinary (← means.inner Act.machine) layout with
  | some binary => do
    means.inner (Act.log "lsp.launch" .info "using precompiled server" [("path", Log.text binary)])
    return { command := binary }
  | none => do means.interpret settings cwd layout (← means.search settings)

end Means

/-! ### Deeds -/

/-- Something that planning does outside. -/
inductive Deed where
  /-- An interpreter was looked for. -/
  | search
  /-- A command was run in a directory for its output. -/
  | query (cmd : List String) (cwd : Option String)
  /-- The user was asked a question, and answered it or not. -/
  | ask (question : String) (answer : Option Bool)
  /-- A command was started with a label where the user sees it. -/
  | run (command label : String)
  deriving DecidableEq, Repr

/-- A world, and what was done outside. -/
abbrev Watch := World × List Deed

/-- A step on the world, of which nothing is written down. -/
def unseen (step : Act α) : Step Watch α :=
  step.onPart Prod.fst fun watch world => (world, watch.2)

/-- Write down a deed. -/
def note (deed : Deed) : Step Watch Unit := modify fun watch => (watch.1, watch.2 ++ [deed])

namespace Outside

variable (outside : Outside)

/-- The steps on the world alone. -/
def plain : Means World where
  inner step := step
  search := Julia.find
  query := outside.query
  confirm := outside.host.confirm
  runVisible := outside.host.runVisible

/-- The same steps, each of which is written down. -/
def watched : Means Watch where
  inner := unseen
  search settings := do
    note .search
    unseen (Julia.find settings)
  query cmd cwd := do
    note (.query cmd cwd)
    unseen (outside.query cmd cwd)
  confirm question := do
    let outcome ← (unseen (outside.host.confirm question)).attempt
    note (.ask question outcome.toOption)
    Step.ofExcept outcome
  runVisible command label := do
    note (.run command label)
    unseen (outside.host.runVisible command label)

end Outside

/-! ### The actual outside -/

theorem offer_actual (host : Host) (julia project : String) :
    (Outside.actual host).plain.offer julia project = Julia.offerInstall host julia project := by
  unfold Julia.offerInstall Julia.packages Means.offer Means.install
  simp only [bind_assoc, pure_bind]
  rfl

theorem plan_actual (planner : Planner) :
    (Outside.actual planner.host).plain.plan planner.settings planner.cwd = planner.plan := by
  funext storage extension
  unfold Planner.plan Means.plan
  refine bind_congr fun machine => ?_
  dsimp only
  cases existingBinary machine ⟨extension, storage⟩ with
  | some binary => rfl
  | none =>
    refine bind_congr fun found => ?_
    cases found with
    | none => rfl
    | some julia =>
      unfold Means.interpret
      dsimp only
      rw [offer_actual]
      rfl

/-! ### What is written down -/

@[simp]
theorem perform_unseen (step : Act α) (watch : Watch) :
    (unseen step).perform watch = ((step.perform watch.1).1, (step.perform watch.1).2, watch.2) :=
  rfl

@[simp]
theorem perform_note_bind (deed : Deed) (next : Unit → Step Watch α) (watch : Watch) :
    (note deed >>= next).perform watch = (next ()).perform (watch.1, watch.2 ++ [deed]) :=
  Step.perform_modify_bind _ _ _

/-- A record is written while the time of day can be written. -/
theorem perform_unseen_log (watch : Watch) (hdated : watch.1.Dated) (service : String)
    (level : Log.Level) (message : String) (fields : Log.Fields) :
    ∃ after, LogsOnly watch.1 after ∧
      (unseen (Act.log service level message fields)).perform watch = (.ok (), after, watch.2) := by
  cases hrun : (Act.log service level message fields).perform watch.1 with
  | mk result after =>
    have hlogs := (logsOnly_log service level message fields).ends hrun
    cases log_ok hrun (hlogs.dated_iff.2 hdated)
    exact ⟨after, hlogs, by rw [perform_unseen, hrun]⟩

/-- What follows a record goes on where the record was written, if all ends well or the time of day
can be written in the end. -/
theorem perform_unseen_log_bind {service : String} {level : Log.Level} {message : String}
    {fields : Log.Fields} {next : Unit → Step Watch α} {before after : Watch}
    {result : Except Failure α}
    (h : (unseen (Act.log service level message fields) >>= next).perform before = (result, after))
    (hwell : result.isOk = true ∨ after.1.Dated) :
    ∃ between, LogsOnly before.1 between ∧
      (next ()).perform (between, before.2) = (result, after) := by
  have hrecord := perform_unseen (Act.log service level message fields) before
  -- a record fails only if the time of day cannot be written, and then nothing ended well
  cases hrun : (Act.log service level message fields).perform before.1 with
  | mk outcome between =>
    rw [hrun] at hrecord
    cases outcome with
    | ok _ =>
      rw [Step.perform_bind_ok hrecord] at h
      exact ⟨between, (logsOnly_log service level message fields).ends hrun, h⟩
    | error failure =>
      rw [Step.perform_bind_error hrecord] at h
      cases h
      rcases hwell with hok | hdated
      · cases hok
      · cases log_ok hrun hdated

theorem erases_unseen (step : Act α) : Erases Prod.fst (unseen step) step := fun _ => rfl

/-- What is written down before a step does not matter to it. -/
theorem erases_note_bind (deed : Deed) (step : Act α) :
    Erases Prod.fst (do note deed; unseen step) step := by
  intro watch
  rw [perform_note_bind, perform_unseen]

variable (outside : Outside)

theorem perform_read (watch : Watch) :
    (outside.watched.inner Act.machine).perform watch = (.ok watch.1.desk.machine, watch) := rfl

theorem perform_query (cmd : List String) (cwd : Option String) (watch : Watch) :
    (outside.watched.query cmd cwd).perform watch =
      (((outside.query cmd cwd).perform watch.1).1, ((outside.query cmd cwd).perform watch.1).2,
        watch.2 ++ [.query cmd cwd]) := rfl

theorem perform_confirm (question : String) (watch : Watch) :
    (outside.watched.confirm question).perform watch =
      (((outside.host.confirm question).perform watch.1).1,
        ((outside.host.confirm question).perform watch.1).2,
        watch.2 ++
          [.ask question ((outside.host.confirm question).perform watch.1).1.toOption]) := by
  unfold Outside.watched
  dsimp only
  rw [Step.perform_bind_ok (Step.perform_attempt _ _), perform_note_bind, Step.perform_ofExcept,
    perform_unseen]

theorem perform_runVisible (command label : String) (watch : Watch) :
    (outside.watched.runVisible command label).perform watch =
      (((outside.host.runVisible command label).perform watch.1).1,
        ((outside.host.runVisible command label).perform watch.1).2,
        watch.2 ++ [.run command label]) := rfl

theorem perform_search (settings : Config.JuliaSettings) (watch : Watch) :
    (outside.watched.search settings).perform watch =
      (((Julia.find settings).perform watch.1).1, ((Julia.find settings).perform watch.1).2,
        watch.2 ++ [.search]) := rfl

theorem erases_confirm (question : String) :
    Erases Prod.fst (outside.watched.confirm question) (outside.plain.confirm question) := by
  intro watch
  rw [perform_confirm]
  rfl

/-- Watching the offer to install packages does not change it. -/
theorem erases_offer (julia project : String) :
    Erases Prod.fst (outside.watched.offer julia project) (outside.plain.offer julia project) := by
  refine .bind (erases_note_bind _ _) fun output => ?_
  dsimp only
  refine .ite (erases_unseen _) (.bind (erases_unseen _) fun _ => ?_)
  refine .bind (erases_confirm outside _) fun answer => ?_
  exact .ite (erases_note_bind _ _) (erases_unseen _)

theorem erases_environment (settings : Config.JuliaSettings) (cwd : Option String)
    (julia : String) :
    Erases Prod.fst (outside.watched.environment settings cwd julia)
      (outside.plain.environment settings cwd julia) := by
  refine .ite (.pure _) (.bind (erases_note_bind _ _) fun output => ?_)
  exact .bind (erases_unseen _) fun _ => .pure _

theorem erases_interpret (settings : Config.JuliaSettings) (cwd : Option String)
    (layout : ServerLayout) (found : Option String) :
    Erases Prod.fst (outside.watched.interpret settings cwd layout found)
      (outside.plain.interpret settings cwd layout found) := by
  cases found with
  | none => exact .throw _
  | some julia =>
    refine .bind (erases_offer outside julia _) fun _ => ?_
    refine .bind (erases_environment outside settings cwd julia) fun environment => ?_
    refine .bind (erases_unseen _) fun machine => ?_
    exact .bind (erases_unseen _) fun _ => .pure _

/-- Watching a plan does not change it. -/
theorem erases_plan (settings : Config.JuliaSettings) (cwd : Option String)
    (storage extension : String) :
    Erases Prod.fst (outside.watched.plan settings cwd storage extension)
      (outside.plain.plan settings cwd storage extension) := by
  refine .bind (erases_unseen _) fun machine => ?_
  cases existingBinary machine ⟨extension, storage⟩ with
  | some binary => exact .bind (erases_unseen _) fun _ => .pure _
  | none =>
    refine .bind (erases_note_bind _ _) fun found => ?_
    exact erases_interpret outside settings cwd ⟨extension, storage⟩ found

end Launch

/-! ### The interpreter -/

namespace Julia

/-- Where the interpreter is: at the configured path if something is there, otherwise where the
search path has it. -/
def located (machine : Machine) (settings : Config.JuliaSettings) :
    Except Failure (Option String) := do
  let configured ← configuredPath machine settings
  if configured ≠ "" ∧ machine.holds configured then return some configured
  else return machine.which ((machine.envVar? "PATH").getD "") (binName false "julia")

/-- A record that is written under a condition. -/
theorem perform_log_if {service : String} {level : Log.Level} {message : String}
    {fields : Log.Fields} {p : Prop} [Decidable p] {next : Unit → Act α} {before after : World}
    {result : Except Failure α}
    (h : (if p then Act.log service level message fields >>= next else next ()).perform before =
      (result, after)) (hwell : result.isOk = true ∨ after.Dated) :
    ∃ between, LogsOnly before between ∧ (next ()).perform between = (result, after) := by
  split_ifs at h
  · exact perform_log_bind h hwell
  · exact ⟨before, .refl before, h⟩

/-- Looking for the interpreter only logs, and finds it where it is. -/
theorem find_located {settings : Config.JuliaSettings} {world after : World}
    {result : Except Failure (Option String)}
    (h : (find settings).perform world = (result, after))
    (hwell : result.isOk = true ∨ after.Dated) :
    result = located world.desk.machine settings ∧ LogsOnly world after := by
  unfold find at h
  rw [Step.perform_bind_ok (perform_machine world)] at h
  unfold located
  cases hconfigured : configuredPath world.desk.machine settings with
  | error failure =>
    rw [hconfigured] at h
    cases h
    exact ⟨rfl, .refl world⟩
  | ok configured =>
    rw [hconfigured, Step.perform_bind_ok (Step.perform_ofExcept _ _)] at h
    change _ = (if configured ≠ "" ∧ world.desk.machine.holds configured = true then _ else _) ∧ _
    dsimp only at h
    -- a configured interpreter that is there is taken; else one is looked for, after two records at
    -- most
    by_cases hthere : configured ≠ "" ∧ world.desk.machine.holds configured = true
    · rw [if_pos hthere] at h ⊢
      cases h
      exact ⟨rfl, .refl world⟩
    · rw [if_neg hthere] at h ⊢
      obtain ⟨warned, hwarned, h⟩ := perform_log_if h hwell
      obtain ⟨missed, hmissed, h⟩ := perform_log_if h hwell
      cases h
      exact ⟨rfl, hwarned.trans hmissed⟩

end Julia

end JuliaSession
