import JuliaSession.Proofs.Launch.Offering

/-!
# The plan of a launch

A plan has three ways: the compiled server, no server at all, or an interpreter whose packages were
checked and whose environment was found.

* `Launch.Planned`: each of the three ways, with everything that was done outside on it.
* `Julia.Placed`: the configured path of the interpreter can be written out. Looking for it needs
  this and nothing else (`Julia.located_of_placed`, `Julia.located_of_not_placed`).
* `Launch.plan_ways_iff`: a plan goes one of the three ways exactly if the compiled server exists or
  the configured path of the interpreter can be written out. Otherwise it fails without a home
  directory. A plan that is made is the compiled server exactly if that exists.
-/

namespace JuliaSession

/-! ### The configured path -/

namespace Directories

variable {machine : Machine}

/-- The environment does not give a home directory that itself starts with a tilde. -/
def HomeGiven (machine : Machine) : Prop :=
  ¬['~'] <+: ((machine.envVar? "HOME").getD "").toList

instance (machine : Machine) : Decidable (HomeGiven machine) := by
  unfold HomeGiven
  infer_instance

/-- What is wrong where there is no home directory. -/
def homeless : Failure := .foreign "RuntimeError" "Could not determine home directory."

/-- A tilde at the start stays when slashes at the end go. -/
theorem tilde_isPrefix_iff (cs : List Char) :
    ['~'] <+: Text.dropRightWhile (· = '/') cs ↔ ['~'] <+: cs := by
  unfold Text.dropRightWhile
  constructor
  · intro h
    refine h.trans ?_
    rw [← List.reverse_suffix, List.reverse_reverse]
    exact List.dropWhile_suffix _
  · rintro ⟨rest, rfl⟩
    rw [List.singleton_append, List.reverse_cons, List.dropWhile_append]
    split_ifs with hempty
    · exact ⟨[], rfl⟩
    · exact ⟨(List.dropWhile (· = '/') rest.reverse).reverse, by simp⟩

theorem startsWith_tilde_iff (machine : Machine) :
    Text.startsWith (homeStart machine).toList ['~'] = true ↔ ¬HomeGiven machine := by
  have hstart : ∀ cs, Text.startsWith cs ['~'] = true ↔ ['~'] <+: cs := by
    intro cs
    cases cs with
    | nil => decide
    | cons c cs =>
      by_cases hc : '~' = c <;> simp [Text.startsWith, Text.afterStart?, hc]
  unfold HomeGiven homeStart
  rw [hstart, not_not]
  cases machine.envVar? "HOME" with
  | none => decide
  | some home => rw [String.toList_ofList, tilde_isPrefix_iff, Option.getD_some]

/-- There is a home directory exactly if none that starts with a tilde is given. -/
theorem home_of_homeGiven (h : HomeGiven machine) : ∃ path, home machine = .ok path := by
  unfold home
  have hstart : ¬Text.startsWith (if homeStart machine = "" then "/" else homeStart machine).toList
      ['~'] = true := by
    split_ifs
    · decide
    · rwa [startsWith_tilde_iff, not_not]
  dsimp only
  rw [if_neg hstart]
  exact ⟨_, rfl⟩

theorem home_of_not_homeGiven (h : ¬HomeGiven machine) : home machine = .error homeless := by
  have hstart := (startsWith_tilde_iff machine).2 h
  have hne : homeStart machine ≠ "" := by
    intro hempty
    rw [hempty] at hstart
    exact absurd hstart (by decide)
  unfold home
  dsimp only
  rw [if_neg hne, if_pos hstart]
  rfl

end Directories

namespace Julia

variable {machine : Machine} {settings : Config.JuliaSettings}

/-- The configured path does not start with a tilde, or the tilde stands for a home directory. -/
def Placed (machine : Machine) (settings : Config.JuliaSettings) : Prop :=
  ['~'] <+: settings.executablePath.toList → Directories.HomeGiven machine

instance (machine : Machine) (settings : Config.JuliaSettings) :
    Decidable (Placed machine settings) := by
  unfold Placed
  infer_instance

/-- A path that can be written out makes the interpreter found or not found. -/
theorem located_of_placed (h : Placed machine settings) :
    ∃ found, located machine settings = .ok found := by
  have hpath : ∃ path, configuredPath machine settings = .ok path := by
    unfold configuredPath
    split
    next rest hpath =>
      obtain ⟨home, hhome⟩ := Directories.home_of_homeGiven (h (hpath ▸ ⟨rest, rfl⟩))
      rw [hhome]
      exact ⟨_, rfl⟩
    next => exact ⟨_, rfl⟩
  obtain ⟨path, hpath⟩ := hpath
  unfold located
  rw [hpath]
  by_cases hthere : path ≠ "" ∧ machine.holds path = true
  · exact ⟨_, if_pos hthere⟩
  · exact ⟨_, if_neg hthere⟩

/-- A tilde that stands for no home directory is a failure. -/
theorem configuredPath_of_not_placed (h : ¬Placed machine settings) :
    configuredPath machine settings = .error Directories.homeless := by
  obtain ⟨⟨rest, hpath⟩, hhome⟩ := Classical.not_imp.1 h
  unfold configuredPath
  rw [← hpath]
  change (Directories.home machine >>= _) = _
  rw [Directories.home_of_not_homeGiven hhome]
  rfl

theorem located_of_not_placed (h : ¬Placed machine settings) :
    located machine settings = .error Directories.homeless := by
  unfold located
  rw [configuredPath_of_not_placed h]
  rfl

theorem perform_find_of_not_placed {world : World} (h : ¬Placed world.desk.machine settings) :
    (find settings).perform world = (.error Directories.homeless, world) := by
  unfold find
  rw [Step.perform_bind_ok (perform_machine world), configuredPath_of_not_placed h]
  exact Step.perform_bind_error (Step.perform_ofExcept _ _)

end Julia

/-! ### The ways of a plan -/

namespace Launch

open Step (Erases)

variable {outside : Outside} {settings : Config.JuliaSettings} {cwd : Option String}
  {storage extension : String} {world : World}

/-- A plan went one of three ways. The commands it ran, the questions it asked and the search for an
interpreter stand beside the world in the order in which they were done. -/
inductive Planned (outside : Outside) (settings : Config.JuliaSettings) (cwd : Option String)
    (layout : ServerLayout) (world : World) : Except Failure LaunchSpec → Watch → Prop where
  /-- The compiled server exists, and is taken without arguments. Nothing was done outside. -/
  | compiled {after : World}
    (hbinary : world.desk.machine.holds layout.precompiledBinary = true)
    (hlogs : LogsOnly world after) :
    Planned outside settings cwd layout world
      (.ok { command := layout.precompiledBinary, args := [], env := [] }) (after, [])
  /-- There is neither a compiled server nor an interpreter. An interpreter was looked for, and
  nothing else was done. -/
  | uninterpreted {after : World}
    (hbinary : world.desk.machine.holds layout.precompiledBinary = false)
    (hfound : Julia.located world.desk.machine settings = .ok none)
    (hlogs : LogsOnly world after) :
    Planned outside settings cwd layout world (.error (.configuration noInterpreter))
      (after, [.search])
  /-- The check of the packages failed, and with it the plan. -/
  | unchecked {julia : String} {searched : World} {failure : Failure} {checked : Watch}
    (hbinary : world.desk.machine.holds layout.precompiledBinary = false)
    (hfound : Julia.located world.desk.machine settings = .ok (some julia))
    (hlogs : LogsOnly world searched)
    (hcheck : (outside.watched.offer julia layout.serverProject).perform (searched, [.search]) =
      (.error failure, checked)) :
    Planned outside settings cwd layout world (.error failure) checked
  /-- The packages were checked. The environment was not found, and the plan failed with that. -/
  | unresolved {julia : String} {searched : World} {checked resolved : Watch} {failure : Failure}
    (hbinary : world.desk.machine.holds layout.precompiledBinary = false)
    (hfound : Julia.located world.desk.machine settings = .ok (some julia))
    (hlogs : LogsOnly world searched)
    (hcheck : (outside.watched.offer julia layout.serverProject).perform (searched, [.search]) =
      (.ok (), checked))
    (hresolve : (outside.watched.environment settings cwd julia).perform checked =
      (.error failure, resolved)) :
    Planned outside settings cwd layout world (.error failure) resolved
  /-- The packages were checked and the environment was found. The interpreter is taken with its
  nine arguments. -/
  | interpreted {julia environment : String} {searched after : World} {checked resolved : Watch}
    (hbinary : world.desk.machine.holds layout.precompiledBinary = false)
    (hfound : Julia.located world.desk.machine settings = .ok (some julia))
    (hlogs : LogsOnly world searched)
    (hcheck : (outside.watched.offer julia layout.serverProject).perform (searched, [.search]) =
      (.ok (), checked))
    (hresolve : (outside.watched.environment settings cwd julia).perform checked =
      (.ok environment, resolved))
    (hafter : LogsOnly resolved.1 after) :
    Planned outside settings cwd layout world
      (.ok {
        command := julia
        args := ["--startup-file=no", "--history-file=no", "--depwarn=no",
          "--project=" ++ layout.serverProject, layout.entryScript, environment, "--debug=no",
          (resolved.1.desk.machine.envVar? "JULIA_DEPOT_PATH").getD "", layout.storage]
        env := [] })
      (after, resolved.2)

/-- A plan of the compiled server has no arguments, a plan with an interpreter has nine. -/
theorem Planned.precompiled {layout : ServerLayout} {spec : LaunchSpec} {after : Watch}
    (h : Planned outside settings cwd layout world (.ok spec) after) :
    spec.precompiled = world.desk.machine.holds layout.precompiledBinary := by
  generalize hresult : Except.ok spec = result at h
  cases h with
  | compiled hbinary =>
    obtain rfl := Except.ok.inj hresult
    rw [hbinary]
    rfl
  | uninterpreted => cases hresult
  | unchecked => cases hresult
  | unresolved => cases hresult
  | interpreted hbinary =>
    obtain rfl := Except.ok.inj hresult
    rw [hbinary]
    rfl

/-- A plan takes the compiled server if it exists. -/
theorem plan_of_holds {result : Except Failure LaunchSpec} {after : Watch}
    (h : (outside.watched.plan settings cwd storage extension).perform (world, []) =
      (result, after))
    (hbinary : world.desk.machine.holds (ServerLayout.precompiledBinary ⟨extension, storage⟩) =
      true)
    (hwell : result.isOk = true ∨ after.1.Dated) :
    Planned outside settings cwd ⟨extension, storage⟩ world result after := by
  have hexisting : existingBinary world.desk.machine ⟨extension, storage⟩ =
      some (ServerLayout.precompiledBinary ⟨extension, storage⟩) := if_pos hbinary
  unfold Means.plan at h
  dsimp only at h
  rw [Step.perform_bind_ok (perform_read outside (world, []))] at h
  dsimp only at h
  rw [hexisting] at h
  obtain ⟨logged, hlogs, h⟩ := perform_unseen_log_bind h hwell
  obtain ⟨rfl, rfl⟩ := Prod.mk.inj h
  exact .compiled hbinary hlogs

/-- Without a compiled server a plan is the search for an interpreter, and what follows on it. -/
theorem perform_plan_of_not_holds
    (hbinary : world.desk.machine.holds (ServerLayout.precompiledBinary ⟨extension, storage⟩) =
      false) :
    (outside.watched.plan settings cwd storage extension).perform (world, []) =
      (outside.watched.search settings >>=
        outside.watched.interpret settings cwd ⟨extension, storage⟩).perform (world, []) := by
  have hexisting : existingBinary world.desk.machine ⟨extension, storage⟩ = none :=
    if_neg (ne_true_of_eq_false hbinary)
  unfold Means.plan
  dsimp only
  rw [Step.perform_bind_ok (perform_read outside (world, []))]
  dsimp only
  rw [hexisting]

/-- With an interpreter the packages are checked, and if that ends well the environment is found. -/
theorem planned_of_interpret {layout : ServerLayout} {julia : String} {searched : World}
    {result : Except Failure LaunchSpec} {after : Watch}
    (h : (outside.watched.interpret settings cwd layout (some julia)).perform
      (searched, [.search]) = (result, after))
    (hbinary : world.desk.machine.holds layout.precompiledBinary = false)
    (hfound : Julia.located world.desk.machine settings = .ok (some julia))
    (hlogs : LogsOnly world searched) (hwell : result.isOk = true ∨ after.1.Dated) :
    Planned outside settings cwd layout world result after := by
  unfold Means.interpret at h
  -- the check of the packages may fail, then the search for the environment may
  cases hcheck : (outside.watched.offer julia layout.serverProject).perform
      (searched, [.search]) with
  | mk outcome checked =>
    cases outcome with
    | error failure =>
      rw [Step.perform_bind_error hcheck] at h
      obtain ⟨rfl, rfl⟩ := Prod.mk.inj h
      exact .unchecked hbinary hfound hlogs hcheck
    | ok _ =>
      rw [Step.perform_bind_ok hcheck] at h
      cases hresolve : (outside.watched.environment settings cwd julia).perform checked with
      | mk outcome resolved =>
        cases outcome with
        | error failure =>
          rw [Step.perform_bind_error hresolve] at h
          obtain ⟨rfl, rfl⟩ := Prod.mk.inj h
          exact .unresolved hbinary hfound hlogs hcheck hresolve
        | ok environment =>
          rw [Step.perform_bind_ok hresolve,
            Step.perform_bind_ok (perform_read outside resolved)] at h
          obtain ⟨logged, hlogged, h⟩ := perform_unseen_log_bind h hwell
          obtain ⟨rfl, rfl⟩ := Prod.mk.inj h
          exact .interpreted hbinary hfound hlogs hcheck hresolve hlogged

/-- A plan goes one of its ways if the compiled server exists or the configured path can be written
out. -/
theorem planned_of_placed {result : Except Failure LaunchSpec} {after : Watch}
    (h : (outside.watched.plan settings cwd storage extension).perform (world, []) =
      (result, after))
    (hway : world.desk.machine.holds (ServerLayout.precompiledBinary ⟨extension, storage⟩) = true ∨
      Julia.Placed world.desk.machine settings)
    (hwell : result.isOk = true ∨ after.1.Dated) :
    Planned outside settings cwd ⟨extension, storage⟩ world result after := by
  cases hbinary : world.desk.machine.holds
      (ServerLayout.precompiledBinary ⟨extension, storage⟩) with
  | true => exact plan_of_holds h hbinary hwell
  | false =>
    rw [hbinary] at hway
    obtain ⟨found, hfound⟩ := Julia.located_of_placed (hway.resolve_left Bool.false_ne_true)
    rw [perform_plan_of_not_holds hbinary] at h
    have hsearch := perform_search outside settings (world, [])
    cases hfind : (Julia.find settings).perform world with
    | mk outcome searched =>
      rw [hfind, List.nil_append] at hsearch
      cases outcome with
      | error failure =>
        rw [Step.perform_bind_error hsearch] at h
        obtain ⟨rfl, rfl⟩ := Prod.mk.inj h
        -- a search that fails with a time of day has no path to look at
        have hlocated := (Julia.find_located hfind hwell).1
        rw [hfound] at hlocated
        cases hlocated
      | ok found' =>
        rw [Step.perform_bind_ok hsearch] at h
        obtain ⟨hlocated, hlogs⟩ := Julia.find_located hfind (.inl rfl)
        cases found' with
        | none =>
          obtain ⟨rfl, rfl⟩ := Prod.mk.inj h
          exact .uninterpreted hbinary hlocated.symm hlogs
        | some julia => exact planned_of_interpret h hbinary hlocated.symm hlogs hwell

/-- Without a compiled server, and without a home directory for a tilde, a plan fails while it looks
for an interpreter. -/
theorem plan_of_not_placed
    (hbinary : world.desk.machine.holds (ServerLayout.precompiledBinary ⟨extension, storage⟩) =
      false)
    (hplaced : ¬Julia.Placed world.desk.machine settings) :
    (outside.watched.plan settings cwd storage extension).perform (world, []) =
      (.error Directories.homeless, world, [.search]) := by
  have hsearch := perform_search outside settings (world, [])
  rw [Julia.perform_find_of_not_placed hplaced] at hsearch
  rw [perform_plan_of_not_holds hbinary]
  exact Step.perform_bind_error hsearch

/-- A plan that is made went one of its ways. -/
theorem planned_of_ok {spec : LaunchSpec} {after : Watch}
    (h : (outside.watched.plan settings cwd storage extension).perform (world, []) =
      (.ok spec, after)) :
    Planned outside settings cwd ⟨extension, storage⟩ world (.ok spec) after := by
  refine planned_of_placed h ?_ (.inl rfl)
  cases hbinary : world.desk.machine.holds
      (ServerLayout.precompiledBinary ⟨extension, storage⟩) with
  | true => exact .inl rfl
  | false =>
    refine .inr (Classical.byContradiction fun hplaced => ?_)
    rw [plan_of_not_placed hbinary hplaced] at h
    cases h

/-- None of the three ways looks for a path that cannot be written out. -/
theorem Planned.placed {layout : ServerLayout} {result : Except Failure LaunchSpec} {after : Watch}
    (h : Planned outside settings cwd layout world result after) :
    world.desk.machine.holds layout.precompiledBinary = true ∨
      Julia.Placed world.desk.machine settings := by
  by_contra hneither
  obtain ⟨hbinary, hplaced⟩ := not_or.1 hneither
  have herror := Julia.located_of_not_placed hplaced
  cases h with
  | compiled hholds => exact hbinary hholds
  | uninterpreted _ hfound => cases hfound.symm.trans herror
  | unchecked _ hfound => cases hfound.symm.trans herror
  | unresolved _ hfound => cases hfound.symm.trans herror
  | interpreted _ hfound => cases hfound.symm.trans herror

/-- A plan goes one of the three ways exactly if the compiled server exists or the configured path
of the interpreter can be written out. Otherwise it fails for want of a home directory, after it
began to look for an interpreter and before anything else was done. A plan that is made is the
compiled server exactly if that exists. -/
theorem plan_ways_iff (settings : Config.JuliaSettings) (cwd : Option String)
    (storage extension : String) :
    (∀ host, Erases Prod.fst ((Outside.actual host).watched.plan settings cwd storage extension)
      (Planner.plan ⟨settings, host, cwd⟩ storage extension)) ∧
    ∀ (outside : Outside) (world : World),
      let machine := world.desk.machine
      let layout : ServerLayout := ⟨extension, storage⟩
      let planned := (outside.watched.plan settings cwd storage extension).perform (world, [])
      (planned.2.1.Dated → (Planned outside settings cwd layout world planned.1 planned.2 ↔
        machine.holds layout.precompiledBinary = true ∨ Julia.Placed machine settings)) ∧
      (¬(machine.holds layout.precompiledBinary = true ∨ Julia.Placed machine settings) →
        planned = (.error (.foreign "RuntimeError" "Could not determine home directory."),
          world, [.search])) ∧
      ∀ spec, planned.1 = .ok spec →
        (spec.precompiled = true ↔ machine.holds layout.precompiledBinary = true) := by
  refine ⟨fun host => ?_, fun outside world => ?_⟩
  · have hactual := congrFun (congrFun (plan_actual ⟨settings, host, cwd⟩) storage) extension
    exact hactual ▸ erases_plan (Outside.actual host) settings cwd storage extension
  · dsimp only
    generalize hrun : (outside.watched.plan settings cwd storage extension).perform (world, []) =
      planned
    obtain ⟨result, after⟩ := planned
    -- each of the ways needs one of the two, and each of the two opens a way
    refine ⟨fun hdated => ⟨Planned.placed, fun hway => ?_⟩, fun hneither => ?_,
      fun spec hspec => ?_⟩
    · exact planned_of_placed hrun hway (.inr hdated)
    · obtain ⟨hbinary, hplaced⟩ := not_or.1 hneither
      rw [← hrun]
      exact plan_of_not_placed (eq_false_of_ne_true hbinary) hplaced
    · obtain rfl : result = .ok spec := hspec
      rw [(planned_of_ok hrun).precompiled]

/-! ### Plans at hand -/

/-- A plan for an interpreter in the home directory. -/
def planAt (world : World) : Except Failure LaunchSpec × Watch :=
  ((Outside.replying (.ok "/work\n") true).watched.plan { executablePath := "~/julia" } none
    "/st" "/ext").perform (world, [])

/-- The interpreter in the home directory is taken with nine arguments, and the compiled server with
none. Where the home directory starts with a tilde, a plan goes none of the three ways. -/
theorem plan_ways_at_hand :
    let outside := Outside.replying (.ok "/work\n") true
    let settings : Config.JuliaSettings := { executablePath := "~/julia" }
    let served := stocked "~" ["/st/JuliaLS/bin/JuliaLS"]
    let installed := stocked "/home" ["/home/julia"]
    let homeless := stocked "~" ["/home/julia"]
    Planned outside settings none ⟨"/ext", "/st"⟩ served (planAt served).1 (planAt served).2 ∧
      Planned outside settings none ⟨"/ext", "/st"⟩ installed (planAt installed).1
        (planAt installed).2 ∧
      ((planAt served).1.toOption.map LaunchSpec.argv = some ["/st/JuliaLS/bin/JuliaLS"] ∧
        (planAt installed).1.toOption.map LaunchSpec.argv =
          some ["/home/julia", "--startup-file=no", "--history-file=no", "--depwarn=no",
            "--project=/ext/server/JuliaLS", "/ext/server/main.jl", "/work", "--debug=no", "",
            "/st"]) ∧
      ¬Planned outside settings none ⟨"/ext", "/st"⟩ homeless (planAt homeless).1
        (planAt homeless).2 ∧
      (planAt homeless).1 =
        .error (.foreign "RuntimeError" "Could not determine home directory.") := by
  intro outside settings served installed homeless
  have hserved : (planAt served).2.1.Dated ∧
      served.desk.machine.holds (ServerLayout.precompiledBinary ⟨"/ext", "/st"⟩) = true := by
    decide +kernel
  have hinstalled : (planAt installed).2.1.Dated ∧
      Julia.Placed installed.desk.machine settings := by decide +kernel
  have hhomeless : ¬(homeless.desk.machine.holds (ServerLayout.precompiledBinary ⟨"/ext", "/st"⟩) =
      true ∨ Julia.Placed homeless.desk.machine settings) := by decide +kernel
  obtain ⟨hservedIff, -, -⟩ := (plan_ways_iff settings none "/st" "/ext").2 outside served
  obtain ⟨hinstalledIff, -, -⟩ := (plan_ways_iff settings none "/st" "/ext").2 outside installed
  obtain ⟨hhomelessIff, hfails, -⟩ := (plan_ways_iff settings none "/st" "/ext").2 outside homeless
  have hfailed : planAt homeless = _ := hfails hhomeless
  have hdated : (planAt homeless).2.1.Dated := by decide +kernel
  refine ⟨(hservedIff hserved.1).2 (.inl hserved.2),
    (hinstalledIff hinstalled.1).2 (.inr hinstalled.2), by decide +kernel,
    fun hplanned => hhomeless ((hhomelessIff hdated).1 hplanned), ?_⟩
  rw [hfailed]

end Launch

end JuliaSession
