import JuliaSession.Proofs.Config.Layers
import JuliaSession.Proofs.Histories

/-!
# The settings that are kept

Settings that were loaded are kept until they are reset, together with the files they came from. A
manager of settings starts without any, and a new one takes the place of the one before. Between two
uses anything outside of the manager may change: files, the environment, the directory, the time.
What another manager does meanwhile is such a change as well, so what is said of the manager in use
is said of every one while it is in use.

* `reading`: what a load works out, whether or not settings are kept. `load_eq` is the load in terms
  of it.
* `loaded_reading`: working out settings keeps none.
* `perform_load_kept`, `perform_load_reading`, `perform_load_failing`: how a load goes.
* `Use`: what can happen to the settings that are kept; `worldAfter`: the world after some uses.
* `keeps_first_load`: what is kept after any uses.
-/

namespace JuliaSession.Config

/-! ### Working out settings -/

/-- The settings of a directory and the files that they come from. -/
def reading (directory : String) : Act (Settings × List String) := do
  let (data, sources) ← merged directory
  match Settings.read (.obj data) with
  | .error violations => throw (.settings (sources.getLastD "<defaults>") violations)
  | .ok settings => return (settings, sources)

/-- A load keeps what it has worked out, unless settings are kept already. -/
theorem load_eq (directory : String) :
    load directory = do
      match (← get).loaded.cache with
      | some settings => return settings
      | none => do
        let (settings, sources) ← reading directory
        modify fun world => { world with loaded := { cache := some settings, sources } }
        return settings := by
  unfold load reading
  refine bind_congr fun world => ?_
  cases world.loaded.cache with
  | some settings => rfl
  | none =>
    dsimp only
    rw [bind_assoc]
    refine bind_congr fun (data, sources) => ?_
    dsimp only
    cases Settings.read (.obj data) <;> rfl

/-- From one world to the other the same settings are kept. -/
def SameKept (before after : World) : Prop := after.loaded = before.loaded

instance : Std.Refl SameKept := ⟨fun _ => rfl⟩

instance : Trans SameKept SameKept SameKept := ⟨fun h h' => Eq.trans h' h⟩

theorem sameKept_log (service : String) (level : Log.Level) (message : String)
    (fields : Log.Fields) : Step.Leads SameKept (Act.log service level message fields) :=
  (logsOnly_log service level message fields).mono LogsOnly.loaded

theorem sameKept_applyFile (kind path : String) (below : Json.Members × List String) :
    Step.Leads SameKept (applyFile kind path below) := by
  unfold applyFile
  refine .bind ((logsOnly_loadFile path).mono LogsOnly.loaded) fun data => ?_
  split_ifs
  · exact .pure _
  · exact .bind (sameKept_log _ _ _ _) fun _ => .pure _

theorem sameKept_applyFiles (kind : String) (paths : List String)
    (below : Json.Members × List String) : Step.Leads SameKept (applyFiles kind paths below) := by
  induction paths generalizing below with
  | nil => exact .pure _
  | cons path rest ih => exact .bind (sameKept_applyFile kind path below) ih

theorem sameKept_applyVariable (below : Json.Members) :
    Step.Leads SameKept (applyVariable below) := by
  unfold applyVariable
  refine .bind (fun _ => rfl) fun machine => ?_
  split
  · exact .pure _
  · exact .pure _
  · split
    · exact .bind (sameKept_log _ _ _ _) fun _ => .pure _
    · exact .pure _
    · exact .bind (sameKept_log _ _ _ _) fun _ => .pure _
    · exact .throw _
    · exact .throw _

theorem sameKept_merged (directory : String) : Step.Leads SameKept (merged directory) := by
  unfold merged
  refine .bind (fun _ => rfl) fun machine => .bind (sameKept_applyFiles _ _ _) fun layers =>
    .bind (leads_ofOs _) fun files => .bind (sameKept_applyFiles _ _ _) fun applied => ?_
  exact .bind (sameKept_applyVariable _) fun data => .pure _

/-- Working out settings keeps none, whether or not it ends well. -/
theorem loaded_reading (directory : String) : Step.Leads SameKept (reading directory) := by
  unfold reading
  refine .bind (sameKept_merged directory) fun layered => ?_
  dsimp only
  split
  · exact .throw _
  · exact .pure _

/-! ### Loads -/

section Load

variable {world between : World} {directory : String} {settings : Settings} {sources : List String}

/-- While settings are kept, a load gives them, whatever directory it is for. -/
theorem perform_load_kept (h : world.loaded.cache = some settings) (directory : String) :
    (load directory).perform world = (.ok settings, world) := by
  rw [load_eq, Step.perform_get_bind, h]
  rfl

/-- While none are kept, a load keeps what it works out. -/
theorem perform_load_reading (h : world.loaded.cache = none)
    (hreading : (reading directory).perform world = (.ok (settings, sources), between)) :
    (load directory).perform world =
      (.ok settings, { between with loaded := { cache := some settings, sources } }) := by
  rw [load_eq, Step.perform_get_bind, h]
  dsimp only
  rw [Step.perform_bind_ok hreading]
  rfl

/-- While none are kept, a load that cannot work them out fails. -/
theorem perform_load_failing {failure : Failure} (h : world.loaded.cache = none)
    (hreading : (reading directory).perform world = (.error failure, between)) :
    (load directory).perform world = (.error failure, between) := by
  rw [load_eq, Step.perform_get_bind, h]
  dsimp only
  exact Step.perform_bind_error hreading

/-- A load that fails changes nothing about what is kept. -/
theorem loaded_of_load_error {failure : Failure}
    (h : (load directory).perform world = (.error failure, between)) :
    between.loaded = world.loaded := by
  -- kept settings cannot fail, and what is read is kept only after it was found to be valid
  cases hcache : world.loaded.cache with
  | some settings =>
    rw [perform_load_kept hcache] at h
    cases h
  | none =>
    cases hreading : (reading directory).perform world with
    | mk result after =>
      cases result with
      | ok found =>
        rw [perform_load_reading hcache hreading] at h
        cases h
      | error failure =>
        rw [perform_load_failing hcache hreading] at h
        cases h
        exact (loaded_reading directory).ends hreading

end Load

/-! ### Uses -/

/-- What can happen to the settings that are kept. -/
inductive Use where
  /-- The settings of a directory are loaded. -/
  | load (directory : String)
  /-- The settings are asked for. -/
  | get
  /-- The settings are forgotten. -/
  | reset
  /-- A new manager takes the place of the one before. -/
  | install
  /-- Files, the environment or anything else on the machine is changed by others. -/
  | outside (desk : Desk)

namespace Use

/-- The directory whose settings are loaded unless some are kept: that of the load, or the working
directory where settings are asked for. -/
def directory? : Use → Option String
  | load directory => some directory
  | get => some "."
  | _ => none

/-- Does a manager begin without settings again? -/
def Clears (use : Use) : Prop := use = reset ∨ use = install

/-- The world after a use, also if it fails. -/
def after (world : World) : Use → World
  | load directory => ((Config.load directory).perform world).2
  | get => (current.perform world).2
  | reset => (Config.reset.perform world).2
  | install => { world with loaded := {} }
  | outside desk => { world with desk }

theorem after_of_directory? {use : Use} {directory : String} (h : use.directory? = some directory)
    (world : World) : use.after world = ((Config.load directory).perform world).2 := by
  cases use <;> cases h <;> rfl

theorem Clears.loaded {use : Use} (h : use.Clears) (world : World) :
    (use.after world).loaded = {} := by
  rcases h with rfl | rfl <;> rfl

end Use

/-- The world after some uses of a new manager. -/
def worldAfter (first : World) (uses : List Use) : World :=
  uses.foldl Use.after { first with loaded := {} }

@[simp]
theorem worldAfter_concat (first : World) (uses : List Use) (use : Use) :
    worldAfter first (uses ++ [use]) = use.after (worldAfter first uses) := by
  unfold worldAfter
  rw [List.foldl_append]
  rfl

/-- A load that comes after some uses of a new manager, or a use that asks for settings, ends
well. -/
def EndsWell (first : World) (earlier : List Use) (use : Use) : Prop :=
  ∃ directory, use.directory? = some directory ∧
    ((load directory).perform (worldAfter first earlier)).1.isOk = true

/-- Since the manager is new or was reset, some load has ended well. -/
def HasLoaded (first : World) (uses : List Use) : Prop :=
  Since (EndsWell first) (fun _ use => use.Clears) uses

/-- A load gives these settings, worked out together with these sources, and it is the first one to
end well since the manager is new or was reset. -/
def IsFirst (first : World) (settings : Settings) (sources : List String) (earlier : List Use)
    (use : Use) : Prop :=
  ¬ HasLoaded first earlier ∧ ∃ directory, use.directory? = some directory ∧
    ((load directory).perform (worldAfter first earlier)).1 = .ok settings ∧
      ((reading directory).perform (worldAfter first earlier)).1 = .ok (settings, sources)

/-- These settings and sources go back to one load, the first one to end well since the manager is
new or was reset. -/
def FromFirst (first : World) (uses : List Use) (settings : Settings) (sources : List String) :
    Prop :=
  Since (IsFirst first settings sources) (fun _ use => use.Clears) uses

/-- What a manager keeps after some uses: nothing while no load has ended well, and then what the
first one has worked out. -/
def KeepsFirst (first : World) (uses : List Use) : Prop :=
  let kept := (worldAfter first uses).loaded
  (¬ HasLoaded first uses ∧ kept = {}) ∨
    ∃ settings sources, FromFirst first uses settings sources ∧
      kept = { cache := some settings, sources }

section KeepsFirst

variable {first : World} {uses : List Use} {use : Use} {settings : Settings}
  {sources : List String}

theorem FromFirst.hasLoaded (h : FromFirst first uses settings sources) : HasLoaded first uses := by
  induction h with
  | now h =>
    obtain ⟨-, directory, hdirectory, hload, -⟩ := h
    exact .now ⟨directory, hdirectory, by rw [hload]; rfl⟩
  | still _ hkept ih => exact .still ih hkept

/-- A use that loads nothing leaves it open what has been loaded. -/
theorem not_endsWell (h : use.directory? = none) : ¬ EndsWell first uses use := by
  rintro ⟨directory, hdirectory, -⟩
  rw [h] at hdirectory
  cases hdirectory

/-- A manager that is new or reset keeps nothing. -/
theorem keepsFirst_of_clears (h : use.Clears) : KeepsFirst first (uses ++ [use]) := by
  refine .inl ⟨fun hloaded => ?_, by rw [worldAfter_concat, h.loaded]⟩
  rcases since_concat.1 hloaded with hwell | ⟨-, hkept⟩
  · refine not_endsWell ?_ hwell
    rcases h with rfl | rfl <;> rfl
  · exact hkept h

/-- What is kept stays so when a use neither ends well for the first time nor clears it. -/
theorem KeepsFirst.concat (h : KeepsFirst first uses) (hclears : ¬ use.Clears)
    (hsame : (use.after (worldAfter first uses)).loaded = (worldAfter first uses).loaded)
    (hwell : ¬ HasLoaded first uses → ¬ EndsWell first uses use) :
    KeepsFirst first (uses ++ [use]) := by
  unfold KeepsFirst
  rw [worldAfter_concat, hsame]
  rcases h with ⟨hnone, hkept⟩ | ⟨settings, sources, hfirst, hkept⟩
  · refine .inl ⟨fun hloaded => ?_, hkept⟩
    rcases since_concat.1 hloaded with hnow | ⟨hbefore, -⟩
    · exact hwell hnone hnow
    · exact hnone hbefore
  · exact .inr ⟨settings, sources, .still hfirst hclears, hkept⟩

/-- A load keeps what is kept, or keeps what it has worked out. -/
theorem KeepsFirst.load (h : KeepsFirst first uses) {directory : String}
    (hdirectory : use.directory? = some directory) : KeepsFirst first (uses ++ [use]) := by
  have hclears : ¬ use.Clears := by
    rintro (rfl | rfl) <;> cases hdirectory
  have hafter := Use.after_of_directory? hdirectory (worldAfter first uses)
  have honly {other : String} (hother : use.directory? = some other) : other = directory :=
    Option.some.inj (hother.symm.trans hdirectory)
  -- either nothing is kept, and this load may be the first to end well, or it returns what is kept
  rcases id h with ⟨hnone, hkept⟩ | ⟨settings, sources, hfirst, hkept⟩
  · have hcache : (worldAfter first uses).loaded.cache = none := by rw [hkept]
    cases hreading : (reading directory).perform (worldAfter first uses) with
    | mk result between =>
      cases result with
      | error failure =>
        have hload := perform_load_failing hcache hreading
        refine h.concat hclears ?_ fun _ => ?_
        · rw [hafter, hload]
          exact loaded_of_load_error hload
        · rintro ⟨other, hother, hwell⟩
          rw [honly hother, hload] at hwell
          cases hwell
      | ok found =>
        have hload := perform_load_reading hcache hreading
        refine .inr ⟨found.1, found.2, .now ⟨hnone, directory, hdirectory, ?_, ?_⟩, ?_⟩
        · rw [hload]
        · rw [hreading]
        · rw [worldAfter_concat, hafter, hload]
  · have hcache : (worldAfter first uses).loaded.cache = some settings := by rw [hkept]
    have hload := perform_load_kept hcache directory
    refine h.concat hclears ?_ fun hnone => absurd hfirst.hasLoaded hnone
    rw [hafter, hload]

/-- After any uses the manager keeps what the first load has worked out, or nothing. -/
theorem keepsFirst (first : World) (uses : List Use) : KeepsFirst first uses := by
  induction uses using List.reverseRecOn with
  | nil => exact .inl ⟨not_since_nil, rfl⟩
  | append_singleton uses use ih =>
    cases use with
    | load | get => exact ih.load rfl
    | reset => exact keepsFirst_of_clears (.inl rfl)
    | install => exact keepsFirst_of_clears (.inr rfl)
    | outside desk =>
      exact ih.concat (by rintro (h | h) <;> cases h) rfl fun _ => not_endsWell rfl

end KeepsFirst

/-- After any uses of a manager, whatever happens to the machine between them: while no load has
ended well since it is new or was reset, it keeps no settings and no sources, and otherwise it keeps
the settings and the sources that one load has worked out, the first to end well. A load that fails
changes neither, and while settings are kept a load gives them, whatever directory it is for. -/
theorem keeps_first_load (first : World) (uses : List Use) :
    let now := worldAfter first uses
    ((¬ HasLoaded first uses ∧ now.loaded = {}) ∨
      ∃ settings sources, FromFirst first uses settings sources ∧
        now.loaded = { cache := some settings, sources } ∧
          ∀ directory, (load directory).perform now = (.ok settings, now)) ∧
      ∀ directory failure after, (load directory).perform now = (.error failure, after) →
        after.loaded = now.loaded := by
  intro now
  refine ⟨?_, fun directory failure after hload => loaded_of_load_error hload⟩
  rcases keepsFirst first uses with hnone | ⟨settings, sources, hfirst, hkept⟩
  · exact .inl hnone
  · have hcache : now.loaded.cache = some settings := congrArg LoadedSettings.cache hkept
    exact .inr ⟨settings, sources, hfirst, hkept, perform_load_kept hcache⟩

end JuliaSession.Config
