import JuliaSession.Proofs.Config.Layers
import JuliaSession.Proofs.Config.Fields

/-!
# Which file is blamed

The settings are checked once, after all layers were merged. If they are not valid the load fails
and blames the file that was applied last, so the file at fault is blamed only if no other file was
applied after it.

* `AtFault`: the one file that is not valid by itself.
* `OnTop`: the file that was applied last, and `getLastD_contributing`, that it is the last source.
* `blamed_iff`: the file at fault is blamed exactly if it was applied last.
-/

namespace JuliaSession.Config

/-- Whether a value passes can be found out by checking it. -/
instance {α : Type} (check : Check α) (found : Json) : Decidable (Passes check found) :=
  match h : check found with
  | .ok value => isTrue ⟨value, h⟩
  | .error _ => isFalse fun ⟨_, hvalue⟩ => nomatch h.symm.trans hvalue

variable {lower upper : List Layer} {path : String}

/-- A file is the only one of some layers that contributes something and is not valid by itself. -/
structure AtFault (layers : List Layer) (path : String) : Prop where
  /-- What the file contributes is not valid. -/
  invalid : ∃ layer ∈ layers, layer.source = some path ∧ layer.members ≠ [] ∧
    ¬ Passes Settings.read (.obj layer.members)
  /-- Whatever else is contributed is. -/
  others : ∀ layer ∈ layers, layer.members ≠ [] → layer.source ≠ some path →
    Passes Settings.read (.obj layer.members)

/-- No layer contributes anything after a file that does. -/
def OnTop (layers : List Layer) (path : String) : Prop :=
  ∃ below top above, layers = below ++ top :: above ∧ top.source = some path ∧
    top.members ≠ [] ∧ ∀ layer ∈ above, layer.members = []

theorem contributing_eq_nil (h : ∀ layer ∈ upper, layer.members = []) :
    contributing upper = [] := by
  unfold contributing
  have hnone : (upper.filter fun layer => layer.members ≠ []) = [] :=
    List.filter_eq_nil_iff.2 fun layer hlayer => by simp [h layer hlayer]
  rw [hnone, List.filterMap_nil]

/-- The file that was applied last is the last source. -/
theorem getLastD_contributing (h : OnTop lower path) (default : String) :
    (contributing lower).getLastD default = path := by
  obtain ⟨below, top, above, rfl, hsource, hmembers, habove⟩ := h
  have htop : contributing [top] = [path] := by
    simp [contributing, hmembers, hsource]
  have hsplit : below ++ top :: above = (below ++ [top]) ++ above := by simp
  rw [hsplit, contributing_append, contributing_append, htop, contributing_eq_nil habove,
    List.append_nil, List.getLastD_concat]

/-- Of layers that are files if they contribute anything, a last one does. -/
theorem exists_onTop (hfiles : ∀ layer ∈ lower, layer.members ≠ [] → layer.source ≠ none)
    {layer : Layer} (hmem : layer ∈ lower) (hmembers : layer.members ≠ []) :
    ∃ path, OnTop lower path := by
  obtain ⟨below, top, above, rfl, htop, habove⟩ :
      ∃ below top above, lower = below ++ top :: above ∧ top.members ≠ [] ∧
        ∀ layer ∈ above, ¬ layer.members ≠ [] := exists_last_of_mem hmem hmembers
  obtain ⟨path, hsource⟩ := Option.ne_none_iff_exists'.1 (hfiles top (by simp) htop)
  exact ⟨path, below, top, above, rfl, hsource, htop,
    fun upper hupper => not_not.1 (habove upper hupper)⟩

/-- Without the environment variable only files contribute to a load. -/
theorem source_ne_none {world : World} {directory : String}
    (hvariable : world.desk.machine.envVar? contentVar = none) {layer : Layer}
    (hmem : layer ∈ layers world directory) (hmembers : layer.members ≠ []) :
    layer.source ≠ none := by
  rcases mem_layers.1 hmem with hglobal | hproject | rfl
  · obtain ⟨path, -, rfl⟩ := mem_globalLayers.1 hglobal
    rw [source_fileLayer]
    exact Option.some_ne_none _
  · obtain ⟨dir, depth, -, name, -, rfl⟩ := mem_projectLayers.1 hproject
    rw [source_fileLayer]
    exact Option.some_ne_none _
  · rw [members_variableLayer, variableMembers, hvariable] at hmembers
    exact absurd rfl hmembers

/-- Where the environment contributes nothing, and a single file is not valid by itself, a load that
finds the merged settings invalid blames the file that was applied last: the file at fault exactly
if that is the last one, and else a file that is valid by itself. -/
theorem blamed_iff (world : World) (directory : String) (hcache : world.loaded.cache = none)
    (hlog : world.desk.LogNamed) (hvariable : world.desk.machine.envVar? contentVar = none)
    {data : Json.Members} {sources : List String} {between : World}
    (hmerged : (merged directory).perform world = (.ok (data, sources), between))
    (hinvalid : ¬ Passes Settings.read (.obj data)) {path : String}
    (hfault : AtFault (layers world directory) path) :
    ∃ blamed violations,
      (load directory).perform world = (.error (.settings blamed violations), between) ∧
      (blamed = path ↔ OnTop (layers world directory) path) ∧
      (blamed ≠ path → ∃ layer ∈ layers world directory, layer.source = some blamed ∧
        layer.members ≠ [] ∧ Passes Settings.read (.obj layer.members)) := by
  obtain ⟨culprit, hculprit, -, hmembers, -⟩ := hfault.invalid
  obtain ⟨last, hlast⟩ :=
    exists_onTop (fun layer hmem => source_ne_none hvariable hmem) hculprit hmembers
  have hsources : sources.getLastD "<defaults>" = last := by
    rw [(merged_ok hlog hmerged).2]
    exact getLastD_contributing hlast _
  cases hread : Settings.read (.obj data) with
  | ok settings => exact absurd ⟨settings, hread⟩ hinvalid
  | error violations =>
    refine ⟨last, violations, ?_, ⟨?_, fun htop => ?_⟩, fun hne => ?_⟩
    · rw [perform_load hcache hmerged, hread, hsources]
    · rintro rfl
      exact hlast
    · -- there is only one last file
      rw [← getLastD_contributing hlast "", getLastD_contributing htop]
    · obtain ⟨below, top, above, hsplit, hsource, htop, -⟩ := hlast
      have hmem : top ∈ layers world directory := by simp [hsplit]
      refine ⟨top, hmem, hsource, htop, hfault.others top hmem htop ?_⟩
      rw [hsource]
      exact fun heq => hne (Option.some.inj heq)

/-- A machine with a settings file that has an unknown key in the user's directory, and a valid one
in a directory below the root. -/
def misspelledWorld : World :=
  let settings (text : String) : Entry := .file (Text.Utf8.encode text) 0o644 0
  let entries : List (List String × Entry) :=
    [(["c"], .dir 0o755 0), (["c", "julials"], .dir 0o755 0), (["p"], .dir 0o755 0),
      (["c", "julials", "julials.json"], settings "\x7b\"jula\":\x7b\x7d\x7d"),
      (["p", "julials.json"], settings "\x7b\"julia\":\x7b\"enabled\":true\x7d\x7d")]
  World.atStart
    { files := entries.foldl (fun files (place, entry) => files.put place entry) FileTree.empty
      env := [("XDG_CONFIG_HOME", "/c")]
      cwd := "/p"
      now := 0 }

/-- The valid file is blamed for the unknown key. -/
theorem valid_file_blamed :
    ∃ blamed violations between,
      (load ".").perform misspelledWorld = (.error (.settings blamed violations), between) ∧
      AtFault (layers misspelledWorld ".") "/c/julials/julials.json" ∧
      blamed ≠ "/c/julials/julials.json" ∧
      ∃ layer ∈ layers misspelledWorld ".", layer.source = some blamed ∧ layer.members ≠ [] ∧
        Passes Settings.read (.obj layer.members) := by
  have hlog : misspelledWorld.desk.LogNamed := World.logNamed_atStart _
  have hmerges : ((merged ".").perform misspelledWorld).1.toOption.any (fun layered =>
      ¬ Passes Settings.read (.obj layered.1)) = true := by decide +kernel
  have hfault : AtFault (layers misspelledWorld ".") "/c/julials/julials.json" :=
    ⟨by decide +kernel, by decide +kernel⟩
  have hlast : (contributing (layers misspelledWorld ".")).getLastD "" = "/p/julials.json" := by
    decide +kernel
  -- the misspelled file is applied first, so that the file at fault is not the last one
  have hbelow : ¬ OnTop (layers misspelledWorld ".") "/c/julials/julials.json" := by
    intro htop
    rw [getLastD_contributing htop] at hlast
    exact absurd hlast (by decide)
  obtain ⟨layered, between, hmerged, hinvalid⟩ := Step.exists_run_of_any hmerges
  obtain ⟨blamed, violations, hload, hblamed, hinnocent⟩ := blamed_iff misspelledWorld "." rfl
    hlog (by decide +kernel) hmerged (of_decide_eq_true hinvalid) hfault
  have hne : blamed ≠ "/c/julials/julials.json" := fun heq => hbelow (hblamed.1 heq)
  exact ⟨blamed, violations, between, hload, hfault, hne, hinnocent hne⟩

end JuliaSession.Config
