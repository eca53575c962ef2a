import JuliaSession.Proofs.Config.Layers

/-!
# Two settings files in one directory

A directory may hold settings files of both names. The user's files are applied as their names are
listed. The files of the directories from the root down are found in the listed order too, but the
innermost directory first, and what was found is turned round as a whole: that puts the directories
into their order and the names of each directory out of theirs.

* `layerOf?`: the layer of a file name in the directory of a rank.
* `layers_split`: where the two files of a directory stand among the layers.
* `deciding_name_iff`: which of the two decides a leaf that they disagree on.
-/

namespace JuliaSession.Config

open Json (follow?)

/-- The layer of a file name in the directory of a rank: the user's directory has rank zero, and
among the directories of a load the root has rank one. -/
def layerOf? (world : World) (directory : String) : Nat → String → Option Layer
  | 0, name => some (fileLayer world 0 (Path.join (Directories.config world.desk.machine) name))
  | depth + 1, name =>
    (directories world.desk.machine directory)[depth]?.map fun dir =>
      fileLayer world (depth + 1) (Path.child dir name)

theorem layerOf?_succ {world : World} {directory name : String} {depth : Nat} {layer : Layer} :
    layerOf? world directory (depth + 1) name = some layer ↔
      ∃ dir, (directories world.desk.machine directory)[depth]? = some dir ∧
        fileLayer world (depth + 1) (Path.child dir name) = layer := by
  rw [layerOf?, Option.map_eq_some_iff]

/-- The layers of both names in the directory of a rank, in the order in which they are applied. -/
def applied (rank : Nat) (json jsonc : Layer) : List Layer :=
  if rank = 0 then [json, jsonc] else [jsonc, json]

section Splitting

variable {world : World} {directory : String} {json jsonc : Layer}

/-- The user's two files are applied before everything else, as they are listed. -/
theorem layers_split_global (hjson : layerOf? world directory 0 "julials.json" = some json)
    (hjsonc : layerOf? world directory 0 "julials.jsonc" = some jsonc) :
    layers world directory =
      [json, jsonc] ++ (projectLayers world directory ++ [variableLayer world directory]) := by
  cases hjson
  cases hjsonc
  unfold layers
  rw [List.append_assoc]
  rfl

/-- What comes after the user's files has a higher rank. -/
theorem rank_pos_of_mem_upper {layer : Layer}
    (h : layer ∈ projectLayers world directory ++ [variableLayer world directory]) :
    0 < layer.rank := by
  rcases List.mem_append.1 h with hproject | hvariable
  · obtain ⟨dir, depth, -, name, -, rfl⟩ := mem_projectLayers.1 hproject
    rw [rank_fileLayer]
    exact Nat.succ_pos depth
  · rw [List.mem_singleton.1 hvariable, rank_variableLayer]
    exact Nat.succ_pos _

/-- Each of the two files of a directory is followed by layers of the directories below it and the
one of the variable only, and `julials.jsonc` is applied first. -/
theorem layers_split_project {depth : Nat}
    (hjson : layerOf? world directory (depth + 1) "julials.json" = some json)
    (hjsonc : layerOf? world directory (depth + 1) "julials.jsonc" = some jsonc) :
    ∃ below above, layers world directory = below ++ [jsonc, json] ++ above ∧
      ∀ upper ∈ above, depth + 1 < upper.rank := by
  obtain ⟨dir, hdir, rfl⟩ := layerOf?_succ.1 hjson
  obtain ⟨same, hsame, rfl⟩ := layerOf?_succ.1 hjsonc
  cases hdir.symm.trans hsame
  -- the directory is the only one of its number, and those after it have greater ones
  obtain ⟨outer, inner, hsplit⟩ := List.append_of_mem (List.mk_mem_zipIdx_iff_getElem?.2 hdir)
  have hinner : ∀ entry ∈ inner, depth < entry.2 := by
    have horder := pairwise_snd_zipIdx (directories world.desk.machine directory)
    rw [hsplit] at horder
    exact (List.pairwise_cons.1 (List.pairwise_append.1 horder).2.1).1
  have hdepth : depth < (directories world.desk.machine directory).length :=
    (List.getElem?_eq_some_iff.1 hdir).1
  let files (entry : String × Nat) : List Layer :=
    fileNames.reverse.map fun name => fileLayer world (entry.2 + 1) (Path.child entry.1 name)
  refine ⟨globalLayers world ++ outer.flatMap files,
    inner.flatMap files ++ [variableLayer world directory], ?_, fun upper hupper => ?_⟩
  · unfold layers projectLayers
    rw [hsplit, List.flatMap_append, List.flatMap_cons]
    simp only [List.append_assoc]
    rfl
  · rcases List.mem_append.1 hupper with hproject | hvariable
    · obtain ⟨entry, hentry, hlayer⟩ := List.mem_flatMap.1 hproject
      obtain ⟨name, -, rfl⟩ := List.mem_map.1 hlayer
      rw [rank_fileLayer]
      exact Nat.succ_lt_succ (hinner entry hentry)
    · rw [List.mem_singleton.1 hvariable, rank_variableLayer]
      exact Nat.succ_lt_succ hdepth

/-- The two files of a directory are applied one right after the other, and what is applied later
has a higher rank. -/
theorem layers_split {rank : Nat}
    (hjson : layerOf? world directory rank "julials.json" = some json)
    (hjsonc : layerOf? world directory rank "julials.jsonc" = some jsonc) :
    ∃ below above, layers world directory = below ++ applied rank json jsonc ++ above ∧
      ∀ upper ∈ above, rank < upper.rank := by
  cases rank with
  | zero =>
    exact ⟨[], _, layers_split_global hjson hjsonc, fun _ hupper => rank_pos_of_mem_upper hupper⟩
  | succ depth => exact layers_split_project hjson hjsonc

theorem rank_of_layerOf? {rank : Nat} {name : String} {layer : Layer}
    (h : layerOf? world directory rank name = some layer) : layer.rank = rank := by
  cases rank with
  | zero =>
    cases h
    exact rank_fileLayer _ _ _
  | succ depth =>
    obtain ⟨dir, -, rfl⟩ := layerOf?_succ.1 h
    exact rank_fileLayer _ _ _

end Splitting

/-- The last layer that settles a path decides. -/
theorem follow?_of_last {world : World} {directory : String} {below above : List Layer}
    {last : Layer} (hsplit : layers world directory = below ++ last :: above) {path : List String}
    {value : Json} (hvalue : value.isObject = false)
    (hlast : follow? path (.obj last.members) = some value)
    (habove : ∀ upper ∈ above, ¬ Settles path (.obj upper.members)) :
    follow? path (.obj (mergeLayers ((layers world directory).map Layer.members))) =
      some value := by
  have hdistinct : ∀ members ∈ (layers world directory).map Layer.members,
      Json.DistinctKeys (.obj members) := by
    intro members hmembers
    obtain ⟨layer, hlayer, rfl⟩ := List.mem_map.1 hmembers
    exact distinctKeys_layers hlayer
  -- the layers above leave the path open, and the value of the last layer is no object to merge
  -- into
  refine (follow?_mergeLayers hvalue hdistinct path).2
    ⟨below.map Layer.members, last.members, above.map Layer.members, ?_, hlast, ?_⟩
  · rw [hsplit, List.map_append, List.map_cons]
  · intro members hmembers
    obtain ⟨upper, hupper, rfl⟩ := List.mem_map.1 hmembers
    exact habove upper hupper

/-- Two settings files of one directory disagree on a leaf that no other layer of this rank or a
higher one settles. A load checks an object that has the value of `julials.json` there if the
directory is one of those from the root down, and the value of `julials.jsonc` if it is the user's:
which name decides depends on the kind of the directory, though not on its depth. -/
theorem deciding_name_iff (world : World) (directory : String)
    (hcache : world.loaded.cache = none) (hlog : world.desk.LogNamed)
    {data : Json.Members} {sources : List String} {between : World}
    (hmerged : (merged directory).perform world = (.ok (data, sources), between))
    {rank : Nat} {json jsonc : Layer}
    (hjson : layerOf? world directory rank "julials.json" = some json)
    (hjsonc : layerOf? world directory rank "julials.jsonc" = some jsonc)
    {path : List String} {a b : Json} (ha : a.isObject = false) (hb : b.isObject = false)
    (hconflict : a ≠ b) (hsets : follow? path (.obj json.members) = some a)
    (hsetsc : follow? path (.obj jsonc.members) = some b)
    (halone : ∀ other ∈ layers world directory, other ≠ json → other ≠ jsonc →
      rank ≤ other.rank → ¬ Settles path (.obj other.members)) :
    (load directory).perform world =
        (match Settings.read (.obj data) with
          | .error violations =>
            (.error (.settings (sources.getLastD "<defaults>") violations), between)
          | .ok settings =>
            (.ok settings, { between with loaded := { cache := some settings, sources } })) ∧
      (follow? path (.obj data) = some a ↔ 0 < rank) ∧
      (follow? path (.obj data) = some b ↔ rank = 0) := by
  refine ⟨perform_load hcache hmerged, ?_⟩
  obtain ⟨below, above, hsplit, hrank⟩ := layers_split hjson hjsonc
  have habove : ∀ upper ∈ above, ¬ Settles path (.obj upper.members) := by
    intro upper hupper
    have hhigher := hrank upper hupper
    refine halone upper (by simp [hsplit, hupper]) ?_ ?_ (Nat.le_of_lt hhigher)
    · rintro rfl
      exact Nat.ne_of_gt hhigher (rank_of_layerOf? hjson)
    · rintro rfl
      exact Nat.ne_of_gt hhigher (rank_of_layerOf? hjsonc)
  rw [(merged_ok hlog hmerged).1]
  -- in the directory of the user `julials.jsonc` is applied last, everywhere else `julials.json`
  rcases Nat.eq_zero_or_pos rank with hzero | hpos
  · have hsplit' : layers world directory = (below ++ [json]) ++ jsonc :: above := by
      rw [hsplit, applied, if_pos hzero]
      simp
    rw [follow?_of_last hsplit' hb hsetsc habove]
    simp [hconflict.symm, hzero]
  · have hne : rank ≠ 0 := Nat.ne_of_gt hpos
    have hsplit' : layers world directory = (below ++ [jsonc]) ++ json :: above := by
      rw [hsplit, applied, if_neg hne]
      simp
    rw [follow?_of_last hsplit' ha hsets habove]
    simp [hconflict, hpos, hne]

/-- A machine with settings files of both names in the user's directory and in a directory below
the root. -/
def pairedWorld : World :=
  let settings (key value : String) : Entry :=
    .file (Text.Utf8.encode ("\x7b\"" ++ key ++ "\":\"" ++ value ++ "\"\x7d")) 0o644 0
  let entries : List (List String × Entry) :=
    [(["c"], .dir 0o755 0), (["c", "julials"], .dir 0o755 0), (["p"], .dir 0o755 0),
      (["c", "julials", "julials.json"], settings "$schema" "a"),
      (["c", "julials", "julials.jsonc"], settings "$schema" "b"),
      (["p", "julials.json"], settings "logLevel" "INFO"),
      (["p", "julials.jsonc"], settings "logLevel" "WARN")]
  World.atStart
    { files := entries.foldl (fun files (place, entry) => files.put place entry) FileTree.empty
      env := [("XDG_CONFIG_HOME", "/c")]
      cwd := "/p"
      now := 0 }

/-- The layers that disagree in the user's directory. -/
def userPair : Layer × Layer :=
  (⟨0, some "/c/julials/julials.json", [("$schema", .str "a")]⟩,
    ⟨0, some "/c/julials/julials.jsonc", [("$schema", .str "b")]⟩)

/-- The layers that disagree in the directory below the root. -/
def innerPair : Layer × Layer :=
  (⟨2, some "/p/julials.json", [("logLevel", .str "INFO")]⟩,
    ⟨2, some "/p/julials.jsonc", [("logLevel", .str "WARN")]⟩)

/-- The names do not decide alike: `julials.jsonc` in the user's directory and `julials.json` in the
one below the root. -/
theorem deciding_names_differ :
    ∃ data sources between, (merged ".").perform pairedWorld = (.ok (data, sources), between) ∧
      follow? ["$schema"] (.obj data) = some (.str "b") ∧
      follow? ["logLevel"] (.obj data) = some (.str "INFO") := by
  have hlog : pairedWorld.desk.LogNamed := World.logNamed_atStart _
  obtain ⟨⟨data, sources⟩, between, hmerged⟩ : ∃ layered between,
      (merged ".").perform pairedWorld = (.ok layered, between) :=
    Step.exists_run_of_isOk (by decide +kernel)
  have huser : layerOf? pairedWorld "." 0 "julials.json" = some userPair.1 ∧
      layerOf? pairedWorld "." 0 "julials.jsonc" = some userPair.2 := by decide +kernel
  have huserAlone : ∀ other ∈ layers pairedWorld ".", other ≠ userPair.1 → other ≠ userPair.2 →
      0 ≤ other.rank → Assoc.get? "$schema" other.members = none := by decide +kernel
  have hinner : layerOf? pairedWorld "." 2 "julials.json" = some innerPair.1 ∧
      layerOf? pairedWorld "." 2 "julials.jsonc" = some innerPair.2 := by decide +kernel
  have hinnerAlone : ∀ other ∈ layers pairedWorld ".", other ≠ innerPair.1 →
      other ≠ innerPair.2 → 2 ≤ other.rank → Assoc.get? "logLevel" other.members = none := by
    decide +kernel
  -- each pair of files decides by the name that is applied last in its own directory
  obtain ⟨-, -, hjsonc⟩ := deciding_name_iff pairedWorld "." rfl hlog hmerged huser.1 huser.2
    rfl rfl (by decide) rfl rfl fun other hother hne hne' hrank =>
      not_settles_of_get?_eq_none (huserAlone other hother hne hne' hrank) []
  obtain ⟨-, hjson, -⟩ := deciding_name_iff pairedWorld "." rfl hlog hmerged hinner.1 hinner.2
    rfl rfl (by decide) rfl rfl fun other hother hne hne' hrank =>
      not_settles_of_get?_eq_none (hinnerAlone other hother hne hne' hrank) []
  exact ⟨data, sources, between, hmerged, hjsonc.2 rfl, hjson.2 (by decide)⟩

end JuliaSession.Config
