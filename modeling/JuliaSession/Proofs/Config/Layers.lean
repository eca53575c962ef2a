import JuliaSession.Proofs.Config.Merging
import JuliaSession.Proofs.Config.Reading

/-!
# Which layer decides

A load lays the settings of all layers over each other: the files of the user, the files of the
directories from the root down to the one that is asked for, and the environment variable. The
directory of a file decides its rank, whatever the file is called.

* `directories`, `layers`: the directories of a load, and its layers with their ranks, in the order
  in which they are applied.
* `upward_resolveDir`: the search upwards goes through exactly these directories.
* `merged_ok`: what is merged are the members of all layers, and the sources are the files that
  contribute something.
* `load_takes_highest_rank`: among layers of different rank the highest one decides.
-/

namespace JuliaSession.Config

open Json (DistinctKeys follow?)

/-! ### Directories -/

/-- The directory of a load and the ones above it, the root first: each one has one name more. -/
def directories (machine : Machine) (directory : String) : List String :=
  let dir := (resolveDir machine directory).toList
  (List.range ((Path.names dir).length + 1)).map fun count =>
    String.ofList (Path.build (Path.rootSlashes dir) ((Path.names dir).take count))

/-- The directory of a load is a tidy path. -/
theorem tidy_resolveDir (machine : Machine) (directory : String) :
    Path.Tidy (resolveDir machine directory).toList := by
  have habsolute : Path.Tidy (machine.absolute directory).toList := by
    unfold Machine.absolute Path.absolute
    rw [String.toList_ofList]
    exact Path.tidy_absoluteChars _ _
  unfold resolveDir
  dsimp only
  split_ifs with hslashes
  · rw [String.toList_ofList]
    exact habsolute.tail hslashes
  · exact habsolute

/-- Going upwards from a tidy path takes one name after the other away. -/
theorem upward_build {root : Nat} (hroot : root ≤ 2) {parts : List (List Char)}
    (hclean : Path.Clean parts) {depth : Nat} (hdepth : parts.length ≤ depth) :
    (upward depth (String.ofList (Path.build root parts))).reverse =
      (List.range (parts.length + 1)).map fun count =>
        String.ofList (Path.build root (parts.take count)) := by
  -- by induction on the last name: one step upwards takes it away, and a root is its own parent
  induction parts using List.reverseRecOn generalizing depth with
  | nil =>
    have hparent := Path.parent_build hroot hclean
    rw [List.dropLast_nil] at hparent
    cases depth with
    | zero =>
      rw [upward, List.reverse_singleton, List.length_nil, Nat.zero_add, List.range_one,
        List.map_singleton, List.take_nil]
    | succ depth =>
      rw [upward, if_pos hparent, List.reverse_singleton, List.length_nil, Nat.zero_add,
        List.range_one, List.map_singleton, List.take_nil]
  | append_singleton init last ih =>
    have hinit : Path.Clean init := hclean.sublist (List.sublist_append_left _ _)
    have hparent := Path.parent_build hroot hclean
    rw [List.dropLast_concat] at hparent
    -- a path with a name more is another path, so that the walk does not end here
    have hne : String.ofList (Path.build root init) ≠
        String.ofList (Path.build root (init ++ [last])) := by
      intro heq
      have hparts := Path.build_injective hinit hclean (String.ofList_injective heq)
      simp at hparts
    rw [List.length_append, List.length_singleton] at hdepth ⊢
    obtain ⟨depth, rfl⟩ : ∃ less, depth = less + 1 := ⟨depth - 1, by omega⟩
    rw [upward, hparent, if_neg hne, List.reverse_cons, ih hinit (by omega),
      @List.range_succ (init.length + 1), List.map_append]
    congr 1
    · refine List.map_congr_left fun count hcount => ?_
      rw [List.mem_range] at hcount
      rw [List.take_append_of_le_length (by omega)]
    · rw [List.map_singleton, List.take_of_length_le (by simp)]

/-- The search upwards from the directory of a load goes through all its directories, up to the
root. -/
theorem upward_resolveDir (machine : Machine) (directory : String) :
    let dir := resolveDir machine directory
    (upward dir.length dir).reverse = directories machine directory := by
  intro dir
  obtain ⟨root, parts, hroot, hclean, hdir⟩ := tidy_resolveDir machine directory
  have hbuild : dir = String.ofList (Path.build root parts) := by
    rw [← hdir, String.ofList_toList]
  have hlength : parts.length ≤ dir.length := by
    rw [hbuild, String.length_ofList]
    exact Path.length_le_build root hclean
  unfold directories
  dsimp only
  rw [hdir, Path.rootSlashes_build hroot hclean, Path.names_build root hclean,
    ← upward_build hroot hclean hlength, ← hbuild]

/-! ### Layers -/

/-- A layer of settings. -/
structure Layer where
  /-- Its rank: layers of a higher rank go before. -/
  rank : Nat
  /-- The file it comes from, if it comes from one. -/
  source : Option String
  /-- Its members; none if the file is missing or cannot be used. -/
  members : Json.Members
  deriving DecidableEq

/-- The layer of a file. -/
def fileLayer (world : World) (rank : Nat) (path : String) : Layer :=
  ⟨rank, some path, membersOf world path⟩

theorem rank_fileLayer (world : World) (rank : Nat) (path : String) :
    (fileLayer world rank path).rank = rank := by
  rw [fileLayer]

theorem source_fileLayer (world : World) (rank : Nat) (path : String) :
    (fileLayer world rank path).source = some path := by
  rw [fileLayer]

theorem members_fileLayer (world : World) (rank : Nat) (path : String) :
    (fileLayer world rank path).members = membersOf world path := by
  rw [fileLayer]

/-- What the environment variable contributes: the object in it, or nothing. -/
def variableMembers (machine : Machine) : Json.Members :=
  match machine.envVar? contentVar with
  | none => []
  | some text =>
    match Json.readWith .strict text.toList with
    | .ok (.obj data) => data
    | _ => []

/-- The layers of the user's files. -/
def globalLayers (world : World) : List Layer :=
  (globalFiles world.desk.machine).map (fileLayer world 0)

/-- The layers of the files in the directories of a load, the root first. -/
def projectLayers (world : World) (directory : String) : List Layer :=
  (directories world.desk.machine directory).zipIdx.flatMap fun (dir, depth) =>
    fileNames.reverse.map fun name => fileLayer world (depth + 1) (Path.child dir name)

/-- The layer of the environment variable, above all directories. -/
def variableLayer (world : World) (directory : String) : Layer :=
  ⟨(directories world.desk.machine directory).length + 1, none, variableMembers world.desk.machine⟩

theorem rank_variableLayer (world : World) (directory : String) :
    (variableLayer world directory).rank =
      (directories world.desk.machine directory).length + 1 := by
  rw [variableLayer]

theorem source_variableLayer (world : World) (directory : String) :
    (variableLayer world directory).source = none := by
  rw [variableLayer]

theorem members_variableLayer (world : World) (directory : String) :
    (variableLayer world directory).members = variableMembers world.desk.machine := by
  rw [variableLayer]

/-- The layers of a load, in the order in which they are applied. -/
def layers (world : World) (directory : String) : List Layer :=
  globalLayers world ++ projectLayers world directory ++ [variableLayer world directory]

/-- The files of some layers that contribute something. -/
def contributing (layers : List Layer) : List String :=
  (layers.filter fun layer => layer.members ≠ []).filterMap Layer.source

theorem mem_globalLayers {world : World} {layer : Layer} :
    layer ∈ globalLayers world ↔
      ∃ path ∈ globalFiles world.desk.machine, layer = fileLayer world 0 path := by
  simp only [globalLayers, List.mem_map, eq_comm]

theorem mem_projectLayers {world : World} {directory : String} {layer : Layer} :
    layer ∈ projectLayers world directory ↔
      ∃ dir depth, (dir, depth) ∈ (directories world.desk.machine directory).zipIdx ∧
        ∃ name ∈ fileNames, layer = fileLayer world (depth + 1) (Path.child dir name) := by
  simp only [projectLayers, List.mem_flatMap, List.mem_map, List.mem_reverse, Prod.exists, eq_comm]

theorem mem_layers {world : World} {directory : String} {layer : Layer} :
    layer ∈ layers world directory ↔
      layer ∈ globalLayers world ∨ layer ∈ projectLayers world directory ∨
        layer = variableLayer world directory := by
  simp only [layers, List.mem_append, List.mem_singleton, or_assoc]

theorem rank_of_mem_globalLayers {world : World} {layer : Layer} (h : layer ∈ globalLayers world) :
    layer.rank = 0 := by
  obtain ⟨path, -, heq⟩ := mem_globalLayers.1 h
  rw [heq, rank_fileLayer]

/-- The elements of a list are numbered in their order. -/
theorem pairwise_snd_zipIdx {α : Type} (elements : List α) :
    elements.zipIdx.Pairwise fun upper lower => upper.2 < lower.2 := by
  rw [← List.pairwise_map, List.zipIdx_map_snd]
  exact List.pairwise_lt_range'

/-- The files of one directory have one rank, the deeper the higher. -/
theorem pairwise_rank_projectLayers (world : World) (directory : String) :
    (projectLayers world directory).Pairwise fun lower upper => lower.rank ≤ upper.rank := by
  unfold projectLayers
  refine List.pairwise_flatMap.2 ⟨?_, ?_⟩
  · rintro ⟨dir, depth⟩ -
    simp only [List.pairwise_map, rank_fileLayer]
    exact List.pairwise_of_forall_mem_list fun _ _ _ _ => Nat.le_refl _
  · -- the directories are numbered from the root down
    refine (pairwise_snd_zipIdx _).imp ?_
    intro upper lower hlt first hfirst second hsecond
    obtain ⟨name, -, hfirst⟩ := List.mem_map.1 hfirst
    obtain ⟨name', -, hsecond⟩ := List.mem_map.1 hsecond
    rw [← hfirst, ← hsecond, rank_fileLayer, rank_fileLayer]
    exact Nat.succ_le_succ (Nat.le_of_lt hlt)

/-- The layers stand in the order of their ranks. -/
theorem pairwise_rank_layers (world : World) (directory : String) :
    (layers world directory).Pairwise fun lower upper => lower.rank ≤ upper.rank := by
  have hvariable : ∀ layer ∈ projectLayers world directory,
      layer.rank ≤ (variableLayer world directory).rank := by
    intro layer hlayer
    obtain ⟨dir, depth, hdir, name, -, heq⟩ := mem_projectLayers.1 hlayer
    rw [heq, rank_fileLayer, rank_variableLayer]
    have hlt := List.snd_lt_of_mem_zipIdx hdir
    rw [Nat.add_zero] at hlt
    exact Nat.succ_le_succ (Nat.le_of_lt hlt)
  unfold layers
  rw [List.pairwise_append, List.pairwise_append]
  refine ⟨⟨?_, pairwise_rank_projectLayers world directory, ?_⟩, List.pairwise_singleton _ _, ?_⟩
  · refine List.pairwise_of_forall_mem_list fun lower hlower upper _ => ?_
    rw [rank_of_mem_globalLayers hlower]
    exact Nat.zero_le _
  · intro lower hlower upper _
    rw [rank_of_mem_globalLayers hlower]
    exact Nat.zero_le _
  · intro lower hlower upper hupper
    rw [List.mem_singleton.1 hupper]
    rcases List.mem_append.1 hlower with hlower | hlower
    · rw [rank_of_mem_globalLayers hlower]
      exact Nat.zero_le _
    · exact hvariable lower hlower

theorem distinctKeys_variableMembers (machine : Machine) :
    DistinctKeys (.obj (variableMembers machine)) := by
  unfold variableMembers
  split
  · exact Json.distinctKeys_nil
  · split
    next data hread => exact Json.distinctKeys_of_readWith hread
    next => exact Json.distinctKeys_nil

/-- The layers have distinct keys. -/
theorem distinctKeys_layers {world : World} {directory : String} {layer : Layer}
    (h : layer ∈ layers world directory) : DistinctKeys (.obj layer.members) := by
  rcases mem_layers.1 h with h | h | h
  · obtain ⟨path, -, heq⟩ := mem_globalLayers.1 h
    rw [heq, members_fileLayer]
    exact distinctKeys_membersOf world path
  · obtain ⟨dir, depth, -, name, -, heq⟩ := mem_projectLayers.1 h
    rw [heq, members_fileLayer]
    exact distinctKeys_membersOf world _
  · rw [h, members_variableLayer]
    exact distinctKeys_variableMembers _

/-! ### Candidates -/

/-- Where settings files of directories may be, in the order in which they are applied. -/
def projectCandidates (machine : Machine) (directory : String) : List String :=
  (directories machine directory).flatMap fun dir => fileNames.reverse.map (Path.child dir)

/-- Where settings files may be, in the order in which they are applied. -/
def candidates (machine : Machine) (directory : String) : List String :=
  globalFiles machine ++ projectCandidates machine directory

theorem tidy_of_mem_projectCandidates {machine : Machine} {directory path : String}
    (h : path ∈ projectCandidates machine directory) : Path.tidy path = path := by
  obtain ⟨dir, -, hpath⟩ := List.mem_flatMap.1 h
  obtain ⟨name, -, rfl⟩ := List.mem_map.1 hpath
  exact Path.tidy_tidy _

/-- The names of settings files are at the end of the paths where they may be. -/
theorem suffix_of_mem_candidates {machine : Machine} {directory path : String}
    (h : path ∈ candidates machine directory) :
    ∃ name ∈ fileNames, name.toList <:+ path.toList := by
  rcases List.mem_append.1 h with hglobal | hproject
  · obtain ⟨name, hname, rfl⟩ := List.mem_map.1 hglobal
    exact ⟨name, hname, Path.suffix_join List.suffix_rfl _⟩
  · obtain ⟨dir, -, hpath⟩ := List.mem_flatMap.1 hproject
    obtain ⟨name, hname, rfl⟩ := List.mem_map.1 hpath
    rw [List.mem_reverse] at hname
    exact ⟨name, hname, Path.suffix_child (naming_of_mem_fileNames hname) List.suffix_rfl _⟩

/-- The log is not written where a settings file may be. -/
theorem apartFromLog_of_mem_candidates {world : World} (hlog : world.desk.LogNamed)
    {directory path : String} (h : path ∈ candidates world.desk.machine directory) :
    ApartFromLog world path := by
  obtain ⟨name, hname, hsuffix⟩ := suffix_of_mem_candidates h
  exact apartFromLog_of_suffix hlog hname hsuffix

/-! ### Applying files -/

section Applying

variable {start world after : World} {kind : String}

theorem applyFile_ok (hfrom : LogsOnly start world) {path : String}
    (hapart : ApartFromLog start path) {below result : Json.Members × List String}
    (h : (applyFile kind path below).perform world = (.ok result, after)) :
    LogsOnly start after ∧ result.1 = merge below.1 (membersOf start path) ∧
      result.2 = below.2 ++ if membersOf start path = [] then [] else [path] := by
  unfold applyFile at h
  obtain ⟨data, loaded, hload, h⟩ := Step.perform_bind_eq_ok_iff.1 h
  have hloaded := hfrom.trans ((logsOnly_loadFile path).ends hload)
  have hmembers := membersOf_of_loadFile hload
  -- records that were written in the meantime do not touch a file apart from the log
  rw [membersOf_eq_of_logsOnly hfrom hapart] at hmembers
  rw [hmembers]
  split_ifs at h with hempty
  · cases h
    rw [List.isEmpty_iff] at hempty
    rw [hempty, merge_nil, if_pos rfl, List.append_nil]
    exact ⟨hloaded, rfl, rfl⟩
  · obtain ⟨_, logged, hlog, h⟩ := Step.perform_bind_eq_ok_iff.1 h
    cases h
    rw [List.isEmpty_iff] at hempty
    rw [if_neg hempty]
    exact ⟨hloaded.trans ((logsOnly_log _ _ _ _).ends hlog), rfl, rfl⟩

theorem applyFiles_ok (hfrom : LogsOnly start world) {paths : List String}
    (hapart : ∀ path ∈ paths, ApartFromLog start path) {below result : Json.Members × List String}
    (h : (applyFiles kind paths below).perform world = (.ok result, after)) :
    LogsOnly start after ∧ result.1 = (paths.map (membersOf start)).foldl merge below.1 ∧
      result.2 = below.2 ++ paths.filter fun path => membersOf start path ≠ [] := by
  induction paths generalizing world below with
  | nil =>
    cases h
    exact ⟨hfrom, rfl, (List.append_nil _).symm⟩
  | cons path rest ih =>
    unfold applyFiles at h
    obtain ⟨applied, between, happly, h⟩ := Step.perform_bind_eq_ok_iff.1 h
    obtain ⟨hbetween, hdata, hsources⟩ := applyFile_ok hfrom (hapart path (by simp)) happly
    obtain ⟨hafter, hdata', hsources'⟩ := ih hbetween
      (fun other hother => hapart other (List.mem_cons_of_mem _ hother)) h
    refine ⟨hafter, by rw [hdata', hdata, List.map_cons, List.foldl_cons], ?_⟩
    rw [hsources', hsources, List.append_assoc, List.filter_cons]
    split_ifs with hempty <;> simp_all

theorem applyVariable_ok {below data : Json.Members}
    (h : (applyVariable below).perform world = (.ok data, after)) :
    LogsOnly world after ∧ data = merge below (variableMembers world.desk.machine) := by
  have hnone : merge below [] = below := merge_nil below
  unfold applyVariable at h
  rw [Step.perform_bind_ok (perform_machine world)] at h
  unfold variableMembers
  -- the variable is not set, it is empty, or it has a text, which is an object, another value or no
  -- value
  split at h
  next hvar =>
    cases h
    rw [hvar]
    exact ⟨.refl world, hnone.symm⟩
  next hvar =>
    cases h
    rw [hvar]
    exact ⟨.refl world, hnone.symm⟩
  next text _ hvar =>
    rw [hvar]
    dsimp only
    split at h
    next members hread =>
      obtain ⟨_, logged, hlog, h⟩ := Step.perform_bind_eq_ok_iff.1 h
      cases h
      rw [hread]
      exact ⟨(logsOnly_log _ _ _ _).ends hlog, rfl⟩
    next found hobject hread =>
      cases h
      rw [hread]
      refine ⟨.refl world, ?_⟩
      split
      next members hmembers =>
        cases hmembers
        exact absurd rfl (hobject members)
      next => exact hnone.symm
    next hread =>
      obtain ⟨_, logged, hlog, h⟩ := Step.perform_bind_eq_ok_iff.1 h
      cases h
      rw [hread]
      exact ⟨(logsOnly_log _ _ _ _).ends hlog, hnone.symm⟩
    next => cases h
    next => cases h

end Applying

/-! ### What is merged -/

/-- Of the places that are searched only those with files are kept, the last one first. -/
theorem existing_ok {machine : Machine} {places files : List String}
    (h : existing machine places = .ok files) :
    files = (places.filter (isFile machine)).reverse := by
  induction places generalizing files with
  | nil =>
    cases h
    rfl
  | cons path rest ih =>
    obtain ⟨found, hfound, h⟩ := bind_eq_ok_iff.1 h
    obtain ⟨others, hothers, h⟩ := bind_eq_ok_iff.1 h
    replace hothers := ih hothers
    replace h := Except.ok.inj h
    rw [← h]
    -- looking at a place has succeeded, hence it is known whether there is a file
    have hfile : isFile machine path = found.any fun entry => !entry.isDir := by
      unfold isFile
      rw [hfound]
      cases found with
      | none => rfl
      | some entry => cases entry <;> rfl
    rw [List.filter_cons, hfile, hothers]
    cases found with
    | none => rfl
    | some entry => cases entry <;> simp [Entry.isDir]

/-- The files of a load are among its candidates, in their order. -/
theorem projectFiles_ok {machine : Machine} {directory : String} {files : List String}
    (h : projectFiles machine directory = .ok files) :
    files = (projectCandidates machine directory).filter (isFile machine) := by
  unfold projectFiles at h
  split_ifs at h
  rw [existing_ok h, ← List.filter_reverse]
  unfold projectPlaces projectCandidates
  dsimp only
  rw [List.reverse_flatMap, upward_resolveDir]
  simp only [Function.comp_def, List.map_reverse]

/-- Candidates without a file change nothing. -/
theorem foldl_merge_filter {world : World} {paths : List String}
    (htidy : ∀ path ∈ paths, Path.tidy path = path) (below : Json.Members) :
    ((paths.filter (isFile world.desk.machine)).map (membersOf world)).foldl merge below =
      (paths.map (membersOf world)).foldl merge below := by
  induction paths generalizing below with
  | nil => rfl
  | cons path rest ih =>
    have hrest := ih fun other hother => htidy other (List.mem_cons_of_mem _ hother)
    rw [List.filter_cons, List.map_cons, List.foldl_cons]
    split_ifs with hfile
    · rw [List.map_cons, List.foldl_cons, hrest]
    · rw [Bool.not_eq_true] at hfile
      rw [membersOf_eq_nil_of_not_isFile (htidy path (by simp)) hfile, merge_nil, hrest]

/-- Candidates that contribute something are files. -/
theorem filter_membersOf_filter {world : World} {paths : List String}
    (htidy : ∀ path ∈ paths, Path.tidy path = path) :
    (paths.filter (isFile world.desk.machine)).filter (fun path => membersOf world path ≠ []) =
      paths.filter fun path => membersOf world path ≠ [] := by
  rw [List.filter_filter]
  refine List.filter_congr fun path hpath => ?_
  by_cases hfile : isFile world.desk.machine path
  · simp [hfile]
  · rw [Bool.not_eq_true] at hfile
    simp [membersOf_eq_nil_of_not_isFile (htidy path hpath) hfile]

/-- What some layers of files contribute, and the files that contribute something. -/
theorem contributing_eq {world : World} {paths : List String} {layers : List Layer}
    (h : layers.map (fun layer => (layer.source, layer.members)) =
      paths.map fun path => (some path, membersOf world path)) :
    layers.map Layer.members = paths.map (membersOf world) ∧
      contributing layers = paths.filter fun path => membersOf world path ≠ [] := by
  induction layers generalizing paths with
  | nil =>
    cases paths with
    | nil => exact ⟨rfl, rfl⟩
    | cons path rest => cases h
  | cons layer more ih =>
    cases paths with
    | nil => cases h
    | cons path rest =>
      rw [List.map_cons, List.map_cons, List.cons.injEq, Prod.mk.injEq] at h
      obtain ⟨⟨hsource, hmembers⟩, hmore⟩ := h
      obtain ⟨hdata, hfiles⟩ := ih hmore
      refine ⟨by rw [List.map_cons, List.map_cons, hmembers, hdata], ?_⟩
      unfold contributing at hfiles ⊢
      rw [List.filter_cons, List.filter_cons, hmembers]
      split_ifs
      · rw [List.filterMap_cons_some hsource, hfiles]
      · exact hfiles

theorem globalLayers_eq (world : World) :
    (globalLayers world).map (fun layer => (layer.source, layer.members)) =
      (globalFiles world.desk.machine).map fun path => (some path, membersOf world path) := by
  simp only [globalLayers, List.map_map, Function.comp_def, source_fileLayer, members_fileLayer]

theorem projectLayers_eq (world : World) (directory : String) :
    (projectLayers world directory).map (fun layer => (layer.source, layer.members)) =
      (projectCandidates world.desk.machine directory).map
        fun path => (some path, membersOf world path) := by
  unfold projectLayers projectCandidates
  generalize directories world.desk.machine directory = dirs
  simp only [List.map_flatMap, List.map_map, Function.comp_def, source_fileLayer,
    members_fileLayer]
  conv_rhs => rw [← List.zipIdx_map_fst 0 dirs, List.flatMap_map]

theorem contributing_append (lower upper : List Layer) :
    contributing (lower ++ upper) = contributing lower ++ contributing upper := by
  simp only [contributing, List.filter_append, List.filterMap_append]

/-- The environment variable is no file. -/
theorem contributing_variableLayer (world : World) (directory : String) :
    contributing [variableLayer world directory] = [] := by
  unfold contributing
  rw [List.filter_cons, List.filter_nil]
  split_ifs
  · rw [List.filterMap_cons_none (source_variableLayer world directory), List.filterMap_nil]
  · rfl

theorem perform_ofOs_ok {α : Type} {result : Except OsFault α} {value : α} {world after : World}
    (h : (Act.ofOs result).perform world = (.ok value, after)) :
    result = .ok value ∧ after = world := by
  cases result with
  | ok found =>
    cases h
    exact ⟨rfl, rfl⟩
  | error fault => cases h

/-- All layers are merged in the order of their ranks, and the sources are the files that contribute
something. -/
theorem merged_ok {world after : World} {directory : String} (hlog : world.desk.LogNamed)
    {data : Json.Members} {sources : List String}
    (h : (merged directory).perform world = (.ok (data, sources), after)) :
    data = mergeLayers ((layers world directory).map Layer.members) ∧
      sources = contributing (layers world directory) := by
  unfold merged at h
  rw [Step.perform_bind_ok (perform_machine world)] at h
  obtain ⟨low, first, hglobal, h⟩ := Step.perform_bind_eq_ok_iff.1 h
  obtain ⟨files, second, hfiles, h⟩ := Step.perform_bind_eq_ok_iff.1 h
  obtain ⟨⟨high, found⟩, third, hproject, h⟩ := Step.perform_bind_eq_ok_iff.1 h
  obtain ⟨top, last, hvariable, h⟩ := Step.perform_bind_eq_ok_iff.1 h
  cases h
  obtain ⟨hplaces, rfl⟩ := perform_ofOs_ok hfiles
  have hkept := projectFiles_ok hplaces
  have hapart : ∀ path ∈ candidates world.desk.machine directory, ApartFromLog world path :=
    fun path hpath => apartFromLog_of_mem_candidates hlog hpath
  obtain ⟨hfirst, hlow, hlowFiles⟩ := applyFiles_ok (.refl world)
    (fun path hpath => hapart path (List.mem_append_left _ hpath)) hglobal
  obtain ⟨hthird, hhigh, hhighFiles⟩ := applyFiles_ok hfirst (fun path hpath => by
    rw [hkept] at hpath
    exact hapart path (List.mem_append_right _ (List.mem_filter.1 hpath).1)) hproject
  obtain ⟨-, htop⟩ := applyVariable_ok hvariable
  -- the variable is the same as before the files were loaded
  have hvariable : variableMembers third.desk.machine = variableMembers world.desk.machine := by
    unfold variableMembers Machine.envVar?
    rw [hthird.env]
  have htidy : ∀ path ∈ projectCandidates world.desk.machine directory, Path.tidy path = path :=
    fun path => tidy_of_mem_projectCandidates
  obtain ⟨hglobalData, hglobalFiles⟩ := contributing_eq (globalLayers_eq world)
  obtain ⟨hprojectData, hprojectFiles⟩ := contributing_eq (projectLayers_eq world directory)
  dsimp only at hlow hlowFiles hhigh hhighFiles
  constructor
  · rw [htop, hhigh, hlow, hkept, foldl_merge_filter htidy, hvariable, ← hglobalData,
      ← hprojectData]
    unfold layers mergeLayers
    rw [List.map_append, List.map_append, List.foldl_append, List.foldl_append,
      List.map_singleton, List.foldl_cons, List.foldl_nil, members_variableLayer]
  · rw [hhighFiles, hlowFiles, hkept, filter_membersOf_filter htidy, ← hglobalFiles,
      ← hprojectFiles, List.nil_append]
    unfold layers
    rw [contributing_append, contributing_append, contributing_variableLayer, List.append_nil]

/-! ### Loading -/

/-- Settings that are not loaded yet are merged and checked, and kept if they are valid. -/
theorem perform_load {world after : World} {directory : String} (hcache : world.loaded.cache = none)
    {data : Json.Members} {sources : List String}
    (h : (merged directory).perform world = (.ok (data, sources), after)) :
    (load directory).perform world =
      match Settings.read (.obj data) with
      | .error violations =>
        (.error (.settings (sources.getLastD "<defaults>") violations), after)
      | .ok settings =>
        (.ok settings, { after with loaded := { cache := some settings, sources } }) := by
  unfold load
  rw [Step.perform_get_bind, hcache]
  dsimp only
  rw [Step.perform_bind_ok h]
  dsimp only
  cases Settings.read (.obj data) with
  | error violations => exact Step.perform_throw _ _
  | ok settings => exact Step.perform_modify_bind _ _ _

/-- A load that ends well has merged the layers. -/
theorem merged_of_load_ok {world after : World} {directory : String} {settings : Settings}
    (hcache : world.loaded.cache = none)
    (h : (load directory).perform world = (.ok settings, after)) :
    ∃ data between, (merged directory).perform world = (.ok (data, after.loaded.sources), between) ∧
      Settings.read (.obj data) = .ok settings := by
  -- were the layers not merged, the load would have failed before any check
  cases hmerged : (merged directory).perform world with
  | mk result between =>
    cases result with
    | error failure =>
      unfold load at h
      rw [Step.perform_get_bind, hcache] at h
      dsimp only at h
      rw [Step.perform_bind_error hmerged] at h
      cases h
    | ok layered =>
      obtain ⟨data, sources⟩ := layered
      rw [perform_load hcache hmerged] at h
      split at h
      · cases h
      next found hread =>
        cases h
        exact ⟨data, between, rfl, hread⟩

/-- Of the elements with a property there is a last one. -/
theorem exists_last_of_mem {α : Type} {holds : α → Prop} {elements : List α} {element : α}
    (hmem : element ∈ elements) (h : holds element) :
    ∃ below last above, elements = below ++ last :: above ∧ holds last ∧
      ∀ upper ∈ above, ¬ holds upper := by
  -- by induction from the end: either the top element has the property, or the last one is below it
  induction elements using List.reverseRecOn with
  | nil => cases hmem
  | append_singleton rest top ih =>
    by_cases htop : holds top
    · exact ⟨rest, top, [], rfl, htop, nofun⟩
    · rcases List.mem_append.1 hmem with hrest | hsame
      · obtain ⟨below, last, above, rfl, hlast, habove⟩ := ih hrest
        refine ⟨below, last, above ++ [top], by simp, hlast, fun upper hupper => ?_⟩
        rcases List.mem_append.1 hupper with hupper | hupper
        · exact habove upper hupper
        · rwa [List.mem_singleton.1 hupper]
      · exact absurd (List.mem_singleton.1 hsame ▸ h) htop

/-- Of layers in the order of their ranks the highest one that settles a path decides. -/
theorem follow?_of_highest {layers : List Layer}
    (hranks : layers.Pairwise fun lower upper => lower.rank ≤ upper.rank)
    (hdistinct : ∀ layer ∈ layers, DistinctKeys (.obj layer.members)) {path : List String}
    {value : Json} (hvalue : value.isObject = false) {higher : Layer} (hmem : higher ∈ layers)
    (hsets : follow? path (.obj higher.members) = some value)
    (honly : ∀ other ∈ layers, other ≠ higher → higher.rank ≤ other.rank →
      ¬ Settles path (.obj other.members)) :
    follow? path (.obj (mergeLayers (layers.map Layer.members))) = some value := by
  classical
  have hkeys : ∀ data ∈ layers.map Layer.members, DistinctKeys (.obj data) := by
    intro data hdata
    obtain ⟨layer, hlayer, rfl⟩ := List.mem_map.1 hdata
    exact hdistinct layer hlayer
  -- the last layer that settles the path is not below the one that is known to
  obtain ⟨below, last, above, hsplit, hlast, habove⟩ :
      ∃ below last above, layers = below ++ last :: above ∧
        Settles path (.obj last.members) ∧
        ∀ upper ∈ above, ¬ Settles path (.obj upper.members) :=
    exists_last_of_mem hmem (.inl ⟨value, hsets⟩)
  have heq : last = higher := by
    by_contra hne
    rw [hsplit] at hmem hranks honly
    refine honly last (by simp) hne ?_ hlast
    rcases List.mem_append.1 hmem with hbelow | habovemem
    · exact (List.pairwise_append.1 hranks).2.2 higher hbelow last (by simp)
    · rcases List.mem_cons.1 habovemem with hsame | hupper
      · exact absurd hsame.symm hne
      · exact absurd (.inl ⟨value, hsets⟩) (habove higher hupper)
  refine (follow?_mergeLayers hvalue hkeys path).2
    ⟨below.map Layer.members, last.members, above.map Layer.members, ?_, by rw [heq, hsets], ?_⟩
  · rw [hsplit, List.map_append, List.map_cons]
  · intro data hdata
    obtain ⟨upper, hupper, rfl⟩ := List.mem_map.1 hdata
    exact habove upper hupper

/-- After a load that ends well the sources are the files that contribute something. What a load
checks are the merged layers, and a path leads to the value of the highest layer that settles it,
whatever the layers below have there. The log may be open meanwhile, as a log file is named
(`Desk.logNamed_configureLog`), so records of the load never end up in a layer. -/
theorem load_takes_highest_rank (world : World) (directory : String)
    (hcache : world.loaded.cache = none) (hlog : world.desk.LogNamed) :
    (∀ {settings after}, (load directory).perform world = (.ok settings, after) →
        after.loaded.sources = contributing (layers world directory)) ∧
      ∀ {data sources between},
        (merged directory).perform world = (.ok (data, sources), between) →
          (load directory).perform world =
            (match Settings.read (.obj data) with
              | .error violations =>
                (.error (.settings (sources.getLastD "<defaults>") violations), between)
              | .ok settings =>
                (.ok settings,
                  { between with loaded := { cache := some settings, sources } })) ∧
          ∀ {path value higher}, higher ∈ layers world directory → value.isObject = false →
            follow? path (.obj higher.members) = some value →
              (∀ other ∈ layers world directory, other ≠ higher → higher.rank ≤ other.rank →
                ¬ Settles path (.obj other.members)) →
              follow? path (.obj data) = some value := by
  refine ⟨fun hload => ?_, fun hmerged => ⟨perform_load hcache hmerged, ?_⟩⟩
  · obtain ⟨data, between, hmerged, -⟩ := merged_of_load_ok hcache hload
    exact (merged_ok hlog hmerged).2
  · intro path value higher hmem hvalue hsets honly
    rw [(merged_ok hlog hmerged).1]
    exact follow?_of_highest (pairwise_rank_layers world directory)
      (fun layer => distinctKeys_layers) hvalue hmem hsets honly

/-- A machine with settings at the root and in a directory below it, in files of different names. -/
def nestedWorld : World :=
  let settings (path : String) : Entry :=
    .file (Text.Utf8.encode ("\x7b\"julia\":\x7b\"path\":\"" ++ path ++ "\"\x7d\x7d")) 0o644 0
  World.atStart
    { files := ((FileTree.empty.put ["p"] (.dir 0o755 0)).put ["julials.json"] (settings "a")).put
        ["p", "julials.jsonc"] (settings "b")
      env := [("XDG_CONFIG_HOME", "/")]
      cwd := "/p"
      now := 0 }

/-- The layer of the file in the directory below the root. -/
def innerLayer : Layer := ⟨2, some "/p/julials.jsonc", [("julia", .obj [("path", .str "b")])]⟩

/-- The file below the root decides, and both files are sources. -/
theorem load_takes_inner_file :
    (∃ settings after, (load ".").perform nestedWorld = (.ok settings, after) ∧
      after.loaded.sources = contributing (layers nestedWorld ".")) ∧
    ∃ data sources between, (merged ".").perform nestedWorld = (.ok (data, sources), between) ∧
      follow? ["julia", "path"] (.obj data) = some (.str "b") := by
  obtain ⟨hsources, hdecides⟩ := load_takes_highest_rank nestedWorld "." rfl
    (Desk.logNamed_of_opened_eq_none rfl)
  constructor
  · obtain ⟨settings, after, hload⟩ : ∃ settings after,
        (load ".").perform nestedWorld = (.ok settings, after) :=
      Step.exists_run_of_isOk (by decide +kernel)
    exact ⟨settings, after, hload, hsources hload⟩
  · obtain ⟨⟨data, sources⟩, between, hmerged⟩ : ∃ layered between,
        (merged ".").perform nestedWorld = (.ok layered, between) :=
      Step.exists_run_of_isOk (by decide +kernel)
    have hmem : innerLayer ∈ layers nestedWorld "." := by decide +kernel
    have halone : ∀ other ∈ layers nestedWorld ".", other ≠ innerLayer →
        innerLayer.rank ≤ other.rank → other.members = [] := by decide +kernel
    refine ⟨data, sources, between, hmerged, ?_⟩
    refine (hdecides hmerged).2 hmem rfl rfl fun other hother hne hrank => ?_
    rw [halone other hother hne hrank]
    exact not_settles_of_get?_eq_none rfl _

end JuliaSession.Config
