import JuliaSession.Proofs.Log.FileNames

/-!
# Rotation of log files

Before a log file is opened, the stamped files in its directory are sorted by their times of change,
and all but the newest are removed.

* `Log.outdated_eq`: a list with times is split into the newest ones and the ones to go.
* `FileTree.Removed`: the files at some places were removed, and nothing else changed.
* `Desk.removeAll_removed`: that is what removing one file after the other does, up to the first
  failure.
* `Desk.makeRoom`: what happens before the file is opened. `Desk.makeRoom_changes` is what it does
  in any case, `Desk.makeRoom_ok` if it ends well.
-/

namespace JuliaSession

/-! ### The newest files -/

/-- The files to go are older than the ones that stay. -/
theorem Log.outdated_eq (files : List (String × Int)) :
    ∃ newer older : List (String × Int), outdated files = older.map Prod.fst ∧
      (newer ++ older).Perm files ∧ newer.length = min files.length (keptFiles - 1) ∧
        ∀ recent ∈ newer, ∀ old ∈ older, old.2 ≤ recent.2 := by
  have hsorted : (files.mergeSort fun a b => a.2 ≤ b.2).Pairwise fun a b => a.2 ≤ b.2 := by
    refine List.Pairwise.imp of_decide_eq_true (List.pairwise_mergeSort ?_ ?_ files)
    · intro a b c hab hbc
      exact decide_eq_true ((of_decide_eq_true hab).trans (of_decide_eq_true hbc))
    · intro a b
      rw [Bool.or_eq_true, decide_eq_true_eq, decide_eq_true_eq]
      exact le_total a.2 b.2
  have hperm := List.mergeSort_perm files fun a b => decide (a.2 ≤ b.2)
  unfold outdated
  dsimp only
  generalize (files.mergeSort fun a b => decide (a.2 ≤ b.2)) = sorted at hsorted hperm ⊢
  have hlength := hperm.length_eq
  -- the oldest come first, and as many of them go as there are too many
  generalize hcount : files.length - (keptFiles - 1) = count
  rw [← List.take_append_drop count sorted, List.pairwise_append] at hsorted
  refine ⟨sorted.drop count, sorted.take count, rfl, ?_, ?_, ?_⟩
  · exact List.perm_append_comm.trans ((List.take_append_drop count sorted).symm ▸ hperm)
  · rw [List.length_drop]
    omega
  · exact fun recent hrecent old hold => hsorted.2.2 old hold recent hrecent

namespace FileTree

variable {tree before after : FileTree} {cwd path : String} {place dir : Place}

/-- The names in a directory that are those of log files named for a moment. -/
def stampedNames (tree : FileTree) (dir : Place) : List String :=
  (tree.names dir).filter Log.isStampedName

/-- When what is at a place was changed last. -/
def changedAt (tree : FileTree) (place : Place) : Int :=
  ((tree.entry? place).map Entry.changed).getD 0

/-- The stamped names in a directory are split into the newest, of which there are as many as leave
room for one more, and the others. -/
structure SplitByAge (tree : FileTree) (dir : Place) (kept gone : List String) : Prop where
  /-- Every name is on one side. -/
  names : (kept ++ gone).Perm (tree.stampedNames dir)
  /-- So many are kept. -/
  room : kept.length = min (tree.stampedNames dir).length (Log.keptFiles - 1)
  /-- What is kept was not changed before what is not. -/
  newest : ∀ recent ∈ kept, ∀ old ∈ gone,
    tree.changedAt (dir ++ [old]) ≤ tree.changedAt (dir ++ [recent])

/-- The stamped names in a directory with their times are split by age. -/
theorem splitByAge_outdated (tree : FileTree) (dir : Place) :
    ∃ kept, tree.SplitByAge dir kept (Log.outdated
      ((tree.stampedNames dir).map fun name => (name, tree.changedAt (dir ++ [name])))) := by
  generalize hfound : (tree.stampedNames dir).map
    (fun name => (name, tree.changedAt (dir ++ [name]))) = found
  obtain ⟨newer, older, houtdated, hperm, hlength, hnewest⟩ := Log.outdated_eq found
  have hnames : found.map Prod.fst = tree.stampedNames dir := by
    rw [← hfound, List.map_map]
    exact List.map_id _
  have htime : ∀ pair ∈ newer ++ older, pair.2 = tree.changedAt (dir ++ [pair.1]) := by
    intro pair hpair
    have hmem := hperm.subset hpair
    rw [← hfound] at hmem
    obtain ⟨name, -, rfl⟩ := List.mem_map.1 hmem
    rfl
  rw [houtdated]
  refine ⟨newer.map Prod.fst, ⟨?_, ?_, ?_⟩⟩
  · rw [← List.map_append, ← hnames]
    exact hperm.map Prod.fst
  · rw [List.length_map, hlength, ← hnames, List.length_map]
  · intro recentName hrecentName oldName holdName
    obtain ⟨recent, hrecent, rfl⟩ := List.mem_map.1 hrecentName
    obtain ⟨old, hold, rfl⟩ := List.mem_map.1 holdName
    rw [← htime recent (List.mem_append_left _ hrecent),
      ← htime old (List.mem_append_right _ hold)]
    exact hnewest recent hrecent old hold

/-- Something is where the path of what has a time leads. -/
theorem stat_ok {entry : Entry} (h : tree.stat cwd path = .ok entry) :
    ∃ place, tree.locate cwd path = .ok place ∧ tree.entry? place = some entry := by
  unfold stat at h
  split at h
  · cases h
  next place hlocate =>
    split at h
    · cases h
    next hentry =>
      cases h
      exact ⟨place, hlocate, hentry⟩

/-! ### Removed files -/

/-- The files at some places were removed, and nothing else changed. -/
structure Removed (before after : FileTree) (gone : List Place) : Prop where
  /-- Nothing is where a file is gone, and all else is as it was. -/
  entry? : ∀ place, after.entry? place = if place ∈ gone then none else before.entry? place
  /-- No directory is gone. -/
  dirs : SameDirs before after
  /-- A sound tree stays sound. -/
  sound : before.Sound → after.Sound

theorem Removed.refl (tree : FileTree) : Removed tree tree [] :=
  ⟨fun _ => (if_neg List.not_mem_nil).symm, .refl tree, id⟩

theorem Removed.trans {first : FileTree} {gone more : List Place} (h : Removed first before gone)
    (h' : Removed before after more) : Removed first after (gone ++ more) where
  entry? place := by
    rw [h'.entry?, h.entry?]
    by_cases hmore : place ∈ more
    · rw [if_pos hmore, if_pos (List.mem_append_right _ hmore)]
    · simp only [List.mem_append, hmore, or_false, if_false]
  dirs := h.dirs.trans h'.dirs
  sound hsound := h'.sound (h.sound hsound)

/-- What is not a directory is removed from where its path leads. -/
theorem removed_remove (h : tree.isDirectory cwd path = false) :
    Removed tree (tree.remove cwd path) (tree.locate cwd path).toOption.toList := by
  have hsound : tree.Sound → (tree.remove cwd path).Sound := fun hsound => hsound.remove cwd path
  unfold isDirectory find? at h
  unfold remove at hsound ⊢
  cases hlocate : tree.locate cwd path with
  | error reason => exact .refl tree
  | ok place =>
    rw [hlocate] at h hsound
    dsimp only at h hsound
    -- the root is a directory, so it is not what is removed
    have hplace : place ≠ [] := by
      rintro rfl
      rw [entry?_root] at h
      cases h
    have hentry : ∀ other,
        FileTree.entry? ⟨Assoc.erase place tree.entries, tree.changes + 1⟩ other =
          if other ∈ [place] then none else tree.entry? other := by
      intro other
      unfold FileTree.entry?
      rw [Assoc.get?_erase]
      by_cases hother : other = []
      · rw [if_pos hother, if_pos hother, if_neg]
        rw [List.mem_singleton, hother]
        exact hplace.symm
      · simp only [hother, if_false, List.mem_singleton]
    refine ⟨hentry, fun other => ?_, hsound⟩
    rw [hentry]
    split_ifs with hother
    · rw [List.mem_singleton.1 hother, h]
      rfl
    · rfl

end FileTree

namespace Desk

open FileTree (IsName DirAt Extends Removed SplitByAge)

variable {desk after : Desk} {dir : String} {place : Place}

/-- The desk with other files. -/
def withFiles (desk : Desk) (files : FileTree) : Desk :=
  { desk with machine := { desk.machine with files } }

@[simp]
theorem files_withFiles (desk : Desk) (files : FileTree) :
    (desk.withFiles files).machine.files = files := rfl

@[simp]
theorem cwd_withFiles (desk : Desk) (files : FileTree) :
    (desk.withFiles files).machine.cwd = desk.machine.cwd := rfl

@[simp]
theorem now_withFiles (desk : Desk) (files : FileTree) :
    (desk.withFiles files).machine.now = desk.machine.now := rfl

@[simp]
theorem withFiles_withFiles (desk : Desk) (files more : FileTree) :
    (desk.withFiles files).withFiles more = desk.withFiles more := rfl

/-- Where the paths of some names in a directory lead. -/
def placesIn (desk : Desk) (dir : String) (names : List String) : List Place :=
  names.filterMap fun name =>
    (desk.machine.files.locate desk.machine.cwd (Path.child dir name)).toOption

theorem placesIn_cons (desk : Desk) (dir name : String) (rest : List String) :
    desk.placesIn dir (name :: rest) =
      (desk.machine.files.locate desk.machine.cwd (Path.child dir name)).toOption.toList ++
        desk.placesIn dir rest := by
  unfold placesIn
  rw [List.filterMap_cons]
  cases (desk.machine.files.locate desk.machine.cwd (Path.child dir name)).toOption <;> rfl

/-- Removing files leads to the same places before and after. -/
theorem placesIn_withFiles {files : FileTree} (h : desk.machine.files.SameDirs files) (dir : String)
    (names : List String) : (desk.withFiles files).placesIn dir names = desk.placesIn dir names :=
  List.filterMap_congr fun name _ => h.toOption_locate desk.machine.cwd (Path.child dir name)

theorem removeAll_cons (desk : Desk) (dir name : String) (rest : List String) :
    desk.removeAll dir (name :: rest) =
      if desk.machine.isDirectory (Path.child dir name) then
        (.error (.os ⟨.isDirectory, Path.child dir name⟩), desk)
      else
        (desk.withFiles
          (desk.machine.files.remove desk.machine.cwd (Path.child dir name))).removeAll dir rest :=
  rfl

/-- Files are removed one after the other, up to a directory among them. -/
theorem removeAll_removed (desk : Desk) (dir : String) (names : List String) :
    ∃ done files, done <+: names ∧ (desk.removeAll dir names).2 = desk.withFiles files ∧
      Removed desk.machine.files files (desk.placesIn dir done) ∧
        ((desk.removeAll dir names).1 = .ok () → done = names) := by
  induction names generalizing desk with
  | nil => exact ⟨[], desk.machine.files, List.prefix_rfl, rfl, .refl _, fun _ => rfl⟩
  | cons name rest ih =>
    rw [removeAll_cons]
    -- a directory stops the removal, and what comes after it stays
    split_ifs with hdir
    · exact ⟨[], desk.machine.files, List.nil_prefix, rfl, .refl _, nofun⟩
    · have hremoved := FileTree.removed_remove (Bool.eq_false_iff.2 hdir)
      obtain ⟨done, files, hprefix, heq, hrest, hall⟩ := ih
        (desk.withFiles (desk.machine.files.remove desk.machine.cwd (Path.child dir name)))
      rw [placesIn_withFiles hremoved.dirs, files_withFiles] at hrest
      rw [withFiles_withFiles] at heq
      refine ⟨name :: done, files, (List.prefix_cons_inj name).2 hprefix, heq, ?_,
        fun hok => congrArg _ (hall hok)⟩
      rw [placesIn_cons]
      exact hremoved.trans hrest

/-- Removing some files is all that rotation does, also if it fails. -/
theorem rotate_removed (desk : Desk) (dir : String) :
    ∃ gone files, (desk.rotate dir).2 = desk.withFiles files ∧
      Removed desk.machine.files files gone := by
  unfold rotate
  split
  · exact ⟨[], desk.machine.files, rfl, .refl _⟩
  next found _ =>
    obtain ⟨done, files, -, heq, hremoved, -⟩ := removeAll_removed desk dir (Log.outdated found)
    exact ⟨_, files, heq, hremoved⟩

variable {machine : Machine}

/-- The stamped files that are found are those in the directory, with their times of change. -/
theorem stampedFiles_ok (hsound : desk.machine.files.Sound)
    (hdir : desk.machine.files.DirAt desk.machine.cwd (Directories.log machine) place)
    {found : List (String × Int)} (h : desk.stampedFiles (Directories.log machine) = .ok found) :
    found = (desk.machine.files.stampedNames place).map (fun name =>
        (name, desk.machine.files.changedAt (place ++ [name]))) ∧
      ∀ name ∈ desk.machine.files.stampedNames place,
        desk.machine.files.locate desk.machine.cwd (Path.child (Directories.log machine) name) =
          .ok (place ++ [name]) := by
  unfold stampedFiles at h
  rw [hdir.list?, Option.getD_some] at h
  dsimp only at h
  -- each of the names is found where it is in the directory
  have hfound : ∀ name ∈ desk.machine.files.stampedNames place, ∀ entry,
      desk.machine.files.stat desk.machine.cwd (Path.child (Directories.log machine) name) =
          .ok entry →
        desk.machine.files.locate desk.machine.cwd (Path.child (Directories.log machine) name) =
            .ok (place ++ [name]) ∧
          desk.machine.files.entry? (place ++ [name]) = some entry := by
    intro name hname entry hstat
    obtain ⟨other, hlocate, hentry⟩ := FileTree.stat_ok hstat
    have hother := hdir.locate_log (hsound.isName_of_mem_names (List.mem_filter.1 hname).1) hlocate
    rw [hother] at hlocate hentry
    exact ⟨hlocate, hentry⟩
  unfold FileTree.stampedNames at hfound ⊢
  generalize (desk.machine.files.names place).filter Log.isStampedName = names at h hfound ⊢
  induction names generalizing found with
  | nil =>
    rw [List.mapM_nil] at h
    cases h
    exact ⟨rfl, fun _ hname => absurd hname List.not_mem_nil⟩
  | cons name rest ih =>
    rw [List.mapM_cons] at h
    obtain ⟨pair, hpair, h⟩ := bind_eq_ok_iff.1 h
    obtain ⟨others, hothers, h⟩ := bind_eq_ok_iff.1 h
    obtain ⟨entry, hstat, hpair⟩ := bind_eq_ok_iff.1 hpair
    cases h
    cases hpair
    rw [List.forall_mem_cons] at hfound
    obtain ⟨hlocate, hentry⟩ := hfound.1 entry hstat
    obtain ⟨hmap, hall⟩ := ih hothers hfound.2
    refine ⟨?_, List.forall_mem_cons.2 ⟨hlocate, hall⟩⟩
    rw [List.map_cons, ← hmap, FileTree.changedAt, hentry]
    rfl

/-- Rotation removes all stamped files but the newest. -/
theorem rotate_ok (hsound : desk.machine.files.Sound)
    (hdir : desk.machine.files.DirAt desk.machine.cwd (Directories.log machine) place)
    (h : desk.rotate (Directories.log machine) = (.ok (), after)) :
    ∃ kept gone files, desk.machine.files.SplitByAge place kept gone ∧
      after = desk.withFiles files ∧
        Removed desk.machine.files files (gone.map fun name => place ++ [name]) := by
  unfold rotate at h
  split at h
  · cases h
  next found hfiles =>
    obtain ⟨rfl, hlocate⟩ := stampedFiles_ok hsound hdir hfiles
    obtain ⟨kept, hsplit⟩ := FileTree.splitByAge_outdated desk.machine.files place
    generalize Log.outdated _ = gone at h hsplit
    obtain ⟨done, files, -, heq, hremoved, hall⟩ :=
      removeAll_removed desk (Directories.log machine) gone
    rw [h] at heq hall
    obtain rfl := hall rfl
    -- the stamped files lie where their names say, as all of them were found in this directory
    have hplaces : desk.placesIn (Directories.log machine) done =
        done.map fun name => place ++ [name] := by
      refine Eq.trans (List.filterMap_congr fun name hname => ?_)
        (congrFun (@List.filterMap_eq_map _ _ fun name => place ++ [name]) _)
      rw [hlocate name (hsplit.names.subset (List.mem_append_right _ hname))]
      rfl
    rw [hplaces] at hremoved
    exact ⟨kept, done, files, hsplit, heq, hremoved⟩

/-! ### Making room -/

/-- Make the directory of the log files, and room in it for one more. -/
def makeRoom (desk : Desk) : Except Failure Unit × Desk :=
  match desk.machine.files.makeDirs desk.machine.cwd (Directories.log desk.machine) with
  | .error fault => (.error (.os fault), desk)
  | .ok files => (desk.withFiles files).rotate (Directories.log desk.machine)

theorem removeAll_withLog (desk : Desk) (log : Log.State) (dir : String) (names : List String) :
    ({ desk with log } : Desk).removeAll dir names =
      ((desk.removeAll dir names).1, { (desk.removeAll dir names).2 with log }) := by
  induction names generalizing desk with
  | nil => rfl
  | cons name rest ih =>
    rw [removeAll_cons, removeAll_cons]
    dsimp only
    split_ifs
    · rfl
    · exact ih (desk.withFiles _)

/-- What is remembered has no part in making room. -/
theorem makeRoom_withLog (desk : Desk) (log : Log.State) :
    ({ desk with log } : Desk).makeRoom = (desk.makeRoom.1, { desk.makeRoom.2 with log }) := by
  unfold makeRoom
  dsimp only
  split
  · rfl
  next files _ =>
    unfold rotate
    have hfiles : (({ desk with log } : Desk).withFiles files).stampedFiles
        (Directories.log desk.machine) =
          (desk.withFiles files).stampedFiles (Directories.log desk.machine) := rfl
    rw [hfiles]
    split
    · rfl
    · exact removeAll_withLog (desk.withFiles files) log _ _

/-- Room is made before the file is opened. -/
theorem openLog_eq (desk : Desk) (dev : Bool) :
    desk.openLog dev =
      match desk.makeRoom with
      | (.error failure, room) => (.error failure, room)
      | (.ok (), room) =>
        match room.logFileName dev with
        | .error failure => (.error failure, room)
        | .ok name => room.openFile (Path.child (Directories.log desk.machine) name) := by
  unfold openLog makeRoom withFiles
  -- a failure on the way ends both alike
  cases hmade : desk.machine.files.makeDirs desk.machine.cwd (Directories.log desk.machine) with
  | error fault => simp only [hmade]
  | ok files =>
    rcases hroom : ({ desk with machine := { desk.machine with files } } : Desk).rotate
      (Directories.log desk.machine) with ⟨failure | _, room⟩
    · simp only [hmade, hroom]
    · cases hname : room.logFileName dev with
      | error failure => simp only [hmade, hroom, hname]
      | ok name => simp only [hmade, hroom, hname]

/-- The directory of the log files is there if it could be made. -/
theorem makeDirs_log {made : FileTree}
    (h : desk.machine.files.makeDirs desk.machine.cwd (Directories.log desk.machine) = .ok made) :
    Extends desk.machine.files made ∧
      ∃ place, made.DirAt desk.machine.cwd (Directories.log desk.machine) place := by
  have hmade := FileTree.makeDirs_ok h
  rw [Directories.tidy_log] at hmade
  exact hmade (Directories.bare_log desk.machine)

/-- Making room changes nothing but the files: directories may be new and files gone. -/
theorem makeRoom_changes (desk : Desk) :
    ∃ made gone files, desk.makeRoom.2 = desk.withFiles files ∧
      Extends desk.machine.files made ∧ Removed made files gone := by
  unfold makeRoom
  split
  · exact ⟨desk.machine.files, [], desk.machine.files, rfl, .refl _, .refl _⟩
  next made hmade =>
    obtain ⟨gone, files, heq, hremoved⟩ :=
      rotate_removed (desk.withFiles made) (Directories.log desk.machine)
    exact ⟨made, gone, files, heq, (makeDirs_log hmade).1, hremoved⟩

/-- Room is made by removing all stamped files but the newest. -/
theorem makeRoom_ok {room : Desk} (hsound : desk.machine.files.Sound)
    (h : desk.makeRoom = (.ok (), room)) :
    ∃ made place kept gone files,
      desk.machine.files.makeDirs desk.machine.cwd (Directories.log desk.machine) = .ok made ∧
        Extends desk.machine.files made ∧
          made.DirAt desk.machine.cwd (Directories.log desk.machine) place ∧
            made.SplitByAge place kept gone ∧ room = desk.withFiles files ∧
              Removed made files (gone.map fun name => place ++ [name]) := by
  unfold makeRoom at h
  split at h
  · cases h
  next made hmade =>
    obtain ⟨hextends, place, hdir⟩ := makeDirs_log hmade
    have hmadeSound : (desk.withFiles made).machine.files.Sound := hextends.sound hsound
    obtain ⟨kept, gone, files, hsplit, hroom, hremoved⟩ := rotate_ok hmadeSound hdir h
    exact ⟨made, place, kept, gone, files, hmade, hextends, hdir, hsplit, hroom, hremoved⟩

end Desk

end JuliaSession
