import Mathlib.Data.List.Basic
import Mathlib.Data.List.Nodup
import JuliaSession.Proofs.Machine.Logging

/-!
# Places in a tree of files

A tree is sound if no place is given twice and every name on the way to a place is one that a file
can have. Every operation keeps a tree sound, since a path only leads to such places. In a sound
tree the names in a directory are those of the places right below it, each once, and the path of a
name in the directory leads to that place.

* `IsName`, `Sound`: names of files, and trees as a file system has them.
* `Sound.isName_of_locate`: a path leads to a place with names of files.
* `mem_names_iff`, `Sound.nodup_names`: the names in a directory.
* `DirAt.locate_child`: where the path of a name in a directory leads.
* `Extends`: what makes directories and nothing else keeps all that is there.
* `makeDirs_ok`: a directory that is made is there afterwards.
* `content?`: the bytes at a place. `modify_ok` is how writing changes them.
-/

namespace JuliaSession

/-- The bytes of a file. -/
def Entry.content? : Entry → Option Text.Utf8.Bytes
  | file content _ _ => some content
  | dir .. => none

namespace FileTree

variable {tree before after : FileTree} {cwd path : String} {place : Place}

/-! ### Names -/

/-- A name that a file can have in its directory. -/
structure IsName (name : String) : Prop where
  /-- It is a segment of paths that counts. -/
  clean : Path.Clean [name.toList]
  /-- It does not lead to the directory above. -/
  ne_up : name ≠ ".."
  /-- The system can take it. -/
  nul : Char.ofNat 0 ∉ name.toList
  /-- It is not too long. -/
  size : name.utf8ByteSize ≤ nameLimit

theorem IsName.ne_empty {name : String} (h : IsName name) : name ≠ "" := by
  rintro rfl
  exact (h.clean [] (List.mem_singleton_self _)).1 rfl

theorem IsName.ne_dot {name : String} (h : IsName name) : name ≠ "." := by
  rintro rfl
  exact (h.clean ['.'] (List.mem_singleton_self _)).2.1 rfl

theorem IsName.slash {name : String} (h : IsName name) : '/' ∉ name.toList :=
  (h.clean name.toList (List.mem_singleton_self _)).2.2

/-- A segment of a path that counts and is not too long is the name of a file. -/
theorem isName_of_segment {seg : String} (hslash : '/' ∉ seg.toList)
    (hnul : Char.ofNat 0 ∉ seg.toList) (hempty : seg ≠ "") (hdot : seg ≠ ".") (hup : seg ≠ "..")
    (hsize : seg.utf8ByteSize ≤ nameLimit) : IsName seg where
  clean name hname := by
    rw [List.mem_singleton.1 hname]
    exact ⟨fun heq => hempty (String.toList_injective heq),
      fun heq => hdot (String.toList_injective heq), hslash⟩
  ne_up := hup
  nul := hnul
  size := hsize

instance (name : String) : Decidable (IsName name) :=
  decidable_of_iff
    ((∀ seg ∈ [name.toList], seg ≠ [] ∧ seg ≠ ['.'] ∧ '/' ∉ seg) ∧ name ≠ ".." ∧
      Char.ofNat 0 ∉ name.toList ∧ name.utf8ByteSize ≤ nameLimit)
    ⟨fun h => ⟨h.1, h.2.1, h.2.2.1, h.2.2.2⟩, fun h => ⟨h.clean, h.ne_up, h.nul, h.size⟩⟩

/-- A tree as a file system has it. -/
structure Sound (tree : FileTree) : Prop where
  /-- No place is given twice. -/
  nodup : (Assoc.keys tree.entries).Nodup
  /-- The names that lead to a place are names of files. -/
  isName : ∀ place ∈ Assoc.keys tree.entries, ∀ name ∈ place, IsName name

instance (tree : FileTree) : Decidable tree.Sound :=
  decidable_of_iff
    ((Assoc.keys tree.entries).Nodup ∧
      ∀ place ∈ Assoc.keys tree.entries, ∀ name ∈ place, IsName name)
    ⟨fun h => ⟨h.1, h.2⟩, fun h => ⟨h.nodup, h.isName⟩⟩

theorem entry?_root (tree : FileTree) : tree.entry? [] = some (.dir 0o755 0) := if_pos rfl

theorem ne_nil_of_entry?_eq_none (h : tree.entry? place = none) : place ≠ [] := by
  rintro rfl
  rw [entry?_root] at h
  exact Option.some_ne_none _ h

theorem entry?_of_ne_nil (h : place ≠ []) : tree.entry? place = Assoc.get? place tree.entries :=
  if_neg h

/-- Where a directory is, there is something. -/
theorem entry_of_isDir (h : (tree.entry? place).any Entry.isDir = true) :
    ∃ entry, tree.entry? place = some entry := by
  obtain ⟨entry, hentry, -⟩ := (Option.any_eq_true _ _).1 h
  exact ⟨entry, hentry⟩

theorem Sound.isName_of_entry? (h : tree.Sound) {entry : Entry}
    (hentry : tree.entry? place = some entry) : ∀ name ∈ place, IsName name := by
  by_cases hplace : place = []
  · rw [hplace]
    exact fun _ hname => absurd hname List.not_mem_nil
  · rw [entry?_of_ne_nil hplace] at hentry
    refine h.isName place (Assoc.has_iff_mem_keys.1 ?_)
    rw [Assoc.has, hentry, Option.isSome_some]

/-! ### Following paths -/

theorem walk_nil (start : Place) : tree.walk start [] = .ok start := rfl

/-- A path goes on only from a directory. -/
theorem dir_of_walk {start : Place} {seg : String} {rest : List String}
    (h : tree.walk start (seg :: rest) = .ok place) :
    (tree.entry? start).any Entry.isDir = true := by
  rw [walk] at h
  split at h
  · cases h
  · cases h
  next hentry =>
    rw [hentry]
    rfl

theorem walk_append (start : Place) (segs more : List String) :
    tree.walk start (segs ++ more) =
      (tree.walk start segs).bind fun between => tree.walk between more := by
  induction segs generalizing start with
  | nil => rfl
  | cons seg rest ih =>
    rw [List.cons_append, walk, walk]
    cases tree.entry? start with
    | none => rfl
    | some entry =>
      cases entry with
      | file => rfl
      | dir =>
        dsimp only
        -- a segment stays where it is, goes up, is too long for a name, or goes down
        split_ifs
        · exact ih start
        · exact ih start.dropLast
        · rfl
        · exact ih (start ++ [seg])

/-- A name in a directory is gone to. -/
theorem walk_name (hdir : (tree.entry? place).any Entry.isDir = true) {name : String}
    (hname : IsName name) : tree.walk place [name] = .ok (place ++ [name]) := by
  obtain ⟨entry, hentry, hisDir⟩ := (Option.any_eq_true _ _).1 hdir
  cases entry with
  | file => cases hisDir
  | dir =>
    rw [walk, hentry]
    dsimp only
    rw [if_neg (not_or.2 ⟨hname.ne_empty, hname.ne_dot⟩), if_neg hname.ne_up,
      if_neg (Nat.not_lt.2 hname.size), walk_nil]

/-- Where a path is followed from. -/
def startOf (cwd path : String) : Place :=
  if Path.isAbsolute path.toList then [] else placeOf cwd

theorem locate_eq_ok_iff :
    tree.locate cwd path = .ok place ↔
      Char.ofNat 0 ∉ path.toList ∧ path ≠ "" ∧ path.utf8ByteSize ≤ pathLimit ∧
        tree.walk (startOf cwd path) (Text.split path '/') = .ok place := by
  unfold locate startOf
  generalize (if Path.isAbsolute path.toList = true then [] else placeOf cwd) = start
  constructor
  · intro h
    split_ifs at h with hnul hempty hsize
    exact ⟨hnul, hempty, Nat.not_lt.1 hsize, h⟩
  · rintro ⟨hnul, hempty, hsize, hwalk⟩
    rw [if_neg hnul, if_neg hempty, if_neg (Nat.not_lt.2 hsize), hwalk]

/-- Following a path keeps to names of files. -/
theorem isName_of_walk {segs : List String}
    (hsegs : ∀ seg ∈ segs, '/' ∉ seg.toList ∧ Char.ofNat 0 ∉ seg.toList) {start : Place}
    (hstart : ∀ name ∈ start, IsName name) (hwalk : tree.walk start segs = .ok place) :
    ∀ name ∈ place, IsName name := by
  induction segs generalizing start with
  | nil =>
    cases hwalk
    exact hstart
  | cons seg rest ih =>
    rw [List.forall_mem_cons] at hsegs
    rw [walk] at hwalk
    split at hwalk
    · cases hwalk
    · cases hwalk
    · split_ifs at hwalk with hskip hup hsize
      · exact ih hsegs.2 hstart hwalk
      · exact ih hsegs.2 (fun name hname => hstart name (List.dropLast_subset _ hname)) hwalk
      · refine ih hsegs.2 (fun name hname => ?_) hwalk
        rcases List.mem_append.1 hname with hname | hname
        · exact hstart name hname
        · rw [List.mem_singleton.1 hname]
          obtain ⟨hempty, hdot⟩ := not_or.1 hskip
          exact isName_of_segment hsegs.1.1 hsegs.1.2 hempty hdot hup (Nat.not_lt.1 hsize)

/-- A path leads to a place with names of files, whatever its text is. -/
theorem Sound.isName_of_locate (h : tree.Sound) (hlocate : tree.locate cwd path = .ok place) :
    ∀ name ∈ place, IsName name := by
  obtain ⟨hnul, -, -, hwalk⟩ := locate_eq_ok_iff.1 hlocate
  have hsegs : ∀ seg ∈ Text.split path '/', '/' ∉ seg.toList ∧ Char.ofNat 0 ∉ seg.toList := by
    intro seg hseg
    obtain ⟨piece, hpiece, rfl⟩ := List.mem_map.1 hseg
    rw [String.toList_ofList]
    exact ⟨Text.not_mem_of_mem_splitOnChar hpiece,
      fun hmem => hnul (Text.subset_of_mem_splitOnChar hpiece hmem)⟩
  -- what the path is followed from is there, as the path goes on from it
  have hstart : ∀ name ∈ startOf cwd path, IsName name := by
    obtain ⟨seg, rest, hsplit⟩ : ∃ seg rest, Text.split path '/' = seg :: rest :=
      List.exists_cons_of_ne_nil (by simp [Text.split, Text.splitOnChar_ne_nil])
    rw [hsplit] at hwalk
    obtain ⟨entry, hentry⟩ := entry_of_isDir (dir_of_walk hwalk)
    exact h.isName_of_entry? hentry
  exact isName_of_walk hsegs hstart hwalk

/-! ### Changes of a sound tree -/

theorem Sound.put (h : tree.Sound) (hplace : ∀ name ∈ place, IsName name) (entry : Entry) :
    Sound (tree.put place entry) where
  nodup := Assoc.nodup_keys_insert h.nodup place entry
  isName other hother := by
    rcases Assoc.has_insert_iff.1 (Assoc.has_iff_mem_keys.2 hother) with rfl | hother
    · exact hplace
    · exact h.isName other (Assoc.has_iff_mem_keys.1 hother)

theorem Sound.remove (h : tree.Sound) (cwd path : String) : Sound (tree.remove cwd path) := by
  unfold FileTree.remove
  split
  · exact h
  · refine ⟨Assoc.nodup_keys_erase h.nodup _, fun other hother => ?_⟩
    exact h.isName other
      (Assoc.has_iff_mem_keys.1 (Assoc.has_erase_iff.1 (Assoc.has_iff_mem_keys.2 hother)).2)

theorem Sound.modify (h : tree.Sound) {change : Text.Utf8.Bytes → Text.Utf8.Bytes}
    (hmodify : tree.modify cwd path change = .ok after) : after.Sound := by
  unfold FileTree.modify at hmodify
  split at hmodify
  · cases hmodify
  next found hfound =>
    have hnames := h.isName_of_locate (locate_of_locateFile hfound)
    split at hmodify
    · cases hmodify
    · cases hmodify
      exact h.put hnames _
    · split at hmodify
      · cases hmodify
        exact h.put hnames _
      · cases hmodify
      · cases hmodify

/-! ### The names in a directory -/

/-- The name of a place in its directory. -/
def nameIn (dir place : Place) : Option String :=
  if place.dropLast = dir then place.getLast? else none

theorem nameIn_eq_some_iff {dir : Place} {name : String} :
    nameIn dir place = some name ↔ place = dir ++ [name] := by
  unfold nameIn
  constructor
  · intro h
    split_ifs at h with hdir
    rw [← hdir]
    exact (List.dropLast_append_getLast? name h).symm
  · rintro rfl
    rw [List.dropLast_concat, if_pos rfl, List.getLast?_concat]

theorem names_eq (tree : FileTree) (dir : Place) :
    tree.names dir = (Assoc.keys tree.entries).filterMap (nameIn dir) := by
  rw [Assoc.keys, List.filterMap_map]
  rfl

/-- The names in a directory are those of the places right below it. -/
theorem mem_names_iff {dir : Place} {name : String} :
    name ∈ tree.names dir ↔ (tree.entry? (dir ++ [name])).isSome = true := by
  rw [entry?_of_ne_nil (by simp), names_eq, List.mem_filterMap]
  constructor
  · rintro ⟨place, hplace, hname⟩
    rw [← nameIn_eq_some_iff.1 hname]
    exact Assoc.has_iff_mem_keys.2 hplace
  · exact fun h => ⟨_, Assoc.has_iff_mem_keys.1 h, nameIn_eq_some_iff.2 rfl⟩

theorem Sound.nodup_names (h : tree.Sound) (dir : Place) : (tree.names dir).Nodup := by
  rw [names_eq]
  refine List.Nodup.filterMap (fun first second name hfirst hsecond => ?_) h.nodup
  rw [nameIn_eq_some_iff.1 hfirst, nameIn_eq_some_iff.1 hsecond]

/-- A name in a directory is the name of a file. -/
theorem Sound.isName_of_mem_names (h : tree.Sound) {dir : Place} {name : String}
    (hname : name ∈ tree.names dir) : IsName name := by
  obtain ⟨entry, hentry⟩ := Option.isSome_iff_exists.1 (mem_names_iff.1 hname)
  exact h.isName_of_entry? hentry name (List.mem_append_right _ (List.mem_singleton_self _))

/-! ### Directories -/

/-- A path leads to a directory at a place. -/
structure DirAt (tree : FileTree) (cwd path : String) (place : Place) : Prop where
  /-- The path leads there. -/
  located : tree.locate cwd path = .ok place
  /-- There is a directory. -/
  isDir : (tree.entry? place).any Entry.isDir = true

/-- A path leads where it led while the directories are the same. -/
theorem SameDirs.locate_of_ok (h : SameDirs before after)
    (hlocate : before.locate cwd path = .ok place) : after.locate cwd path = .ok place := by
  rcases h.locate cwd path with heq | ⟨hfails, -⟩
  · rw [heq, hlocate]
  · rw [hlocate] at hfails
    rcases hfails with hfails | hfails <;> cases hfails

theorem DirAt.of_sameDirs (h : tree.DirAt cwd path place) (hsame : tree.SameDirs after) :
    after.DirAt cwd path place where
  located := hsame.locate_of_ok h.located
  isDir := by rw [hsame place, h.isDir]

theorem dirAt_of_isDirectory (h : tree.isDirectory cwd path = true) :
    ∃ place, tree.DirAt cwd path place := by
  unfold isDirectory find? at h
  cases hlocate : tree.locate cwd path with
  | error reason =>
    rw [hlocate] at h
    cases h
  | ok place =>
    rw [hlocate] at h
    exact ⟨place, hlocate, h⟩

theorem DirAt.list? (h : tree.DirAt cwd path place) :
    tree.list? cwd path = some (tree.names place) := by
  unfold FileTree.list?
  rw [h.located]
  exact if_pos h.isDir

/-- The path of a name in a directory leads there, if it is not too long. -/
theorem DirAt.locate_child (h : tree.DirAt cwd path place) {name : String} (hname : IsName name) :
    tree.locate cwd (String.ofList (path.toList ++ '/' :: name.toList)) =
      if pathLimit < (String.ofList (path.toList ++ '/' :: name.toList)).utf8ByteSize then
        .error .nameTooLong
      else .ok (place ++ [name]) := by
  obtain ⟨hnul, hempty, -, hwalk⟩ := locate_eq_ok_iff.1 h.located
  have hpath : path.toList ≠ [] := fun heq => hempty (String.toList_injective heq)
  have hsplit : Text.split (String.ofList (path.toList ++ '/' :: name.toList)) '/' =
      Text.split path '/' ++ [name] := by
    rw [Text.split, String.toList_ofList, Text.splitOnChar_append_cons,
      Text.splitOnChar_eq_singleton hname.slash, List.map_append, List.map_singleton,
      String.ofList_toList, Text.split]
  have habsolute : Path.isAbsolute (path.toList ++ '/' :: name.toList) =
      Path.isAbsolute path.toList := by
    obtain ⟨c, rest, hcons⟩ := List.exists_cons_of_ne_nil hpath
    rw [hcons, List.cons_append]
    simp only [Path.isAbsolute, Text.startsWith, Text.afterStart?]
    split <;> rfl
  have hnul' : Char.ofNat 0 ∉ path.toList ++ '/' :: name.toList := by
    rw [List.mem_append, List.mem_cons, not_or, not_or]
    exact ⟨hnul, by decide, hname.nul⟩
  have hempty' : String.ofList (path.toList ++ '/' :: name.toList) ≠ "" := by
    intro heq
    have hnil := congrArg String.toList heq
    rw [String.toList_ofList] at hnil
    exact List.append_ne_nil_of_left_ne_nil hpath _ hnil
  -- the walk goes to the directory first, and from there on to the name
  have hwalks : tree.walk (startOf cwd path) (Text.split path '/' ++ [name]) =
      .ok (place ++ [name]) := by
    rw [walk_append, hwalk]
    exact walk_name h.isDir hname
  unfold startOf at hwalks
  unfold locate
  rw [String.toList_ofList, if_neg hnul', if_neg hempty', habsolute, hsplit, hwalks]

/-! ### Making directories -/

/-- Directories were made, and all that was there is as it was. -/
structure Extends (before after : FileTree) : Prop where
  /-- What was there is as it was. -/
  kept : ∀ place entry, before.entry? place = some entry → after.entry? place = some entry
  /-- What is new is a directory. -/
  made : ∀ place entry, after.entry? place = some entry →
    before.entry? place = some entry ∨ entry.isDir = true
  /-- A sound tree stays sound. -/
  sound : before.Sound → after.Sound

theorem Extends.refl (tree : FileTree) : Extends tree tree := ⟨fun _ _ => id, fun _ _ => .inl, id⟩

theorem Extends.trans {first : FileTree} (h : Extends first before) (h' : Extends before after) :
    Extends first after where
  kept place entry hentry := h'.kept place entry (h.kept place entry hentry)
  made place entry hentry := (h'.made place entry hentry).elim (h.made place entry) .inr
  sound hsound := h'.sound (h.sound hsound)

theorem Extends.walk (h : Extends before after) {start : Place} {segs : List String}
    (hwalk : before.walk start segs = .ok place) : after.walk start segs = .ok place := by
  induction segs generalizing start with
  | nil => exact hwalk
  | cons seg rest ih =>
    rw [FileTree.walk] at hwalk ⊢
    split at hwalk
    · cases hwalk
    · cases hwalk
    next hentry =>
      rw [h.kept _ _ hentry]
      dsimp only
      split_ifs at hwalk ⊢
      · exact ih hwalk
      · exact ih hwalk
      · exact ih hwalk

/-- A path leads where it led. -/
theorem Extends.locate (h : Extends before after) (hlocate : before.locate cwd path = .ok place) :
    after.locate cwd path = .ok place := by
  obtain ⟨hnul, hempty, hsize, hwalk⟩ := locate_eq_ok_iff.1 hlocate
  exact locate_eq_ok_iff.2 ⟨hnul, hempty, hsize, h.walk hwalk⟩

/-- Nothing but a directory is put where nothing was. -/
theorem extends_put (hsound : tree.Sound → ∀ name ∈ place, IsName name)
    (hnone : tree.entry? place = none) (mode : Nat) (changed : Int) :
    Extends tree (tree.put place (.dir mode changed)) := by
  have hplace := ne_nil_of_entry?_eq_none hnone
  refine ⟨fun other entry hentry => ?_, fun other entry hentry => ?_, fun h => h.put (hsound h) _⟩
  · rw [entry?_put _ _ _ _ hplace, if_neg, hentry]
    rintro rfl
    rw [hnone] at hentry
    cases hentry
  · rw [entry?_put _ _ _ _ hplace] at hentry
    split_ifs at hentry
    · cases hentry
      exact .inr rfl
    · exact .inl hentry

/-- The path of a directory, without slashes behind a name. -/
def Bare (path : String) : Prop := Text.dropRightWhile (· = '/') path.toList = path.toList

/-- A path that ends with a name has no slash at its end. -/
theorem bare_of_suffix {tail : List Char} (hne : tail ≠ []) (hslash : '/' ∉ tail)
    (h : tail <:+ path.toList) : Bare path := by
  obtain ⟨front, hfront⟩ := h
  obtain ⟨more, c, rfl⟩ : ∃ more c, tail = more ++ [c] :=
    ⟨_, _, (List.dropLast_concat_getLast hne).symm⟩
  have hc : c ≠ '/' := fun heq =>
    hslash (heq ▸ List.mem_append_right _ (List.mem_singleton_self _))
  unfold Bare Text.dropRightWhile
  rw [← hfront, ← List.append_assoc, List.reverse_concat, List.dropWhile_cons_of_neg (by simpa),
    List.reverse_cons, List.reverse_reverse]

/-- A file is written where its path leads, if no slash at the end asks for a directory. -/
theorem locateFile_of_bare (h : Bare path) : tree.locateFile cwd path = tree.locate cwd path := by
  unfold locateFile
  dsimp only
  rw [h, String.length_toList, if_pos (.inl rfl)]

/-- A directory that is made is there afterwards. -/
theorem makeDir_ok (h : tree.makeDir cwd path = .ok after) :
    Extends tree after ∧ (Bare path → ∃ place, after.DirAt cwd path place) := by
  unfold makeDir at h
  dsimp only at h
  split at h
  · cases h
  next place hlocate =>
    split at h
    · cases h
    next hnone _ =>
      cases h
      have hextends := extends_put (fun hsound => hsound.isName_of_locate hlocate) hnone 0o755
        tree.now
      refine ⟨hextends, fun hbare => ⟨place, ?_, ?_⟩⟩
      · rw [hbare, String.ofList_toList, ite_self] at hlocate
        exact hextends.locate hlocate
      · rw [entry?_put _ _ _ _ (ne_nil_of_entry?_eq_none hnone), if_pos rfl]
        rfl
    · cases h
    · cases h

theorem ensureDir_ok (h : tree.ensureDir cwd path = .ok after) :
    Extends tree after ∧ (Bare path → ∃ place, after.DirAt cwd path place) := by
  unfold ensureDir at h
  split at h
  next hmake =>
    cases h
    exact makeDir_ok hmake
  next =>
    split_ifs at h with hdir
    cases h
    exact ⟨.refl tree, fun _ => dirAt_of_isDirectory hdir⟩

theorem makeDirsWithin_ok {depth : Nat} (h : tree.makeDirsWithin cwd depth path = .ok after) :
    Extends tree after ∧ (Bare path → ∃ place, after.DirAt cwd path place) := by
  induction depth generalizing path after with
  | zero =>
    rw [makeDirsWithin] at h
    exact ensureDir_ok h
  | succ depth ih =>
    rw [makeDirsWithin] at h
    split at h
    · -- the directory above is made first
      split at h
      next hparent =>
        obtain ⟨hextends, hdir⟩ := ensureDir_ok h
        exact ⟨(ih hparent).1.trans hextends, hdir⟩
      next => cases h
    · exact ensureDir_ok h

/-- A directory that is made with those above it is there afterwards, and all that was there is as
it was. -/
theorem makeDirs_ok (h : tree.makeDirs cwd path = .ok after) (hbare : Bare (Path.tidy path)) :
    Extends tree after ∧ ∃ place, after.DirAt cwd (Path.tidy path) place := by
  obtain ⟨hextends, hdir⟩ := makeDirsWithin_ok h
  exact ⟨hextends, hdir hbare⟩

/-- A directory that is there is left alone. -/
theorem makeDirs_of_dirAt (hbare : Bare (Path.tidy path))
    (h : tree.DirAt cwd (Path.tidy path) place) : tree.makeDirs cwd path = .ok tree := by
  obtain ⟨entry, hentry⟩ := entry_of_isDir h.isDir
  have hmake : tree.makeDir cwd (Path.tidy path) = .error ⟨.taken, Path.tidy path⟩ := by
    unfold makeDir
    dsimp only
    rw [hbare, String.ofList_toList, ite_self, h.located]
    dsimp only
    rw [hentry]
  have hdir : tree.isDirectory cwd (Path.tidy path) = true := by
    unfold isDirectory find?
    rw [h.located]
    exact h.isDir
  have hensure : tree.ensureDir cwd (Path.tidy path) = .ok tree := by
    unfold ensureDir
    rw [hmake]
    exact if_pos hdir
  unfold makeDirs
  dsimp only
  cases (Text.split (Path.tidy path) '/').length with
  | zero => exact hensure
  | succ depth =>
    rw [makeDirsWithin, hmake]
    exact hensure

/-! ### The content of files -/

/-- The bytes of the file at a place, if there is one. -/
def content? (tree : FileTree) (place : Place) : Option Text.Utf8.Bytes :=
  (tree.entry? place).bind Entry.content?

/-- A changed file has the changed content, and nothing else is changed. -/
theorem modify_ok {change : Text.Utf8.Bytes → Text.Utf8.Bytes}
    (h : tree.modify cwd path change = .ok after) :
    ∃ place mode changed, tree.locateFile cwd path = .ok place ∧ SameDirs tree after ∧
      ∀ other, after.entry? other =
        if other = place then some (.file (change ((tree.content? place).getD [])) mode changed)
        else tree.entry? other := by
  -- where the change takes place is known; what is put there is read off the cases
  obtain ⟨place, hlocate, hdirs, -⟩ := modify_eq_ok h
  unfold modify at h
  rw [hlocate] at h
  dsimp only at h
  split at h
  · cases h
  next content mode _ hentry =>
    cases h
    have hplace : place ≠ [] := by
      rintro rfl
      rw [entry?_root] at hentry
      cases hentry
    refine ⟨place, mode, tree.now, hlocate, hdirs, fun other => ?_⟩
    rw [entry?_put _ _ _ _ hplace, content?, hentry]
    rfl
  next hentry =>
    split at h
    · cases h
      refine ⟨place, 0o644, tree.now, hlocate, hdirs, fun other => ?_⟩
      rw [entry?_put _ _ _ _ (ne_nil_of_entry?_eq_none hentry), content?, hentry]
      rfl
    · cases h
    · cases h

/-- A file that is there can be changed. -/
theorem exists_modify_eq_ok {content : Text.Utf8.Bytes}
    (hlocate : tree.locateFile cwd path = .ok place) (hcontent : tree.content? place = some content)
    (change : Text.Utf8.Bytes → Text.Utf8.Bytes) :
    ∃ after, tree.modify cwd path change = .ok after := by
  unfold modify
  rw [hlocate]
  dsimp only
  unfold content? at hcontent
  cases hentry : tree.entry? place with
  | none =>
    rw [hentry] at hcontent
    cases hcontent
  | some entry =>
    rw [hentry] at hcontent
    cases entry with
    | dir => cases hcontent
    | file => exact ⟨_, rfl⟩

end FileTree

end JuliaSession
