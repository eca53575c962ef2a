import Mathlib.Tactic.SplitIfs
import Mathlib.Data.List.TakeDrop
import JuliaSession.Path.Posix

/-!
# Paths and the names in them

A tidy path is written from the slashes at its start and the names in it, and gives them back. So
tidying twice changes nothing, the directory above a path has one name less, and a normalized path
is tidy.

* `names`, `build`: the names in a path, and the tidy path of some names.
* `tidy_tidy`: tidying is idempotent.
* `parent_build`: the path above has one name less.
* `tidy_absoluteChars`: a normalized path is tidy.
* `suffix_tidyChars`: a path is tidied in front of the name at its end.
* `child_child`: the path of a file in a directory has a slash and the file's name behind the path of
  the directory.
-/

namespace JuliaSession.Path

open JuliaSession.Text

/-- The segments of a path that count. -/
def names (cs : List Char) : List (List Char) :=
  (segments cs).filter fun seg => seg ≠ [] ∧ seg ≠ ['.']

/-- The path of some names, with some slashes at its start. -/
def build (root : Nat) (names : List (List Char)) : List Char :=
  let text := List.replicate root '/' ++ unsegments names
  if text = [] then ['.'] else text

/-- Names that count and have no slash in them. -/
def Clean (names : List (List Char)) : Prop :=
  ∀ name ∈ names, name ≠ [] ∧ name ≠ ['.'] ∧ '/' ∉ name

/-- The parts of a path are its root, if it has one, and its names. -/
theorem partsChars_eq (cs : List Char) :
    partsChars cs =
      (if rootSlashes cs = 0 then [] else [List.replicate (rootSlashes cs) '/']) ++ names cs := by
  unfold partsChars
  dsimp only
  split_ifs <;> rfl

theorem tidyChars_eq (cs : List Char) : tidyChars cs = build (rootSlashes cs) (names cs) := rfl

theorem clean_names (cs : List Char) : Clean (names cs) := by
  intro name hname
  obtain ⟨hmem, hcounts⟩ := List.mem_filter.1 hname
  obtain ⟨hne, hdot⟩ := of_decide_eq_true hcounts
  exact ⟨hne, hdot, not_mem_of_mem_splitOnChar hmem⟩

theorem Clean.sublist {names more : List (List Char)} (h : Clean more)
    (hsub : names.Sublist more) : Clean names := fun name hname => h name (hsub.subset hname)

theorem rootSlashes_le (cs : List Char) : rootSlashes cs ≤ 2 := by
  unfold rootSlashes
  split <;> omega

/-! ### Writing names and reading them back -/

theorem segments_slash (cs : List Char) : segments ('/' :: cs) = [] :: segments cs := rfl

/-- A name alone is the only segment. -/
theorem segments_name {name : List Char} (hname : '/' ∉ name) : segments name = [name] :=
  splitOnChar_eq_singleton hname

/-- Names that were joined are the segments. -/
theorem segments_unsegments {names : List (List Char)} (hnames : names ≠ [])
    (hslash : ∀ name ∈ names, '/' ∉ name) : segments (unsegments names) = names :=
  splitOnChar_joinWith hnames hslash

/-- Clean names are all that count among the segments of their path. -/
theorem names_unsegments {parts : List (List Char)} (h : Clean parts) :
    names (unsegments parts) = parts := by
  cases parts with
  | nil => rfl
  | cons part rest =>
    rw [names, segments_unsegments (by simp) fun name hname => (h name hname).2.2,
      List.filter_eq_self]
    intro name hname
    obtain ⟨hne, hdot, -⟩ := h name hname
    exact decide_eq_true ⟨hne, hdot⟩

theorem names_replicate_append (root : Nat) (cs : List Char) :
    names (List.replicate root '/' ++ cs) = names cs := by
  induction root with
  | zero => rfl
  | succ root ih =>
    rw [List.replicate_succ, List.cons_append, names, segments_slash, List.filter_cons]
    exact ih

/-- The names of a path come back. -/
theorem names_build (root : Nat) {parts : List (List Char)} (h : Clean parts) :
    names (build root parts) = parts := by
  unfold build
  dsimp only
  split_ifs with hempty
  · -- nothing is written, so there are no names
    have hnone : names (List.replicate root '/' ++ unsegments parts) = names [] := by rw [hempty]
    rw [names_replicate_append, names_unsegments h] at hnone
    rw [hnone]
    rfl
  · rw [names_replicate_append, names_unsegments h]

/-- A path of clean names starts with a slash only if one was put there. -/
theorem head_unsegments {parts : List (List Char)} (h : Clean parts) (rest : List Char) :
    unsegments parts ≠ '/' :: rest := by
  cases parts with
  | nil => simp [unsegments, joinWith]
  | cons part more =>
    obtain ⟨hne, -, hslash⟩ := h part (by simp)
    obtain ⟨c, tail, rfl⟩ := List.exists_cons_of_ne_nil hne
    intro heq
    have hhead : (unsegments ((c :: tail) :: more)).head? = some c := by
      cases more <;> simp [unsegments, joinWith]
    rw [heq, List.head?_cons, Option.some.injEq] at hhead
    exact hslash (by simp [← hhead])

/-- The slashes of a path come back. -/
theorem rootSlashes_build {root : Nat} (hroot : root ≤ 2) {parts : List (List Char)}
    (h : Clean parts) : rootSlashes (build root parts) = root := by
  have hhead := head_unsegments h
  unfold build
  dsimp only
  generalize unsegments parts = text at hhead
  -- by the number of slashes in front, which the names cannot add to as none of them is empty
  match root, hroot, text, hhead with
  | 0, _, [], _ => rfl
  | 0, _, c :: rest, hhead =>
    have hc : c ≠ '/' := fun heq => hhead rest (by rw [heq])
    simp [rootSlashes, hc]
  | 1, _, [], _ => rfl
  | 1, _, c :: rest, hhead =>
    have hc : c ≠ '/' := fun heq => hhead rest (by rw [heq])
    simp [rootSlashes, hc]
  | 2, _, [], _ => rfl
  | 2, _, c :: rest, hhead =>
    have hc : c ≠ '/' := fun heq => hhead rest (by rw [heq])
    have htext : List.replicate 2 '/' ++ c :: rest = '/' :: '/' :: c :: rest := rfl
    rw [htext, if_neg (List.cons_ne_nil _ _)]
    rw [rootSlashes]
    rintro _ heq
    cases heq
    exact absurd rfl hc

theorem tidyChars_build {root : Nat} (hroot : root ≤ 2) {parts : List (List Char)}
    (h : Clean parts) : tidyChars (build root parts) = build root parts := by
  rw [tidyChars_eq, rootSlashes_build hroot h, names_build root h]

/-- Tidying a tidy path changes nothing. -/
theorem tidy_tidy (path : String) : tidy (tidy path) = tidy path := by
  unfold tidy
  rw [String.toList_ofList, tidyChars_eq path.toList,
    tidyChars_build (rootSlashes_le _) (clean_names _)]

/-- Only paths of the same names are the same. -/
theorem build_injective {root : Nat} {parts more : List (List Char)} (hparts : Clean parts)
    (hmore : Clean more) (h : build root parts = build root more) : parts = more := by
  rw [← names_build root hparts, h, names_build root hmore]

/-- A path has no more names than characters. -/
theorem length_le_build (root : Nat) {parts : List (List Char)} (h : Clean parts) :
    parts.length ≤ (build root parts).length := by
  -- every name has a character of its own
  have hunsegments : parts.length ≤ (unsegments parts).length := by
    induction parts with
    | nil => exact Nat.zero_le _
    | cons part rest ih =>
      have hpart := List.length_pos_iff.2 (h part (by simp)).1
      have hrest := ih (h.sublist (List.sublist_cons_self _ _))
      cases rest with
      | nil =>
        simp only [unsegments, joinWith, List.length_cons, List.length_nil]
        omega
      | cons next more =>
        simp only [unsegments, joinWith, List.length_append, List.length_cons] at hrest ⊢
        omega
  unfold build
  dsimp only
  split_ifs with hempty
  · rw [List.append_eq_nil_iff] at hempty
    rw [hempty.2] at hunsegments
    exact Nat.le_trans hunsegments (Nat.zero_le _)
  · rw [List.length_append]
    omega

/-! ### Directories above a path -/

/-- The path above has one name less. -/
theorem parent_build {root : Nat} (hroot : root ≤ 2) {parts : List (List Char)}
    (h : Clean parts) :
    parent (String.ofList (build root parts)) = String.ofList (build root parts.dropLast) := by
  have hnames := names_build root h
  unfold names at hnames
  unfold parent
  dsimp only
  rw [String.toList_ofList, rootSlashes_build hroot h, hnames]
  rfl

/-! ### Normalized paths -/

/-- A path that is the tidy path of some clean names. -/
def Tidy (cs : List Char) : Prop := ∃ root parts, root ≤ 2 ∧ Clean parts ∧ cs = build root parts

theorem Clean.pushSegment {done : List (List Char)} (h : Clean done) {seg : List Char}
    (hslash : '/' ∉ seg) (rooted : Bool) : Clean (pushSegment rooted done seg) := by
  have hcons : seg ≠ [] ∧ seg ≠ ['.'] → Clean (seg :: done) := by
    rintro ⟨hne, hdot⟩ name hname
    rcases List.mem_cons.1 hname with rfl | hname
    · exact ⟨hne, hdot, hslash⟩
    · exact h name hname
  unfold Path.pushSegment
  -- a segment is dropped, takes the last name back, or is kept as a name
  by_cases hskip : seg = [] ∨ seg = ['.']
  · rw [if_pos hskip]
    exact h
  have hpush := hcons (not_or.1 hskip)
  rw [if_neg hskip]
  by_cases hup : seg = ['.', '.']
  · rw [if_pos hup]
    cases done with
    | nil =>
      dsimp only
      split_ifs
      · exact h
      · exact hpush
    | cons last before =>
      dsimp only
      split_ifs
      · exact hpush
      · exact fun name hname => h name (List.mem_cons_of_mem _ hname)
  · rw [if_neg hup]
    exact hpush

theorem tidy_normalizeChars (cs : List Char) : Tidy (normalizeChars cs) := by
  have hclean : ∀ (rooted : Bool) (segs done : List (List Char)), Clean done →
      (∀ seg ∈ segs, '/' ∉ seg) → Clean (segs.foldl (pushSegment rooted) done) := by
    intro rooted segs
    induction segs with
    | nil => exact fun done hdone _ => hdone
    | cons seg rest ih =>
      intro done hdone hsegs
      exact ih _ (hdone.pushSegment (hsegs seg (by simp)) rooted)
        fun other hother => hsegs other (List.mem_cons_of_mem _ hother)
  refine ⟨rootSlashes cs, _, rootSlashes_le cs, ?_, rfl⟩
  intro name hname
  exact hclean _ _ [] (fun _ hnone => by cases hnone)
    (fun seg hseg => not_mem_of_mem_splitOnChar hseg) name (List.mem_reverse.1 hname)

theorem tidy_absoluteChars (cwd cs : List Char) : Tidy (absoluteChars cwd cs) :=
  tidy_normalizeChars _

/-- A tidy path that starts with two slashes stays tidy without the first. -/
theorem Tidy.tail {cs : List Char} (h : Tidy cs) (hslashes : startsWith cs ['/', '/'] = true) :
    Tidy cs.tail := by
  obtain ⟨root, parts, hroot, hparts, rfl⟩ := h
  have hhead := head_unsegments hparts
  obtain ⟨rest, hrest⟩ := Option.isSome_iff_exists.1 hslashes
  have htext := afterStart?_eq_some hrest
  match root, hroot with
  | 0, _ =>
    unfold build at htext
    dsimp only at htext
    split_ifs at htext with hempty
    · cases htext
    · exact absurd htext (hhead _)
  | 1, _ =>
    have htail : unsegments parts = '/' :: rest := List.tail_eq_of_cons_eq htext
    exact absurd htail (hhead rest)
  | 2, _ => exact ⟨1, parts, by omega, hparts, rfl⟩

/-! ### The end of a path -/

/-- A text that names something at the end of a path: no slash is in it, and no dots alone. -/
structure Naming (tail : List Char) : Prop where
  /-- There is no slash in it. -/
  slash : '/' ∉ tail
  /-- There is something else than dots in it. -/
  mark : ∃ c ∈ tail, c ≠ '.'

theorem Naming.ne_dots {tail name : List Char} (h : Naming tail) (hsuffix : tail <:+ name)
    (count : ℕ) : name ≠ List.replicate count '.' := by
  rintro rfl
  obtain ⟨c, hc, hne⟩ := h.mark
  exact hne (List.eq_of_mem_replicate (hsuffix.subset hc))

/-- What ends a path without a slash ends its last segment. -/
theorem segments_append {tail : List Char} (hslash : '/' ∉ tail) (cs : List Char) :
    ∃ before name, segments (cs ++ tail) = before ++ [name ++ tail] := by
  induction cs with
  | nil => exact ⟨[], [], segments_name hslash⟩
  | cons c rest ih =>
    obtain ⟨before, name, hrest⟩ := ih
    by_cases hc : c = '/'
    · exact ⟨[] :: before, name, by rw [hc, List.cons_append, segments_slash, hrest]; rfl⟩
    · rw [segments] at hrest ⊢
      rw [List.cons_append, splitOnChar, if_neg hc, hrest]
      cases before with
      | nil => exact ⟨[], c :: name, rfl⟩
      | cons first before => exact ⟨(c :: first) :: before, name, rfl⟩

theorem suffix_unsegments (before : List (List Char)) (last : List Char) :
    last <:+ unsegments (before ++ [last]) := by
  induction before with
  | nil => exact List.suffix_rfl
  | cons first rest ih =>
    obtain ⟨next, more, hnext⟩ : ∃ next more, rest ++ [last] = next :: more :=
      List.exists_cons_of_ne_nil (by simp)
    rw [unsegments, hnext] at ih
    rw [unsegments, List.cons_append, hnext, joinWith]
    · exact ih.trans (List.suffix_append _ _)
    · simp

/-- A path is tidied in front of the name at its end. -/
theorem suffix_tidyChars {tail cs : List Char} (h : Naming tail) (hsuffix : tail <:+ cs) :
    tail <:+ tidyChars cs := by
  obtain ⟨front, rfl⟩ := hsuffix
  obtain ⟨before, name, hsegments⟩ := segments_append h.slash front
  have hcounts : name ++ tail ≠ [] ∧ name ++ tail ≠ ['.'] :=
    ⟨h.ne_dots (List.suffix_append _ _) 0, h.ne_dots (List.suffix_append _ _) 1⟩
  -- the last segment is kept, as it is neither empty nor a dot
  have hunsegments : tail <:+ unsegments (names (front ++ tail)) := by
    rw [names, hsegments, List.filter_append, List.filter_cons, if_pos (decide_eq_true hcounts),
      List.filter_nil]
    exact (List.suffix_append name tail).trans (suffix_unsegments _ _)
  have htext := hunsegments.trans
    (List.suffix_append (List.replicate (rootSlashes (front ++ tail)) '/') _)
  rw [tidyChars_eq]
  unfold build
  dsimp only
  split_ifs with hempty
  · rw [hempty] at htext
    exact absurd (List.suffix_nil.1 htext) (h.ne_dots List.suffix_rfl 0)
  · exact htext

theorem suffix_tidy {tail : List Char} {path : String} (h : Naming tail)
    (hsuffix : tail <:+ path.toList) : tail <:+ (tidy path).toList := by
  unfold tidy
  rw [String.toList_ofList]
  exact suffix_tidyChars h hsuffix

theorem suffix_join {tail : List Char} {path : String} (hsuffix : tail <:+ path.toList)
    (dir : String) : tail <:+ (join dir path).toList := by
  unfold join joinChars
  rw [String.toList_ofList]
  split_ifs
  · exact hsuffix
  · exact hsuffix.trans (List.suffix_append _ _)
  · exact hsuffix.trans ((List.suffix_cons _ _).trans (List.suffix_append _ _))

theorem suffix_child {tail : List Char} {name : String} (h : Naming tail)
    (hsuffix : tail <:+ name.toList) (dir : String) : tail <:+ (child dir name).toList :=
  suffix_tidy h (suffix_join hsuffix dir)

/-! ### Files in a directory -/

theorem unsegments_concat {parts : List (List Char)} (hparts : parts ≠ []) (name : List Char) :
    unsegments (parts ++ [name]) = unsegments parts ++ '/' :: name := by
  obtain ⟨part, rest, rfl⟩ := List.exists_cons_of_ne_nil hparts
  rw [unsegments, unsegments, List.cons_append, joinWith_cons, joinWith_cons, List.flatMap_append,
    List.flatMap_singleton, List.append_assoc]
  rfl

/-- What is written of some names is not empty. -/
theorem unsegments_ne_nil {parts : List (List Char)} (hparts : parts ≠ []) (h : Clean parts) :
    unsegments parts ≠ [] := by
  obtain ⟨part, rest, rfl⟩ := List.exists_cons_of_ne_nil hparts
  rw [unsegments, joinWith_cons]
  exact List.append_ne_nil_of_left_ne_nil (h part List.mem_cons_self).1 _

theorem build_eq {parts : List (List Char)} (hparts : parts ≠ []) (h : Clean parts) (root : Nat) :
    build root parts = List.replicate root '/' ++ unsegments parts :=
  if_neg (List.append_ne_nil_of_right_ne_nil _ (unsegments_ne_nil hparts h))

theorem Clean.concat {parts : List (List Char)} (h : Clean parts) {name : List Char}
    (hname : Clean [name]) : Clean (parts ++ [name]) := by
  intro other hother
  rcases List.mem_append.1 hother with hother | hother
  · exact h other hother
  · exact hname other hother

/-- One name more is written behind a slash. -/
theorem build_concat {parts : List (List Char)} (hparts : parts ≠ []) (h : Clean parts)
    {name : List Char} (hname : Clean [name]) (root : Nat) :
    build root (parts ++ [name]) = build root parts ++ '/' :: name := by
  rw [build_eq (List.append_ne_nil_of_left_ne_nil hparts _) (h.concat hname), build_eq hparts h,
    unsegments_concat hparts, List.append_assoc]

/-- A path of names does not end with a slash. -/
theorem endsWith_build {parts : List (List Char)} (hparts : parts ≠ []) (h : Clean parts)
    (root : Nat) : endsWith (build root parts) ['/'] = false := by
  obtain ⟨before, last, rfl⟩ : ∃ before last, parts = before ++ [last] :=
    ⟨_, _, (List.dropLast_concat_getLast hparts).symm⟩
  obtain ⟨hne, -, hslash⟩ := h last (List.mem_append_right _ (List.mem_singleton_self _))
  obtain ⟨front, hfront⟩ := (suffix_unsegments before last).trans
    (List.suffix_append (List.replicate root '/') _)
  rw [build_eq hparts h, ← hfront]
  obtain ⟨more, c, rfl⟩ : ∃ more c, last = more ++ [c] :=
    ⟨_, _, (List.dropLast_concat_getLast hne).symm⟩
  have hc : '/' ≠ c := fun heq =>
    hslash (heq ▸ List.mem_append_right _ (List.mem_singleton_self _))
  simp [endsWith, startsWith, afterStart?, hc]

/-- A name in a directory given by its names. -/
theorem child_build {root : Nat} (hroot : root ≤ 2) {parts : List (List Char)} (hparts : parts ≠ [])
    (h : Clean parts) {name : List Char} (hname : Clean [name]) :
    child (String.ofList (build root parts)) (String.ofList name) =
      String.ofList (build root parts ++ '/' :: name) := by
  obtain ⟨hne, -, hslash⟩ := hname name (List.mem_singleton_self _)
  -- a name is relative, so it is joined with a slash and not put in place of the directory
  have hrelative : isAbsolute name = false := by
    cases name with
    | nil => rfl
    | cons c rest =>
      have hc : c ≠ '/' := fun heq => hslash (heq ▸ List.mem_cons_self)
      simp [isAbsolute, startsWith, afterStart?, hc.symm]
  have hdir : build root parts ≠ [] := by
    rw [build_eq hparts h]
    exact List.append_ne_nil_of_right_ne_nil _ (unsegments_ne_nil hparts h)
  have hjoin : joinChars (build root parts) name = build root (parts ++ [name]) := by
    rw [build_concat hparts h hname, joinChars, hrelative, endsWith_build hparts h]
    simp [hdir]
  rw [child, join, tidy, String.toList_ofList, String.toList_ofList, String.toList_ofList, hjoin,
    tidyChars_build hroot (h.concat hname), build_concat hparts h hname]

/-- A path that ends with a name has names. -/
theorem names_ne_nil {tail cs : List Char} (h : Naming tail) (hsuffix : tail <:+ cs) :
    names cs ≠ [] := by
  obtain ⟨front, rfl⟩ := hsuffix
  obtain ⟨before, name, hsegments⟩ := segments_append h.slash front
  have hcounts : name ++ tail ≠ [] ∧ name ++ tail ≠ ['.'] :=
    ⟨h.ne_dots (List.suffix_append _ _) 0, h.ne_dots (List.suffix_append _ _) 1⟩
  have hmem : name ++ tail ∈ names (front ++ tail) := by
    rw [names, hsegments]
    exact List.mem_filter.2 ⟨List.mem_append_right _ (List.mem_singleton_self _),
      decide_eq_true hcounts⟩
  exact List.ne_nil_of_mem hmem

/-- The path of a file in a directory is the directory's with a slash and the name behind it. -/
theorem child_child {last : String} (hlast : Naming last.toList) (base : String) {name : String}
    (hname : Clean [name.toList]) :
    child (child base last) name =
      String.ofList ((child base last).toList ++ '/' :: name.toList) := by
  have hparts : names (join base last).toList ≠ [] :=
    names_ne_nil hlast (suffix_join List.suffix_rfl base)
  have hdir : child base last = String.ofList
      (build (rootSlashes (join base last).toList) (names (join base last).toList)) := rfl
  have hchild := child_build (rootSlashes_le (join base last).toList) hparts (clean_names _) hname
  rw [String.ofList_toList, ← hdir] at hchild
  rw [hchild, hdir, String.toList_ofList]

end JuliaSession.Path
