import JuliaSession.Proofs.Path.Parts

/-!
# Normalized paths

Normalizing a path twice changes nothing, and in a directory given from the root every path becomes
one from the root.

* `normalizeChars_normalizeChars`: normalizing is idempotent.
* `isAbsolute_absoluteChars`: a path in an absolute directory is absolute.
-/

namespace JuliaSession.Path

open JuliaSession.Text

/-! ### One segment -/

variable {rooted : Bool} {done : List (List Char)} {seg : List Char}

theorem pushSegment_skipped (hskip : seg = [] ∨ seg = ['.']) :
    pushSegment rooted done seg = done := if_pos hskip

theorem pushSegment_name (hempty : seg ≠ []) (hdot : seg ≠ ['.']) (hup : seg ≠ ['.', '.']) :
    pushSegment rooted done seg = seg :: done := by
  simp [pushSegment, hempty, hdot, hup]

/-! ### Segments that are not normalized further -/

/-- Segments, reversed, that normalizing leaves as they are. -/
def Settled (rooted : Bool) (done : List (List Char)) : Prop :=
  done.reverse.foldl (pushSegment rooted) [] = done

theorem settled_nil (rooted : Bool) : Settled rooted [] := rfl

theorem foldl_reverse_cons (rooted : Bool) (seg : List Char) (done : List (List Char)) :
    (seg :: done).reverse.foldl (pushSegment rooted) [] =
      pushSegment rooted (done.reverse.foldl (pushSegment rooted) []) seg := by
  rw [List.reverse_cons, List.foldl_append]
  rfl

/-- A segment that is added to settled ones and stays settles. -/
theorem Settled.cons (h : Settled rooted done)
    (hstays : pushSegment rooted done seg = seg :: done) : Settled rooted (seg :: done) := by
  unfold Settled at h ⊢
  rw [foldl_reverse_cons, h, hstays]

/-- What stands before a name is settled as well. -/
theorem Settled.tail (h : Settled rooted (seg :: done)) (hempty : seg ≠ []) (hdot : seg ≠ ['.'])
    (hup : seg ≠ ['.', '.']) : Settled rooted done := by
  unfold Settled at h ⊢
  rw [foldl_reverse_cons, pushSegment_name hempty hdot hup] at h
  exact List.tail_eq_of_cons_eq h

theorem Settled.pushSegment (h : Settled rooted done) (hclean : Clean done) (seg : List Char) :
    Settled rooted (pushSegment rooted done seg) := by
  by_cases hskip : seg = [] ∨ seg = ['.']
  · rwa [pushSegment_skipped hskip]
  -- going up takes back a name, or stays in front where there is no name to take back
  by_cases hup : seg = ['.', '.']
  · cases hdone : done with
    | nil =>
      cases rooted <;> simp [Path.pushSegment, hup, Settled]
    | cons last before =>
      rw [hdone] at h hclean
      by_cases hlast : last = ['.', '.']
      · have hstays : Path.pushSegment rooted (last :: before) seg = seg :: last :: before := by
          simp [Path.pushSegment, hup, hlast]
        rw [hstays]
        exact h.cons hstays
      · -- the name is taken back, what stands before it was settled before
        have hback : Path.pushSegment rooted (last :: before) seg = before := by
          simp [Path.pushSegment, hup, hlast]
        obtain ⟨hempty, hdot, -⟩ := hclean last List.mem_cons_self
        rw [hback]
        exact h.tail hempty hdot hlast
  · have hstays : Path.pushSegment rooted done seg = seg :: done :=
      pushSegment_name (not_or.1 hskip).1 (not_or.1 hskip).2 hup
    rw [hstays]
    exact h.cons hstays

/-- What normalizing leaves of some segments is clean and settled. -/
theorem settled_foldl {segs : List (List Char)} (hslash : ∀ seg ∈ segs, '/' ∉ seg)
    (hdone : Settled rooted done) (hclean : Clean done) :
    Clean (segs.foldl (pushSegment rooted) done) ∧
      Settled rooted (segs.foldl (pushSegment rooted) done) := by
  induction segs generalizing done with
  | nil => exact ⟨hclean, hdone⟩
  | cons seg rest ih =>
    rw [List.forall_mem_cons] at hslash
    exact ih hslash.2 (hdone.pushSegment hclean seg) (hclean.pushSegment hslash.1 rooted)

/-! ### Normalizing -/

/-- Only the names of a path matter to normalizing. -/
theorem foldl_names (rooted : Bool) (done : List (List Char)) (cs : List Char) :
    (names cs).foldl (pushSegment rooted) done = (segments cs).foldl (pushSegment rooted) done := by
  rw [names, List.foldl_filter]
  congr 1
  funext before seg
  by_cases hcounts : seg ≠ [] ∧ seg ≠ ['.']
  · rw [if_pos (decide_eq_true hcounts)]
  · rw [if_neg (by simpa using hcounts), pushSegment_skipped (by tauto)]

theorem normalizeChars_eq (cs : List Char) :
    normalizeChars cs =
      build (rootSlashes cs) ((names cs).foldl (pushSegment (rootSlashes cs ≠ 0)) []).reverse := by
  rw [foldl_names]
  rfl

/-- A path of settled names is normalized. -/
theorem normalizeChars_build {root : Nat} (hroot : root ≤ 2) (hclean : Clean done)
    (hdone : Settled (root ≠ 0) done) :
    normalizeChars (build root done.reverse) = build root done.reverse := by
  have hnames : Clean done.reverse := fun name hname => hclean name (List.mem_reverse.1 hname)
  rw [normalizeChars_eq, rootSlashes_build hroot hnames, names_build root hnames, hdone]

/-- Normalizing a normalized path changes nothing. -/
theorem normalizeChars_normalizeChars (cs : List Char) :
    normalizeChars (normalizeChars cs) = normalizeChars cs := by
  have hslash : ∀ name ∈ names cs, '/' ∉ name := fun name hname => (clean_names cs name hname).2.2
  have hnone : Clean [] := fun _ hmem => absurd hmem List.not_mem_nil
  obtain ⟨hclean, hsettled⟩ := settled_foldl hslash (settled_nil (rootSlashes cs ≠ 0)) hnone
  rw [normalizeChars_eq cs, normalizeChars_build (rootSlashes_le cs) hclean hsettled]

theorem normalizeChars_absoluteChars (cwd cs : List Char) :
    normalizeChars (absoluteChars cwd cs) = absoluteChars cwd cs :=
  normalizeChars_normalizeChars _

/-! ### Paths from the root -/

theorem isAbsolute_iff {cs : List Char} : isAbsolute cs = true ↔ ∃ rest, cs = '/' :: rest := by
  constructor
  · intro h
    obtain ⟨rest, hrest⟩ := Option.isSome_iff_exists.1 h
    exact ⟨rest, afterStart?_eq_some hrest⟩
  · rintro ⟨rest, rfl⟩
    rfl

theorem rootSlashes_pos (cs : List Char) : 0 < rootSlashes ('/' :: cs) := by
  unfold rootSlashes
  split <;> simp_all

/-- Normalizing leaves a path from the root one. -/
theorem isAbsolute_normalizeChars {cs : List Char} (h : isAbsolute cs = true) :
    isAbsolute (normalizeChars cs) = true := by
  obtain ⟨rest, rfl⟩ := isAbsolute_iff.1 h
  obtain ⟨more, hmore⟩ := Nat.exists_eq_succ_of_ne_zero (Nat.ne_of_gt (rootSlashes_pos rest))
  rw [normalizeChars_eq, hmore, build, List.replicate_succ]
  exact isAbsolute_iff.2 ⟨_, rfl⟩

theorem isAbsolute_joinChars {a : List Char} (h : isAbsolute a = true) (b : List Char) :
    isAbsolute (joinChars a b) = true := by
  obtain ⟨rest, rfl⟩ := isAbsolute_iff.1 h
  unfold joinChars
  split_ifs with habsolute
  · exact habsolute
  · exact isAbsolute_iff.2 ⟨_, rfl⟩
  · exact isAbsolute_iff.2 ⟨_, rfl⟩

/-- A path in a directory given from the root becomes one from the root. -/
theorem isAbsolute_absoluteChars {cwd : List Char} (h : isAbsolute cwd = true) (cs : List Char) :
    isAbsolute (absoluteChars cwd cs) = true := by
  unfold absoluteChars
  apply isAbsolute_normalizeChars
  split_ifs with habsolute
  · exact habsolute
  · exact isAbsolute_joinChars h cs

end JuliaSession.Path
