import Mathlib.Data.List.Induction
import JuliaSession.Glob
import JuliaSession.Proofs.Path.Parts

/-!
# Patterns for the end of a name

Most patterns in use have one star with an ending after it, such as `**/*.jl`. They look at the last
name of a path alone, and there at its end alone: nothing else about the path counts.

* `matchesPart_star`: a star and an ending stand for the texts with this ending.
* `matchesPattern_star`: such a pattern looks at the last name of a path.
* `matchesSome_stars`: so do several of them in any directories.
-/

namespace JuliaSession.Glob

open JuliaSession.Text

/-! ### Parts -/

/-- Does a character of a pattern stand for itself wherever it is, and inside one part? -/
def isVerbatim (c : Char) : Bool := c ≠ '*' && c ≠ '?' && c ≠ '[' && c ≠ '/'

theorem isVerbatim_iff {c : Char} :
    isVerbatim c = true ↔ c ≠ '*' ∧ c ≠ '?' ∧ c ≠ '[' ∧ c ≠ '/' := by
  simp [isVerbatim, and_assoc]

theorem mem_suffixes_iff {suffix cs : List Char} : suffix ∈ suffixes cs ↔ suffix <:+ cs := by
  induction cs with
  | nil => simp [suffixes]
  | cons c cs ih => rw [suffixes, List.mem_cons, ih, List.suffix_cons_iff]

/-- Characters that stand for themselves are elements of their own. -/
theorem elements_of_isVerbatim {cs : List Char} (h : ∀ c ∈ cs, isVerbatim c = true) {fuel : Nat}
    (hfuel : cs.length ≤ fuel) : elements fuel cs = cs.map .char := by
  induction cs generalizing fuel with
  | nil => cases fuel <;> rfl
  | cons c cs ih =>
    have hfirst := isVerbatim_iff.1 (h c List.mem_cons_self)
    cases fuel with
    | zero => cases hfuel
    | succ fuel =>
      have hrest := ih (fun d hd => h d (List.mem_cons_of_mem _ hd)) (Nat.le_of_succ_le_succ hfuel)
      -- the three characters that begin another kind of element are excluded
      rw [elements, hrest, List.map_cons]
      · rintro rfl
        exact hfirst.1 rfl
      · rintro rfl
        exact hfirst.2.1 rfl
      · rintro rfl
        exact hfirst.2.2.1 rfl

theorem matchesElements_chars (ending cs : List Char) :
    matchesElements (ending.map .char) cs = decide (cs = ending) := by
  induction ending generalizing cs with
  | nil => cases cs <;> rfl
  | cons c ending ih =>
    cases cs with
    | nil => rfl
    | cons d cs => simp [matchesElements, Element.admits, ih]

/-- A star and an ending stand for the texts with this ending. -/
theorem matchesPart_star {ending : List Char} (h : ∀ c ∈ ending, isVerbatim c = true)
    (part : List Char) : matchesPart part ('*' :: ending) = decide (ending <:+ part) := by
  have helements : elements ('*' :: ending).length ('*' :: ending) =
      .star :: ending.map .char := by
    rw [List.length_cons, elements, elements_of_isVerbatim h (Nat.le_refl _)]
  rw [matchesPart_eq, helements, Bool.eq_iff_iff, matchesElements, List.any_eq_true]
  simp [matchesElements_chars, mem_suffixes_iff]

/-! ### Paths -/

/-- A pattern of one part that is not the root is compared with the last part of a path. -/
theorem matchesPattern_last {pattern part : List Char} (hpattern : Path.partsChars pattern = [part])
    (hslash : '/' ∉ part) (path : List Char) :
    matchesPattern path pattern =
      .ok ((Path.partsChars path).getLast?.any fun last => matchesPart last part) := by
  unfold matchesPattern
  rw [hpattern]
  dsimp only
  rw [if_neg hslash]
  cases hparts : Path.partsChars path using List.reverseRecOn with
  | nil => rfl
  | append_singleton before last => simp

/-- A star and an ending are compared with the last name of a path. The root is no name, and does
not have the ending. -/
theorem matchesPattern_star {ending : List Char} (hne : ending ≠ [])
    (h : ∀ c ∈ ending, isVerbatim c = true) (path : List Char) :
    matchesPattern path ('*' :: ending) =
      .ok (decide (∃ name ∈ (Path.names path).getLast?, ending <:+ name)) := by
  have hslash : '/' ∉ '*' :: ending := by
    rw [List.mem_cons, not_or]
    exact ⟨by decide, fun hmem => (isVerbatim_iff.1 (h _ hmem)).2.2.2 rfl⟩
  have hpattern : Path.partsChars ('*' :: ending) = ['*' :: ending] := by
    simp [Path.partsChars, Path.rootSlashes, Path.segments_name hslash]
  have hroot (slashes : Nat) : ¬ ending <:+ List.replicate slashes '/' := by
    intro hsuffix
    obtain ⟨c, rest, rfl⟩ := List.exists_cons_of_ne_nil hne
    have hc := List.eq_of_mem_replicate (hsuffix.subset List.mem_cons_self)
    exact (isVerbatim_iff.1 (h c List.mem_cons_self)).2.2.2 hc
  rw [matchesPattern_last hpattern hslash, Path.partsChars_eq]
  cases hnames : Path.names path using List.reverseRecOn with
  | nil =>
    -- what is left is the root, which has slashes only
    split_ifs
    · rfl
    · simp [matchesPart_star h, hroot]
  | append_singleton before last => simp [matchesPart_star h, ← List.append_assoc]

/-- Some stars with endings, in any directories, are compared with the last name of a path. -/
theorem matchesSome_stars {endings : List (List Char)}
    (h : ∀ ending ∈ endings, ending ≠ [] ∧ ∀ c ∈ ending, isVerbatim c = true)
    (path : List Char) :
    matchesSome path (endings.map fun ending => "**/*".toList ++ ending) =
      .ok (decide (∃ name ∈ (Path.names path).getLast?, ∃ ending ∈ endings, ending <:+ name)) := by
  induction endings with
  | nil => simp [matchesSome]
  | cons ending endings ih =>
    obtain ⟨⟨hne, hverbatim⟩, hrest⟩ := List.forall_mem_cons.1 h
    have hstart : (afterStart? "**/".toList ("**/*".toList ++ ending)) = some ('*' :: ending) :=
      afterStart?_append "**/".toList ('*' :: ending)
    rw [List.map_cons, matchesSome, hstart, Option.getD_some, matchesPattern_star hne hverbatim,
      ih hrest]
    -- the path ends like one of several endings if it ends like the first or like one of the others
    have hor : (∃ name ∈ (Path.names path).getLast?, ∃ other ∈ ending :: endings, other <:+ name) ↔
        (∃ name ∈ (Path.names path).getLast?, ending <:+ name) ∨
          ∃ name ∈ (Path.names path).getLast?, ∃ other ∈ endings, other <:+ name := by
      simp [and_or_left, exists_or]
    rw [decide_eq_decide.2 hor, Bool.decide_or]
    cases decide (∃ name ∈ (Path.names path).getLast?, ending <:+ name) <;> rfl

end JuliaSession.Glob
