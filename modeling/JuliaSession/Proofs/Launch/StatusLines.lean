import Mathlib.Data.List.Forall2
import JuliaSession.Packages

/-!
# Status lines and packages

A status line is written from a package and gives it back, alone and among the lines of an output.
The other way round, the packages of any lines are those of the lines with four or five fields, in
order, and each of these lines is the line of its package but for a space at the end.

* `parseLine?_writeLine`: a line that was written is read again.
* `parseLine?_cases`: what is read from any line.
* `Spells`: how a line and its package agree.
* `packages_exact`: both directions, for all packages and all lines.
-/

namespace JuliaSession.Package

open Text

/-! ### Fields -/

/-- All five fields of a package. -/
def allFields (package : Package) : List String :=
  [package.mark, package.hash, package.name, package.version, package.repo]

/-- No field of the package has a space or a line end in it. -/
def Plain (package : Package) : Prop :=
  ∀ field ∈ package.allFields, ∀ c ∈ field.toList, c ≠ ' ' ∧ isNewline c = false

/-- What is written of a package are some of its fields. -/
theorem toFields_subset (package : Package) : package.toFields ⊆ package.allFields := by
  intro field hfield
  rcases List.mem_append.1 hfield with hfirst | hrepo
  · exact List.mem_append_left [package.repo] hfirst
  · split at hrepo
    · cases hrepo
    · exact List.mem_append_right [package.mark, package.hash, package.name, package.version] hrepo

theorem toFields_ne_nil (package : Package) : package.toFields ≠ [] := by
  simp [toFields]

/-- The fields that are written give the package back. -/
theorem ofFields?_toFields (package : Package) : ofFields? package.toFields = some package := by
  obtain ⟨mark, hash, name, version, repo⟩ := package
  by_cases hrepo : repo = ""
  · simp [toFields, ofFields?, hrepo]
  · simp [toFields, ofFields?, hrepo]

/-! ### Lines that were written -/

/-- The characters of a line without the line ends behind it. -/
def bare (line : String) : List Char := dropRightWhile isNewline line.toList

namespace Plain

variable {package : Package} (h : package.Plain)
include h

/-- The line of the package has no line end in it. -/
theorem isNewline_writeLine : ∀ c ∈ package.writeLine.toList, isNewline c = false := by
  intro c hc
  rw [writeLine, String.toList_ofList] at hc
  rcases mem_joinWith hc with hspace | ⟨piece, hpiece, hc⟩
  · rw [List.mem_singleton.1 hspace]
    decide
  · obtain ⟨field, hfield, rfl⟩ := List.mem_map.1 hpiece
    exact (h field (package.toFields_subset hfield) c hc).2

/-- A line that was written is read again. -/
theorem parseLine?_writeLine : parseLine? package.writeLine = some package := by
  have hspace : ∀ piece ∈ package.toFields.map String.toList, ' ' ∉ piece := by
    intro piece hpiece hmem
    obtain ⟨field, hfield, rfl⟩ := List.mem_map.1 hpiece
    exact (h field (package.toFields_subset hfield) ' ' hmem).1 rfl
  have hne : package.toFields.map String.toList ≠ [] :=
    mt List.map_eq_nil_iff.1 package.toFields_ne_nil
  rw [parseLine?, dropRightWhile_eq_self h.isNewline_writeLine, writeLine, String.toList_ofList,
    splitOnChar_joinWith hne hspace, List.map_map]
  simp [Function.comp_def, ofFields?_toFields]

end Plain

/-- The lines of packages, with line feeds between them, are read again. -/
theorem parseOutput_writeLines {packages : List Package} (h : ∀ package ∈ packages, package.Plain) :
    parseOutput (String.ofList
      (joinWith ['\n'] (packages.map fun package => package.writeLine.toList))) = packages := by
  cases packages with
  | nil => decide
  | cons first more =>
    have hlines : ∀ line ∈ (first :: more).map fun package => package.writeLine.toList,
        '\n' ∉ line := by
      intro line hline hmem
      obtain ⟨package, hpackage, rfl⟩ := List.mem_map.1 hline
      cases (h package hpackage).isNewline_writeLine '\n' hmem
    have hread : ∀ package ∈ first :: more,
        parseLine? (String.ofList package.writeLine.toList) = some package := by
      intro package hpackage
      rw [String.ofList_toList]
      exact (h package hpackage).parseLine?_writeLine
    -- the output falls apart into the lines that were joined
    rw [parseOutput, split, String.toList_ofList, splitOnChar_joinWith (by simp) hlines, parseLines,
      List.filterMap_map, List.filterMap_map]
    simp only [Function.comp_def]
    rw [List.filterMap_congr hread, List.filterMap_some]

/-! ### Lines of any kind -/

/-- A line has four or five fields: three or four spaces before the line ends behind it. -/
def HasForm (line : String) : Prop := (bare line).count ' ' = 3 ∨ (bare line).count ' ' = 4

instance : DecidablePred HasForm := fun line =>
  inferInstanceAs (Decidable ((bare line).count ' ' = 3 ∨ (bare line).count ' ' = 4))

/-- A line is that of a package: its fields, joined by single spaces. Behind the fourth field there
may be a space for an empty fifth one. -/
structure Spells (line : String) (package : Package) : Prop where
  /-- The fields end where a space is. -/
  fields : ∀ field ∈ package.allFields, ' ' ∉ field.toList
  /-- The fields make the line. -/
  line : bare line = package.writeLine.toList ∨
    package.repo = "" ∧ bare line = package.writeLine.toList ++ [' ']

/-- A line of four or five fields spells the package that is read from it, and from any other line
nothing is read. -/
theorem parseLine?_cases (line : String) :
    (HasForm line ∧ ∃ package, parseLine? line = some package ∧ Spells line package) ∨
      (¬ HasForm line ∧ parseLine? line = none) := by
  have hlength := length_splitOnChar ' ' (bare line)
  have hjoined := joinWith_splitOnChar ' ' (bare line)
  have hspace : ∀ piece ∈ splitOnChar ' ' (bare line), ' ' ∉ piece :=
    fun _ hpiece => not_mem_of_mem_splitOnChar hpiece
  unfold HasForm parseLine?
  rw [← bare]
  generalize splitOnChar ' ' (bare line) = pieces at *
  -- by the number of fields, which is one more than that of spaces
  match pieces with
  | [mark, hash, name, version] =>
    have hcount : (bare line).count ' ' = 3 := by simpa using hlength.symm
    refine .inl ⟨.inl hcount, _, rfl, ?_, .inl ?_⟩
    · simpa [allFields] using hspace
    · simpa [writeLine, toFields, joinWith] using hjoined.symm
  | [mark, hash, name, version, repo] =>
    have hcount : (bare line).count ' ' = 4 := by simpa using hlength.symm
    refine .inl ⟨.inr hcount, _, rfl, ?_, ?_⟩
    · simpa [allFields] using hspace
    by_cases hrepo : repo = []
    · -- an empty fifth field leaves its space behind
      refine .inr ⟨by simp [hrepo], ?_⟩
      simpa [writeLine, toFields, joinWith, hrepo] using hjoined.symm
    · refine .inl ?_
      simpa [writeLine, toFields, joinWith, hrepo] using hjoined.symm
  | [] | [_] | [_, _] | [_, _, _] | _ :: _ :: _ :: _ :: _ :: _ :: _ =>
    refine .inr ⟨?_, rfl⟩
    simp only [List.length_cons, List.length_nil] at hlength
    omega

/-- The packages of some lines are spelled by the lines of four or five fields, in order. -/
theorem forall₂_parseLines (lines : List String) :
    List.Forall₂ Spells (lines.filter HasForm) (parseLines lines) := by
  induction lines with
  | nil => exact .nil
  | cons line lines ih =>
    rcases parseLine?_cases line with ⟨hform, package, hread, hspells⟩ | ⟨hform, hread⟩
    · rw [parseLines, List.filterMap_cons_some hread,
        List.filter_cons_of_pos (by simpa using hform)]
      exact .cons hspells ih
    · -- a line of another form is on neither side
      rw [parseLines, List.filterMap_cons_none hread,
        List.filter_cons_of_neg (by simpa using hform)]
      exact ih

/-! ### Both directions -/

/-- Packages and status lines correspond. Packages whose fields have neither spaces nor line ends in
them are written to an output that gives exactly them, in order. And whatever the lines are, the
packages that are read from them are those of the lines with three or four spaces before the line
ends behind them, in order, each line being the fields of its package joined by single spaces, up to
a space at the end for an empty fifth field. -/
theorem packages_exact :
    (∀ packages : List Package, (∀ package ∈ packages, package.Plain) →
      parseOutput (String.ofList
        (joinWith ['\n'] (packages.map fun package => package.writeLine.toList))) = packages) ∧
      ∀ lines : List String, List.Forall₂ Spells (lines.filter HasForm) (parseLines lines) :=
  ⟨fun _ h => parseOutput_writeLines h, forall₂_parseLines⟩

/-- Packages of empty fields come back, and a line that ends in a space spells a package without a
repository. -/
theorem sparse_packages_exact :
    parseOutput "→ [1] JSON v1\n   \n [2]  v2 url" =
        [⟨"→", "[1]", "JSON", "v1", ""⟩, ⟨"", "", "", "", ""⟩, ⟨"", "[2]", "", "v2", "url"⟩] ∧
      List.Forall₂ Spells ["a b c d \r\n"] (parseLines ["a b c d \r\n", "a b c"]) :=
  ⟨packages_exact.1
      [⟨"→", "[1]", "JSON", "v1", ""⟩, ⟨"", "", "", "", ""⟩, ⟨"", "[2]", "", "v2", "url"⟩]
      (by simp [Plain, allFields, isNewline]),
    packages_exact.2 ["a b c d \r\n", "a b c"]⟩

end JuliaSession.Package
