import JuliaSession.Completion
import JuliaSession.Proofs.Json.Distinct

/-!
# The ranges of an edit

A range is an object of two positions, and a position an object of two whole numbers. Reading a
range means to follow four paths, and whatever else is in these objects does not matter. An edit has
one range, or one for inserting and one for replacing, and widening it changes these members only.

* `IsRange`: a value has the four numbers of a range.
* `Range.read?_eq_some_iff`: what is read is what the four paths lead to.
* `isRange_iff`: a value is read as a range exactly if it is one.
* `exists_widenEdit?_iff`: an edit can be widened exactly if all its ranges are valid.
* `get?_of_widenEdit?`: a widened edit, member by member.
-/

namespace JuliaSession

/-- A path of two keys leads to the member of a member. -/
theorem Json.follow?_pair (key next : String) (value : Json) :
    Json.follow? [key, next] value = (value.get? key).bind (Json.get? next) := by
  cases value with
  | obj members =>
    rw [follow?_cons, Json.get?]
    congr 1
    funext inner
    cases inner with
    | obj members =>
      rw [follow?_cons, Json.get?]
      cases Assoc.get? next members <;> simp
    | _ => rfl
  | _ => rfl

namespace Completion

open Json (follow?)

/-! ### Values -/

/-- The paths to the four numbers of a range. -/
def rangePaths : List (List String) :=
  [["start", "line"], ["start", "character"], ["end", "line"], ["end", "character"]]

/-- The number that a path leads to. -/
def numberAt? (path : List String) (value : Json) : Option Int :=
  (follow? path value).bind wholeNumber?

/-- A value is a range: its start and its end are objects whose line and column are whole numbers,
where a truth value counts as one. -/
def IsRange (value : Json) : Prop := ∀ path ∈ rangePaths, (numberAt? path value).isSome

instance (value : Json) : Decidable (IsRange value) :=
  inferInstanceAs (Decidable (∀ path ∈ rangePaths, (numberAt? path value).isSome))

/-- The column that a range starts at. -/
def startColumn? (range : Json) : Option Int := numberAt? ["start", "character"] range

/-- The parts of a value that is read as a position. -/
theorem Position.read?_eq_some_iff {value : Json} {position : Position} :
    Position.read? value = some position ↔
      value.get? "line" = some position.line ∧ (wholeNumber? position.line).isSome ∧
        value.get? "character" = some position.character ∧
          wholeNumber? position.character = some position.column := by
  obtain ⟨line, character, column⟩ := position
  simp only [Position.read?, Option.bind_eq_bind, Option.bind_eq_some_iff, Option.isSome_iff_exists]
  constructor
  · rintro ⟨line', hline, character', hcharacter, number, hnumber, column', hcolumn, heq⟩
    cases heq
    exact ⟨hline, ⟨number, hnumber⟩, hcharacter, hcolumn⟩
  · rintro ⟨hline, ⟨number, hnumber⟩, hcharacter, hcolumn⟩
    exact ⟨line, hline, character, hcharacter, number, hnumber, column, hcolumn, rfl⟩

/-- The four numbers of a value that is read as a range. -/
theorem Range.read?_eq_some_iff {value : Json} {range : Range} :
    Range.read? value = some range ↔
      follow? ["start", "line"] value = some range.start.line ∧
        (wholeNumber? range.start.line).isSome ∧
        follow? ["start", "character"] value = some range.start.character ∧
        wholeNumber? range.start.character = some range.start.column ∧
        follow? ["end", "line"] value = some range.stop.line ∧
        (wholeNumber? range.stop.line).isSome ∧
        follow? ["end", "character"] value = some range.stop.character ∧
        wholeNumber? range.stop.character = some range.stop.column := by
  obtain ⟨start, stop⟩ := range
  simp only [Range.read?, Option.bind_eq_bind, Json.follow?_pair]
  cases value.get? "start" with
  | none => simp
  | some startValue =>
    cases value.get? "end" with
    | none => simp
    | some stopValue =>
      simp only [Option.bind_some, Option.bind_eq_some_iff]
      constructor
      · rintro ⟨start', hstart, stop', hstop, heq⟩
        cases heq
        obtain ⟨hline, hnumber, hcharacter, hcolumn⟩ := Position.read?_eq_some_iff.1 hstart
        exact ⟨hline, hnumber, hcharacter, hcolumn, Position.read?_eq_some_iff.1 hstop⟩
      · rintro ⟨hline, hnumber, hcharacter, hcolumn, hstop⟩
        exact ⟨start, Position.read?_eq_some_iff.2 ⟨hline, hnumber, hcharacter, hcolumn⟩, stop,
          Position.read?_eq_some_iff.2 hstop, rfl⟩

/-- A value is read as a range exactly if it is one. -/
theorem isRange_iff {value : Json} : IsRange value ↔ ∃ range, Range.read? value = some range := by
  constructor
  · intro h
    simp only [IsRange, rangePaths, List.forall_mem_cons, numberAt?, Option.isSome_bind,
      Option.any_eq_true] at h
    obtain ⟨⟨startLine, hstartLine, hfirst⟩, ⟨startColumn, hstartColumn, hsecond⟩,
      ⟨stopLine, hstopLine, hthird⟩, ⟨stopColumn, hstopColumn, hfourth⟩, -⟩ := h
    obtain ⟨start, hstart⟩ := Option.isSome_iff_exists.1 hsecond
    obtain ⟨stop, hstop⟩ := Option.isSome_iff_exists.1 hfourth
    exact ⟨⟨⟨startLine, startColumn, start⟩, ⟨stopLine, stopColumn, stop⟩⟩,
      Range.read?_eq_some_iff.2 ⟨hstartLine, hfirst, hstartColumn, hstart, hstopLine, hthird,
        hstopColumn, hstop⟩⟩
  · rintro ⟨range, hrange⟩ path hpath
    obtain ⟨hstartLine, hfirst, hstartColumn, hsecond, hstopLine, hthird, hstopColumn, hfourth⟩ :=
      Range.read?_eq_some_iff.1 hrange
    simp only [rangePaths, List.mem_cons, List.not_mem_nil, or_false] at hpath
    rcases hpath with rfl | rfl | rfl | rfl
    · simp [numberAt?, hstartLine, hfirst]
    · simp [numberAt?, hstartColumn, hsecond]
    · simp [numberAt?, hstopLine, hthird]
    · simp [numberAt?, hstopColumn, hfourth]

/-! ### Edits -/

/-- The names under which an edit has its ranges: one range, or else one for inserting and one for
replacing. -/
def rangeNames (edit : Json.Members) : List String :=
  if Assoc.has "range" edit then ["range"] else ["insert", "replace"]

/-- The range that an edit has under a name is a member of the edit. -/
theorem read?_member_eq_some_iff {name : String} {edit : Json.Members} {range : Range} :
    Range.read? (Json.member name edit) = some range ↔
      ∃ value, Assoc.get? name edit = some value ∧ Range.read? value = some range := by
  rw [Json.member]
  cases Assoc.get? name edit with
  | some value => simp
  | none =>
    -- a member that is not there is null, which is no range
    have hnull : Range.read? .null = none := rfl
    simp [hnull]

theorem rangeNames_of_some {edit : Json.Members} {value : Json}
    (h : Assoc.get? "range" edit = some value) : rangeNames edit = ["range"] := by
  simp [rangeNames, Assoc.has, h]

theorem rangeNames_of_none {edit : Json.Members} (h : Assoc.get? "range" edit = none) :
    rangeNames edit = ["insert", "replace"] := by
  simp [rangeNames, Assoc.has, h]

/-- The ranges of an edit have names of their own. -/
theorem newText_not_mem_rangeNames (edit : Json.Members) : "newText" ∉ rangeNames edit := by
  unfold rangeNames
  split <;> decide

/-- Setting the new text of an edit does not touch its ranges. -/
theorem rangeNames_insert_newText (value : Json) (edit : Json.Members) :
    rangeNames (Assoc.insert "newText" value edit) = rangeNames edit := by
  rw [rangeNames, rangeNames, Assoc.has, Assoc.has, Assoc.get?_insert_of_ne (by decide)]

theorem member_insert_newText {edit : Json.Members} {name : String}
    (hname : name ∈ rangeNames edit) (value : Json) :
    Json.member name (Assoc.insert "newText" value edit) = Json.member name edit := by
  have hne : name ≠ "newText" := by
    rintro rfl
    unfold rangeNames at hname
    split at hname <;> revert hname <;> decide
  rw [Json.member, Json.member, Assoc.get?_insert_of_ne hne]

/-- An edit can be widened exactly if all of its ranges are valid. -/
theorem exists_widenEdit?_iff {typed : String} {edit : Json.Members} :
    (∃ wide, widenEdit? typed edit = some wide) ↔
      ∀ name ∈ rangeNames edit, ∃ range, Range.read? (Json.member name edit) = some range := by
  unfold widenEdit?
  -- an edit has either one range or the two of an edit that inserts or replaces
  cases hvalue : Assoc.get? "range" edit with
  | some value =>
    rw [rangeNames_of_some hvalue]
    simp [Json.member, hvalue, Option.bind_eq_some_iff]
  | none =>
    rw [rangeNames_of_none hvalue]
    constructor
    · rintro ⟨wide, hwide⟩
      obtain ⟨insert, hinsert, hwide⟩ := Option.bind_eq_some_iff.1 hwide
      obtain ⟨replace, hreplace, -⟩ := Option.bind_eq_some_iff.1 hwide
      simp [hinsert, hreplace]
    · intro hvalid
      obtain ⟨insert, hinsert⟩ := hvalid "insert" (by simp)
      obtain ⟨replace, hreplace⟩ := hvalid "replace" (by simp)
      simp [hinsert, hreplace]

/-- A widened edit, member by member: its ranges start further left, and all else is the same. -/
theorem get?_of_widenEdit? {typed : String} {edit wide : Json.Members}
    (h : widenEdit? typed edit = some wide) (name : String) :
    Assoc.get? name wide =
      if name ∈ rangeNames edit then
        (Range.read? (Json.member name edit)).map fun range => range.widen typed.length
      else Assoc.get? name edit := by
  unfold widenEdit? at h
  cases hvalue : Assoc.get? "range" edit with
  | some value =>
    rw [hvalue] at h
    obtain ⟨range, hrange, hwide⟩ := Option.bind_eq_some_iff.1 h
    obtain rfl := Option.some.inj hwide
    rw [rangeNames_of_some hvalue, Assoc.get?_insert]
    by_cases hname : name = "range"
    · simp [hname, Json.member, hvalue, hrange]
    · simp [hname]
  | none =>
    rw [hvalue] at h
    obtain ⟨insert, hinsert, h⟩ := Option.bind_eq_some_iff.1 h
    obtain ⟨replace, hreplace, hwide⟩ := Option.bind_eq_some_iff.1 h
    obtain rfl := Option.some.inj hwide
    rw [rangeNames_of_none hvalue, Assoc.get?_insert, Assoc.get?_insert]
    -- the two names are distinct, so that neither insertion hides the other
    by_cases hreplaceName : name = "replace"
    · simp [hreplaceName, hreplace]
    · by_cases hinsertName : name = "insert"
      · simp [hinsertName, hinsert]
      · simp [hreplaceName, hinsertName]

end Completion

end JuliaSession
