import JuliaSession.Proofs.Completion.Ranges
import JuliaSession.Proofs.Completion.Widening

/-!
# Accepting a completion

Accepting an item applies its text edit to the document: the characters of the edit's range are
replaced by its new text. Widening moves the start of the range to the left by as many columns as it
puts characters in front of the new text, so nothing is lost and nothing is doubled where these
characters stand before the range already.

Lines and columns count from 0, and a column counts characters. Places outside the document are
refused: an edit whose range does not fit makes nothing of it.

* `Position.lineBefore?_left`: what stands before a position that was moved to the left.
* `applied?_left`: replacing more of a document by as much more of new text.
* `accepted?_widenItem`: accepting a widened item makes the same of a document as accepting the
  item.
-/

namespace JuliaSession.Completion

/-! ### Places in a document -/

/-- The offset at which a line of a text starts, if the text has that many lines. A line ends with a
line feed, with a carriage return, or with a carriage return and a line feed. -/
def lineStart? : Nat → List Char → Option Nat
  | 0, _ => some 0
  | _ + 1, [] => none
  | line + 1, '\r' :: '\n' :: rest => (lineStart? line rest).map (· + 2)
  | line + 1, c :: rest =>
    if c = '\n' ∨ c = '\r' then (lineStart? line rest).map (· + 1)
    else (lineStart? (line + 1) rest).map (· + 1)

/-- The characters of the line that a text starts with, without its end. -/
def firstLine (text : List Char) : List Char := text.takeWhile fun c => c ≠ '\n' ∧ c ≠ '\r'

/-- The line of a position. -/
def Position.lineNumber? (position : Position) : Option Nat :=
  (wholeNumber? position.line).bind Int.toNat?

/-- What stands before a position on its line; nothing if the position is outside the text. -/
def Position.lineBefore? (position : Position) (text : List Char) : Option (List Char) := do
  let start ← lineStart? (← position.lineNumber?) text
  let column ← position.column.toNat?
  let line := firstLine (text.drop start)
  if column ≤ line.length then return line.take column else none

/-- The offset of a position in a text, if it is inside. -/
def Position.offset? (position : Position) (text : List Char) : Option Nat := do
  let start ← lineStart? (← position.lineNumber?) text
  return start + (← position.lineBefore? text).length

/-- A range lies inside a text, with its start not after its end. -/
def Range.Inside (range : Range) (text : List Char) : Prop :=
  ∃ start stop, range.start.offset? text = some start ∧ range.stop.offset? text = some stop ∧
    start ≤ stop

/-- Some characters stand just before the start of a range, on its line. -/
def Range.Follows (range : Range) (text typed : List Char) : Prop :=
  ∃ before, range.start.lineBefore? text = some before ∧ typed <:+ before

/-! ### Edits and items -/

/-- A text with the characters of a range replaced, if the range is inside the text. -/
def applied? (range : Range) (new text : List Char) : Option (List Char) := do
  let start ← range.start.offset? text
  let stop ← range.stop.offset? text
  if start ≤ stop then return text.take start ++ new ++ text.drop stop else none

/-- What accepting an item makes of a text, when its edit is applied to the range of a name. -/
def accepted? (name : String) (item : Json.Members) (text : List Char) : Option (List Char) :=
  match Assoc.get? "textEdit" item with
  | some (.obj edit) => do
    let range ← Range.read? (Json.member name edit)
    applied? range (← newText? edit).toList text
  | _ => none

/-! ### Moving to the left -/

/-- A position some columns further left, at the start of the line at most. -/
def Position.left (position : Position) (length : Nat) : Position :=
  let column := max 0 (position.column - length)
  ⟨position.line, .int column, column⟩

/-- A range that starts some columns further left. -/
def Range.left (range : Range) (length : Nat) : Range :=
  { range with start := range.start.left length }

/-- A widened range is read as the range that starts further left. -/
theorem Range.read?_widen {value : Json} {range : Range} (h : Range.read? value = some range)
    (length : Nat) : Range.read? (range.widen length) = some (range.left length) := by
  obtain ⟨-, hstartLine, -, -, -, hstopLine, -, hstopColumn⟩ := Range.read?_eq_some_iff.1 h
  apply Range.read?_eq_some_iff.2
  exact ⟨rfl, hstartLine, rfl, rfl, rfl, hstopLine, rfl, hstopColumn⟩

/-- The parts that make up what stands before a position. -/
theorem Position.lineBefore?_eq_some_iff {position : Position} {text before : List Char} :
    position.lineBefore? text = some before ↔
      ∃ line start column, position.lineNumber? = some line ∧
        lineStart? line text = some start ∧ position.column = (column : Nat) ∧
        column ≤ (firstLine (text.drop start)).length ∧
        before = (firstLine (text.drop start)).take column := by
  simp only [lineBefore?, Option.bind_eq_bind, Option.bind_eq_some_iff, Int.mem_toNat?]
  constructor
  · rintro ⟨line, hline, start, hstart, column, hcol, h⟩
    split at h
    next hle => exact ⟨line, start, column, hline, hstart, hcol, hle, (Option.some.inj h).symm⟩
    next => cases h
  · rintro ⟨line, start, column, hline, hstart, hcol, hle, rfl⟩
    exact ⟨line, hline, start, hstart, column, hcol, if_pos hle⟩

/-- A position moved to the left over some characters stands where they start. -/
theorem Position.lineBefore?_left {position : Position} {text before typed : List Char}
    (h : position.lineBefore? text = some (before ++ typed)) :
    (position.left typed.length).lineBefore? text = some before := by
  obtain ⟨line, start, column, hline, hstart, hcolumn, hle, hbefore⟩ :=
    Position.lineBefore?_eq_some_iff.1 h
  have hlength : before.length + typed.length = column := by
    rw [← List.length_append, hbefore, List.length_take, Nat.min_eq_left hle]
  -- enough characters stand before the position, so the start of the line is no obstacle
  have hleft : (position.left typed.length).column = (before.length : Nat) := by
    simp only [Position.left, hcolumn]
    omega
  refine Position.lineBefore?_eq_some_iff.2
    ⟨line, start, before.length, hline, hstart, hleft, by omega, ?_⟩
  have hprefix : before <+: firstLine (text.drop start) :=
    (List.prefix_append before typed).trans (hbefore ▸ List.take_prefix _ _)
  exact List.prefix_iff_eq_take.1 hprefix

/-- The text up to a position is what comes before its line and what stands before it on its
line. -/
theorem Position.take_offset? {position : Position} {text before : List Char} {offset : Nat}
    (hoffset : position.offset? text = some offset)
    (hbefore : position.lineBefore? text = some before) :
    ∃ line start, position.lineNumber? = some line ∧ lineStart? line text = some start ∧
      offset = start + before.length ∧ text.take offset = text.take start ++ before := by
  obtain ⟨line, start, column, hline, hstart, -, -, rfl⟩ :=
    Position.lineBefore?_eq_some_iff.1 hbefore
  rw [Position.offset?, hline, hbefore] at hoffset
  simp only [Option.bind_eq_bind, Option.bind_some, hstart] at hoffset
  obtain rfl := Option.some.inj hoffset
  refine ⟨line, start, hline, hstart, rfl, ?_⟩
  have hprefix : (firstLine (text.drop start)).take column <+: text.drop start :=
    (List.take_prefix _ _).trans (List.takeWhile_prefix _)
  rw [List.take_add, ← List.prefix_iff_eq_take.1 hprefix]

/-! ### Edits -/

/-- Replacing characters that stand before a range together with the range, by themselves and the
new text, makes the same text as replacing the range by the new text. -/
theorem applied?_left {range : Range} {text typed : List Char} (hinside : range.Inside text)
    (hfollows : range.Follows text typed) (new : List Char) :
    applied? (range.left typed.length) (typed ++ new) text = applied? range new text := by
  obtain ⟨start, stop, hstart, hstop, hle⟩ := hinside
  obtain ⟨_, hbefore, before, rfl⟩ := hfollows
  obtain ⟨line, lineStart, hline, hlineStart, rfl, htake⟩ := Position.take_offset? hstart hbefore
  have hbefore' := Position.lineBefore?_left hbefore
  have hline' : (range.start.left typed.length).lineNumber? = some line := hline
  -- the moved start is on the same line, hence it has an offset, and the typed text lies between
  -- the two
  have hstart' : (range.start.left typed.length).offset? text =
      some (lineStart + before.length) := by
    rw [Position.offset?, hline', hbefore']
    simp only [Option.bind_eq_bind, Option.bind_some, hlineStart]
    rfl
  obtain ⟨_, _, hline'', hlineStart'', hoffset, htake'⟩ := Position.take_offset? hstart' hbefore'
  cases hline'.symm.trans hline''
  cases hlineStart.symm.trans hlineStart''
  rw [List.length_append] at hle
  have hresult : text.take (lineStart + before.length) ++ (typed ++ new) ++ text.drop stop =
      text.take (lineStart + (before ++ typed).length) ++ new ++ text.drop stop := by
    rw [htake, htake']
    simp only [List.append_assoc]
  simp only [applied?, Range.left, hstart', hstart, hstop, Option.bind_eq_bind, Option.bind_some,
    hresult, List.length_append]
  rw [if_pos hle, if_pos (by omega)]

/-- An edit is applied to a range that lies inside the text. -/
theorem isSome_applied? {range : Range} {text : List Char} (hinside : range.Inside text)
    (new : List Char) : (applied? range new text).isSome := by
  obtain ⟨start, stop, hstart, hstop, hle⟩ := hinside
  simp only [applied?, hstart, hstop, Option.bind_eq_bind, Option.bind_some, if_pos hle]
  rfl

/-! ### Items -/

/-- An item that is widened has an edit whose new text is a string, which gets the typed text in
front of it. -/
theorem widenedEdit?_eq_some {typed : String} {item wide : Json.Members}
    (h : widenedEdit? typed item = some wide) :
    ∃ edit new, Assoc.get? "textEdit" item = some (.obj edit) ∧ newText? edit = some new ∧
      newText? wide = some (typed ++ new) ∧
      widenEdit? typed (Assoc.insert "newText" (.str (typed ++ new)) edit) = some wide := by
  obtain ⟨edit, new, hedit, -, hnew, -, hwide⟩ := widenedEdit?_eq_some_iff.1 h
  refine ⟨edit, new, hedit, hnew, ?_, hwide⟩
  rw [newText?_of_widenEdit? hwide, newText?_insert_newText]

/-- Each range of an edit that is widened starts further left by the length of the typed text. -/
theorem read?_of_widenEdit? {typed : String} {edit wide : Json.Members} {name : String}
    {range : Range} (h : widenEdit? typed edit = some wide) (hname : name ∈ rangeNames edit)
    (hrange : Range.read? (Json.member name edit) = some range) :
    Range.read? (Json.member name wide) = some (range.left typed.length) := by
  rw [Json.member, get?_of_widenEdit? h, if_pos hname, hrange, Option.map_some, Option.getD_some]
  exact Range.read?_widen hrange _

/-- Accepting a widened item makes the same of a document as accepting the item itself, for each of
its ranges that lies inside the document and that the typed text stands just before. It makes
something of the document whenever the item has a new text. -/
theorem accepted?_widenItem (token : Token) {item edit : Json.Members} {name : String}
    {range : Range} {text : List Char} (hedit : Assoc.get? "textEdit" item = some (.obj edit))
    (hname : name ∈ rangeNames edit)
    (hrange : Range.read? (Json.member name edit) = some range) (hinside : range.Inside text)
    (hfollows : range.Follows text token.typed.toList) :
    accepted? name (widenItem token.typed item) text = accepted? name item text ∧
      ∀ new, newText? edit = some new →
        ∃ result, applied? range new.toList text = some result ∧
          accepted? name item text = some result := by
  have haccepted : accepted? name item text =
      (newText? edit).bind fun new => applied? range new.toList text := by
    rw [accepted?, hedit]
    simp only [Option.bind_eq_bind, hrange, Option.bind_some]
  refine ⟨?_, fun new hnew => ?_⟩
  -- an item that is not widened stays itself; a widened one has both the moved ranges and the
  -- longer text
  · cases hwide : widenedEdit? token.typed item with
    | none => rw [widenItem, hwide]
    | some wide =>
      obtain ⟨edit', new, hedit', hnew, hwideNew, hwiden⟩ := widenedEdit?_eq_some hwide
      cases hedit.symm.trans hedit'
      have hwideRange := read?_of_widenEdit? hwiden (rangeNames_insert_newText _ edit ▸ hname)
        ((congrArg Range.read? (member_insert_newText hname _)).trans hrange)
      rw [haccepted, widenItem, hwide, accepted?, Assoc.get?_insert_self]
      simp only [Option.bind_eq_bind, hwideRange, hwideNew, hnew, Option.bind_some,
        String.toList_append]
      exact applied?_left hinside hfollows new.toList
  · obtain ⟨result, hresult⟩ := Option.isSome_iff_exists.1 (isSome_applied? hinside new.toList)
    refine ⟨result, hresult, ?_⟩
    rw [haccepted, hnew, Option.bind_some, hresult]

/-- An item whose edit can insert at the end of the typed text or replace what follows it. -/
def printItem : Json.Members :=
  let at_ (column : Int) : Json := .obj [("line", .int 1), ("character", .int column)]
  [("label", .str "println"), ("textEdit", .obj [("newText", .str "ntln"),
    ("insert", .obj [("start", at_ 7), ("end", at_ 7)]),
    ("replace", .obj [("start", at_ 7), ("end", at_ 9)])])]

/-- On the second line of a document `pri` was typed before `xy`; replacing gives `println` without
what followed, as it does before the item is widened. -/
theorem accepted?_printItem :
    let text := "f(x)\r\nx = prixy\n".toList
    accepted? "replace" (widenItem "pri" printItem) text = accepted? "replace" printItem text ∧
      accepted? "replace" printItem text = some "f(x)\r\nx = println\n".toList := by
  intro text
  obtain ⟨hsame, hmade⟩ := @accepted?_widenItem ⟨"pr", "i"⟩ printItem _ "replace" _ text rfl
    (by decide) rfl ⟨13, 15, by decide, by decide, by decide⟩
    ⟨"x = pri".toList, by decide, "x = ".toList, by decide⟩
  obtain ⟨result, hresult, haccepted⟩ := hmade "ntln" rfl
  refine ⟨hsame, haccepted.trans (hresult.symm.trans ?_)⟩
  decide

end JuliaSession.Completion
