import Mathlib.Data.List.Forall2
import JuliaSession.Completion.Provide
import JuliaSession.Proofs.Completion.Ranges
import JuliaSession.Proofs.Completion.Widening
import JuliaSession.Proofs.Machine.Logging

/-!
# What widening changes

Widening a response changes the items that an edit is due to be widened of, and of these the new
text and the starts of the ranges. Everything else, whatever values it is, comes out as it went in.

* `Due`: an item has an edit that is to be widened.
* `Widened`: what becomes of such an item, member by member (`Due.widened`).
* `widenItem_eq_self`: an item without such an edit stays as it is.
* `widenReported_ok`: a response is widened whether or not it has to be reported.
* `widen_changes_due`: the items of a widened response, one for each item of the response.
-/

namespace JuliaSession

namespace Completion

open Json (follow?)

/-! ### Ranges -/

/-- A range has become one that starts further left, at the start of its line at most; the line of
its start, and its end, are as they were. -/
structure MovedLeft (length : Nat) (range wide : Json) : Prop where
  /-- The column of the start is less by the length, if there is room. -/
  start : ∃ column, startColumn? range = some column ∧
    follow? ["start", "character"] wide = some (.int (max 0 (column - length)))
  /-- The other three numbers are the same values. -/
  kept : ∀ path ∈ rangePaths, path ≠ ["start", "character"] →
    follow? path wide = follow? path range

/-- A widened range starts further left, and is otherwise what it was. -/
theorem movedLeft_widen {value : Json} {range : Range} (h : Range.read? value = some range)
    (length : Nat) : MovedLeft length value (range.widen length) := by
  obtain ⟨hstartLine, -, hstartColumn, hcolumn, hstopLine, -, hstopColumn, -⟩ :=
    Range.read?_eq_some_iff.1 h
  constructor
  · exact ⟨range.start.column, by simp [startColumn?, numberAt?, hstartColumn, hcolumn], rfl⟩
  · intro path hpath hother
    simp only [rangePaths, List.mem_cons, List.not_mem_nil, or_false] at hpath
    rcases hpath with rfl | rfl | rfl | rfl
    · exact hstartLine.symm
    · exact absurd rfl hother
    · exact hstopLine.symm
    · exact hstopColumn.symm

/-! ### Items -/

/-- An edit of an item is due to be widened: the item is no unit item, the edit inserts a text that
does not begin with what was typed, and its ranges are valid: its one range, or, if there is no such
member, the ones for inserting and for replacing. An edit without a new text inserts nothing. -/
structure Due (typed : String) (item edit : Json.Members) (text : String) : Prop where
  /-- The item has the edit. -/
  hasEdit : Assoc.get? "textEdit" item = some (.obj edit)
  /-- The item has another kind, or none; kinds are compared as numbers. -/
  noUnit : ∀ kind, Assoc.get? "kind" item = some kind → kind.integerValue? ≠ some 11
  /-- The edit inserts the text. -/
  inserts : Assoc.get? "newText" edit = some (.str text) ∨
    Assoc.get? "newText" edit = none ∧ text = ""
  /-- The text does not begin with what was typed. -/
  bare : ¬ typed.toList <+: text.toList
  /-- The ranges are valid. -/
  ranges : ∀ name ∈ rangeNames edit, ∃ range, Assoc.get? name edit = some range ∧ IsRange range

/-- What becomes of an item with an edit that is due: the new text begins with what was typed, each
range starts further left by as many columns, and all else is unchanged. -/
structure Widened (typed : String) (item edit : Json.Members) (text : String)
    (wide : Json.Members) : Prop where
  /-- The other members of the item are unchanged. -/
  item : ∀ name, name ≠ "textEdit" → Assoc.get? name wide = Assoc.get? name item
  /-- Of the edit the new text and the ranges are changed, and no other member. -/
  edit : ∃ wideEdit, Assoc.get? "textEdit" wide = some (.obj wideEdit) ∧
    Assoc.get? "newText" wideEdit = some (.str (typed ++ text)) ∧
      (∀ name ∈ rangeNames edit, ∃ range wideRange, Assoc.get? name edit = some range ∧
        Assoc.get? name wideEdit = some wideRange ∧ MovedLeft typed.length range wideRange) ∧
      ∀ name, name ≠ "newText" → name ∉ rangeNames edit →
        Assoc.get? name wideEdit = Assoc.get? name edit

theorem newText?_eq_some_iff {edit : Json.Members} {text : String} :
    newText? edit = some text ↔ Assoc.get? "newText" edit = some (.str text) ∨
      Assoc.get? "newText" edit = none ∧ text = "" := by
  unfold newText?
  cases Assoc.get? "newText" edit with
  | none => simp [eq_comm]
  | some value => cases value <;> simp

theorem isUnitKind_member_iff {item : Json.Members} :
    isUnitKind (Json.member "kind" item) = true ↔
      ∃ kind, Assoc.get? "kind" item = some kind ∧ kind.integerValue? = some 11 := by
  rw [isUnitKind, beq_iff_eq, Json.member]
  cases Assoc.get? "kind" item with
  | none => simp [Json.integerValue?]
  | some kind => simp [unitKind]

/-- The ranges of an edit are valid exactly if it can be widened, whatever text it inserts. -/
theorem ranges_valid_iff (typed : String) {edit : Json.Members} (text : Json) :
    (∀ name ∈ rangeNames edit, ∃ range, Assoc.get? name edit = some range ∧ IsRange range) ↔
      ∃ wide, widenEdit? typed (Assoc.insert "newText" text edit) = some wide := by
  rw [exists_widenEdit?_iff, rangeNames_insert_newText]
  refine forall₂_congr fun name hname => ?_
  rw [member_insert_newText hname]
  simp only [read?_member_eq_some_iff, isRange_iff]
  constructor
  · rintro ⟨value, hvalue, range, hrange⟩
    exact ⟨range, value, hvalue, hrange⟩
  · rintro ⟨range, value, hvalue, hrange⟩
    exact ⟨value, hvalue, range, hrange⟩

/-- An edit that is due is widened, with its new text. -/
theorem Due.exists_widenedEdit? {typed text : String} {item edit : Json.Members}
    (h : Due typed item edit text) :
    ∃ wide, widenedEdit? typed item = some wide ∧
      widenEdit? typed (Assoc.insert "newText" (.str (typed ++ text)) edit) = some wide := by
  obtain ⟨wide, hwide⟩ := (ranges_valid_iff typed (.str (typed ++ text))).1 h.ranges
  have hkind : ¬ isUnitKind (Json.member "kind" item) = true := by
    rw [isUnitKind_member_iff]
    rintro ⟨kind, hkind, hunit⟩
    exact h.noUnit kind hkind hunit
  refine ⟨wide, widenedEdit?_eq_some_iff.2 ⟨edit, text, h.hasEdit, hkind, ?_, h.bare, hwide⟩, hwide⟩
  exact newText?_eq_some_iff.2 h.inserts

/-- An edit that is widened was due. -/
theorem exists_due_of_widenedEdit? {typed : String} {item wide : Json.Members}
    (h : widenedEdit? typed item = some wide) : ∃ edit text, Due typed item edit text := by
  obtain ⟨edit, text, hedit, hkind, htext, hbare, hwide⟩ := widenedEdit?_eq_some_iff.1 h
  refine ⟨edit, text, hedit, ?_, newText?_eq_some_iff.1 htext, hbare, ?_⟩
  · intro kind hmember hunit
    exact hkind (isUnitKind_member_iff.2 ⟨kind, hmember, hunit⟩)
  · exact (ranges_valid_iff typed (.str (typed ++ text))).2 ⟨wide, hwide⟩

/-- An item whose edit is due is widened as its edit is. -/
theorem Due.widened {typed text : String} {item edit : Json.Members}
    (h : Due typed item edit text) : Widened typed item edit text (widenItem typed item) := by
  obtain ⟨wideEdit, hwide, hedit⟩ := h.exists_widenedEdit?
  have hitem : widenItem typed item = Assoc.insert "textEdit" (.obj wideEdit) item := by
    simp only [widenItem, hwide]
  have hget := get?_of_widenEdit? hedit
  -- the new text is in place before the ranges are looked at, and it is none of them
  rw [rangeNames_insert_newText] at hget
  rw [hitem]
  constructor
  · intro name hname
    exact Assoc.get?_insert_of_ne hname _ _
  · refine ⟨wideEdit, Assoc.get?_insert_self _ _ _, ?_, ?_, ?_⟩
    · rw [hget, if_neg (newText_not_mem_rangeNames edit), Assoc.get?_insert_self]
    · intro name hname
      obtain ⟨value, hvalue, hvalid⟩ := h.ranges name hname
      obtain ⟨range, hrange⟩ := isRange_iff.1 hvalid
      refine ⟨value, range.widen typed.length, hvalue, ?_, movedLeft_widen hrange _⟩
      rw [hget, if_pos hname, member_insert_newText hname,
        read?_member_eq_some_iff.2 ⟨value, hvalue, hrange⟩, Option.map_some]
    · intro name htext hname
      rw [hget, if_neg hname, Assoc.get?_insert_of_ne htext]

/-- An item without an edit that is due stays as it is. -/
theorem widenItem_eq_self {typed : String} {item : Json.Members}
    (h : ¬ ∃ edit text, Due typed item edit text) : widenItem typed item = item := by
  have hnone : widenedEdit? typed item = none := by
    by_contra hsome
    obtain ⟨wide, hwide⟩ := Option.ne_none_iff_exists'.1 hsome
    exact h (exists_due_of_widenedEdit? hwide)
  simp only [widenItem, hnone]

/-- An item whose edit is due does not stay as it is: its new text becomes longer. -/
theorem Due.widenItem_ne {typed text : String} {item edit : Json.Members}
    (h : Due typed item edit text) : widenItem typed item ≠ item := by
  intro hsame
  obtain ⟨wideEdit, hwideEdit, hnew, -⟩ := h.widened.edit
  rw [hsame, h.hasEdit] at hwideEdit
  cases hwideEdit
  rcases h.inserts with htext | ⟨hnone, -⟩
  · -- the same new text would begin with what was typed
    rw [htext, Option.some.injEq, Json.str.injEq] at hnew
    apply h.bare
    rw [hnew, String.toList_append]
    exact List.prefix_append _ _
  · rw [hnone] at hnew
    cases hnew

/-! ### Responses -/

/-- The items of a response: the response itself if it is a list, or its list of items. -/
inductive Lists : Json → List Json → Prop
  /-- A list is its own list of items. -/
  | bare (items : List Json) : Lists (.arr items) items
  /-- An object may have a list of items. -/
  | member {members : Json.Members} {items : List Json}
      (h : Assoc.get? "items" members = some (.arr items)) : Lists (.obj members) items

theorem lists_iff {response : Json} {items : List Json} :
    Lists response items ↔ items? response = some items := by
  constructor
  · rintro (_ | h)
    · rfl
    · simp [items?, h]
  · intro h
    unfold items? at h
    split at h
    next => cases h; exact .bare _
    next members =>
      split at h
      next hitems => cases h; exact .member hitems
      next => cases h
    next => cases h

/-- A member of the list of items and what becomes of it: it changes exactly if it is an item with
an edit that is due, and then it becomes the widened item. -/
structure Changes (typed : String) (old new : Json) : Prop where
  /-- It changes exactly if an edit is due. -/
  iff_due : new ≠ old ↔ ∃ item edit text, old = .obj item ∧ Due typed item edit text
  /-- It changes as the edit asks for. -/
  widened : ∀ item edit text, old = .obj item → Due typed item edit text →
    ∃ wide, new = .obj wide ∧ Widened typed item edit text wide

theorem changes_widenMember (typed : String) (old : Json) :
    Changes typed old (widenMember typed old) := by
  cases old with
  | obj item =>
    refine ⟨⟨fun hne => ?_, ?_⟩, ?_⟩
    · by_contra hnone
      have hself : widenItem typed item = item := widenItem_eq_self fun ⟨edit, text, hdue⟩ =>
        hnone ⟨item, edit, text, rfl, hdue⟩
      exact hne (congrArg Json.obj hself)
    · rintro ⟨_, edit, text, ⟨⟩, hdue⟩ hsame
      exact hdue.widenItem_ne (Json.obj.inj hsame)
    · rintro _ edit text ⟨⟩ hdue
      exact ⟨widenItem typed item, rfl, hdue.widened⟩
  | _ => exact ⟨by simp [widenMember], by simp⟩

/-- A response is widened, whatever it is; only the report of one without a list of items needs a
time of day that can be written. -/
theorem widenReported_ok (token : Token) {response : Json} {world : World}
    (h : malformed? response = none ∨ world.Dated) :
    ((widenReported token response).perform world).1 = .ok (widen token response) := by
  unfold widenReported
  cases hmalformed : malformed? response with
  | none => rfl
  | some type =>
    dsimp only
    rw [hmalformed] at h
    cases hreport : (Act.log "lsp.middleware" .warn "malformed completion response"
        [("type", Log.text type)]).perform world with
    | mk result after =>
      -- no time passes while the report is written
      have hdated : after.Dated :=
        ((logsOnly_log _ _ _ _).ends hreport).dated_iff.2 (h.resolve_left nofun)
      obtain rfl := log_ok hreport hdated
      rw [Step.perform_bind_ok hreport]
      rfl

/-- A widened response has one item for each item of the response, in their order, and none if the
response has no list of items. An item changes exactly if it has an edit that is due to be widened;
then the text that was typed is put before its new text, each of its ranges starts further left by
the length of that text but not before the start of its line, and every other member is unchanged,
as are the line of the start and the end of each range. -/
theorem widen_changes_due (token : Token) (response : Json) :
    (∀ world : World, malformed? response = none ∨ world.Dated →
        ((widenReported token response).perform world).1 = .ok (widen token response)) ∧
      ∃ wide, (widen token response).get? "items" = some (.arr wide) ∧
        (∀ items, Lists response items → List.Forall₂ (Changes token.typed) items wide) ∧
          ((∀ items, ¬ Lists response items) → wide = []) := by
  refine ⟨fun _ => widenReported_ok token, _, rfl, ?_, ?_⟩
  · intro items hitems
    rw [lists_iff.1 hitems, Option.getD_some, List.forall₂_map_right_iff, List.forall₂_same]
    exact fun old _ => changes_widenMember token.typed old
  · intro hnone
    have hitems : items? response = none := by
      by_contra hsome
      obtain ⟨items, hitems⟩ := Option.ne_none_iff_exists'.1 hsome
      exact hnone items (lists_iff.2 hitems)
    simp [hitems]

end Completion

end JuliaSession
