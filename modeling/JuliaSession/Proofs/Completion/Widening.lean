import JuliaSession.Completion.Provide

/-!
# Widening twice

An item leaves `widenItem` in one of two ways: as it came, or with an edit whose new text begins
with the typed text. Neither is widened again, so widening a response a second time changes nothing
and reports nothing.

* `widenedEdit?_eq_some_iff`: which items are widened.
* `startsWith_newText_of_widenedEdit?`: the new text of a widened edit begins with the typed text.
* `widenItem_widenItem`: an item is widened at most once.
* `widen_idempotent`: a response is widened at most once, and a second pass writes no record.
-/

namespace JuliaSession

/-- A text begins with a start exactly if the start is a prefix of it. -/
theorem Text.startsWith_iff_prefix {cs start : List Char} :
    Text.startsWith cs start = true ↔ start <+: cs := by
  rw [startsWith, Option.isSome_iff_exists]
  constructor
  · rintro ⟨rest, hrest⟩
    exact ⟨rest, (Text.afterStart?_eq_some hrest).symm⟩
  · rintro ⟨rest, rfl⟩
    exact ⟨rest, Text.afterStart?_append start rest⟩

namespace Completion

/-- Setting the new text of an edit sets what it inserts. -/
@[simp]
theorem newText?_insert_newText (text : String) (edit : Json.Members) :
    newText? (Assoc.insert "newText" (.str text) edit) = some text := by
  simp [newText?]

/-- What an edit inserts depends on its new text only. -/
theorem newText?_congr {edit other : Json.Members}
    (h : Assoc.get? "newText" edit = Assoc.get? "newText" other) :
    newText? edit = newText? other := by
  unfold newText?
  rw [h]

/-- Widening the ranges of an edit leaves what it inserts alone. -/
theorem newText?_of_widenEdit? {typed : String} {edit wide : Json.Members}
    (h : widenEdit? typed edit = some wide) : newText? wide = newText? edit := by
  unfold widenEdit? at h
  apply newText?_congr
  split at h
  next value hvalue =>
    obtain ⟨range, hrange, hwide⟩ := Option.bind_eq_some_iff.1 h
    obtain rfl := Option.some.inj hwide
    exact Assoc.get?_insert_of_ne (by decide) _ _
  next hnone =>
    obtain ⟨insert, hinsert, h⟩ := Option.bind_eq_some_iff.1 h
    obtain ⟨replace, hreplace, hwide⟩ := Option.bind_eq_some_iff.1 h
    obtain rfl := Option.some.inj hwide
    rw [Assoc.get?_insert_of_ne (by decide), Assoc.get?_insert_of_ne (by decide)]

/-- An item is widened exactly if it is no unit item, its edit inserts a text that does not begin
with the typed text, and the ranges of the edit can be widened. -/
theorem widenedEdit?_eq_some_iff {typed : String} {item wide : Json.Members} :
    widenedEdit? typed item = some wide ↔
      ∃ edit text, Assoc.get? "textEdit" item = some (.obj edit) ∧
        ¬ isUnitKind (Json.member "kind" item) = true ∧ newText? edit = some text ∧
        ¬ typed.toList <+: text.toList ∧
        widenEdit? typed (Assoc.insert "newText" (.str (typed ++ text)) edit) = some wide := by
  simp only [← Text.startsWith_iff_prefix]
  constructor
  · intro h
    unfold widenedEdit? at h
    split at h
    next edit hedit =>
      split at h
      next => cases h
      next hkind =>
        split at h
        next => cases h
        next text htext =>
          split at h
          next => cases h
          next hbare => exact ⟨edit, text, hedit, hkind, htext, hbare, h⟩
    next => cases h
  · rintro ⟨edit, text, hedit, hkind, htext, hbare, hwide⟩
    unfold widenedEdit?
    rw [hedit]
    simp only [htext]
    rw [if_neg hkind, if_neg hbare, hwide]

/-- The new text of a widened edit begins with the typed text. -/
theorem startsWith_newText_of_widenedEdit? {typed : String} {item edit : Json.Members}
    (h : widenedEdit? typed item = some edit) :
    ∃ text, newText? edit = some text ∧ Text.startsWith text.toList typed.toList = true := by
  obtain ⟨old, text, -, -, -, -, hwide⟩ := widenedEdit?_eq_some_iff.1 h
  refine ⟨typed ++ text, ?_, ?_⟩
  · rw [newText?_of_widenEdit? hwide, newText?_insert_newText]
  · rw [Text.startsWith_iff_prefix, String.toList_append]
    exact List.prefix_append _ _

/-- An edit whose new text begins with the typed text is not widened. -/
theorem widenedEdit?_eq_none_of_startsWith {typed text : String} {item edit : Json.Members}
    (hedit : Assoc.get? "textEdit" item = some (.obj edit)) (htext : newText? edit = some text)
    (hwide : Text.startsWith text.toList typed.toList = true) :
    widenedEdit? typed item = none := by
  unfold widenedEdit?
  rw [hedit]
  simp only [htext, hwide, if_true, ite_self]

/-- An item is widened at most once. -/
theorem widenItem_widenItem (typed : String) (item : Json.Members) :
    widenItem typed (widenItem typed item) = widenItem typed item := by
  cases hfirst : widenedEdit? typed item with
  | none =>
    have hkept : widenItem typed item = item := by simp only [widenItem, hfirst]
    rw [hkept, hkept]
  | some edit =>
    obtain ⟨text, htext, hwide⟩ := startsWith_newText_of_widenedEdit? hfirst
    have hchanged : widenItem typed item = Assoc.insert "textEdit" (.obj edit) item := by
      simp only [widenItem, hfirst]
    have hagain : widenedEdit? typed (Assoc.insert "textEdit" (.obj edit) item) = none :=
      widenedEdit?_eq_none_of_startsWith (Assoc.get?_insert_self _ _ _) htext hwide
    rw [hchanged]
    simp only [widenItem, hagain]

/-- A member of an item list is widened at most once, whether it is an item or not. -/
theorem widenMember_widenMember (typed : String) (value : Json) :
    widenMember typed (widenMember typed value) = widenMember typed value := by
  cases value with
  | obj item => simp only [widenMember, widenItem_widenItem]
  | null | bool | int | float | str | arr => rfl

/-- A widened response has an item list: the one it was made with. -/
@[simp]
theorem items?_widen (token : Token) (response : Json) :
    items? (widen token response) =
      some (((items? response).getD []).map (widenMember token.typed)) := rfl

/-- A widened response is as complete as the response was. -/
@[simp]
theorem isIncomplete_widen (token : Token) (response : Json) :
    isIncomplete (widen token response) = isIncomplete response := rfl

/-- A widened response is well formed. -/
@[simp]
theorem malformed?_widen (token : Token) (response : Json) :
    malformed? (widen token response) = none := by
  simp [malformed?]

/-- The value of a response does not change when it is widened again. -/
theorem widen_widen (token : Token) (response : Json) :
    widen token (widen token response) = widen token response := by
  have hitems : (((items? response).getD []).map (widenMember token.typed)).map
      (widenMember token.typed) = ((items? response).getD []).map (widenMember token.typed) := by
    rw [List.map_map]
    exact List.map_congr_left fun value _ => widenMember_widenMember _ value
  rw [widen, items?_widen, isIncomplete_widen, Option.getD_some, hitems]
  rfl

/-- Widening again what was widened is no step at all. -/
theorem widenReported_widen (token : Token) (response : Json) :
    widenReported token (widen token response) = pure (widen token response) := by
  simp only [widenReported, malformed?_widen, widen_widen]

/-- Widening is idempotent for every token and every response, whatever the response is: the second
pass gives the value of the first, and carrying it out writes nothing to the log. -/
theorem widen_idempotent (token : Token) (response : Json) :
    widen token (widen token response) = widen token response ∧
      (do widenReported token (← widenReported token response)) =
        widenReported token response := by
  refine ⟨widen_widen token response, ?_⟩
  -- what is handed to the second pass is the widened response, reported or not
  rw [widenReported.eq_1 token response]
  split
  next type => simp only [bind_assoc, pure_bind, widenReported_widen]
  next => simp only [pure_bind, widenReported_widen]

end Completion

end JuliaSession
