import JuliaSession.Client.Basic
import JuliaSession.Proofs.Completion.Changes

/-!
# Columns in UTF-16

The handshake offers the server no encoding of positions, so the columns of the ranges count code
units of UTF-16. Widening moves the start of a range by as many columns as the typed text has
characters. A character outside the basic plane is a pair of code units, so for each of these the
start stays one column short of where the typed text begins.

* `Text.length_utf16`: how many code units a text has.
* `start_in_utf16_iff`: where a widened range starts, and when that is where the typed text begins.
-/

namespace JuliaSession

namespace Text

/-- A character outside the basic plane. -/
def isSupplementary (c : Char) : Bool := 0x10000 ≤ c.toNat

/-- The code units of a character in UTF-16: the character itself, or a pair of surrogates. -/
def utf16Units (c : Char) : List Nat :=
  if isSupplementary c then
    [0xD800 + (c.toNat - 0x10000) / 0x400, 0xDC00 + (c.toNat - 0x10000) % 0x400]
  else [c.toNat]

/-- The code units of a text in UTF-16. -/
def utf16 (s : String) : List Nat := s.toList.flatMap utf16Units

/-- A text has one code unit for each character, and one more for each outside the basic plane. -/
theorem length_utf16 (s : String) :
    (utf16 s).length = s.length + s.toList.countP isSupplementary := by
  rw [utf16, ← String.length_toList]
  induction s.toList with
  | nil => rfl
  | cons c cs ih =>
    rw [List.flatMap_cons, List.length_append, ih, List.length_cons, List.countP_cons, utf16Units]
    split
    · simp only [List.length_cons, List.length_nil]
      omega
    · simp only [List.length_cons, List.length_nil]
      omega

end Text

/-- The handshake says nothing about positions: there is nothing of the general capabilities in it,
where the encodings of positions would be offered. -/
theorem Client.handshakeParams_general (client : Client) (processId : Int) (cwd : String) :
    Json.follow? ["capabilities", "general"] (client.handshakeParams processId cwd) = none := by
  rw [Client.handshakeParams]
  rfl

namespace Completion

open Json (follow?)

/-- The start of a range of an edit that is due, after widening: it is moved left by the characters
of the typed text. -/
theorem Due.start_of_widened {typed text name : String} {item edit : Json.Members} {range : Json}
    {column : Int} (h : Due typed item edit text) (hname : name ∈ rangeNames edit)
    (hrange : Assoc.get? name edit = some range) (hcolumn : startColumn? range = some column) :
    follow? ["textEdit", name, "start", "character"] (.obj (widenItem typed item)) =
      some (.int (max 0 (column - typed.length))) := by
  obtain ⟨wideEdit, hwideEdit, -, hranges, -⟩ := h.widened.edit
  obtain ⟨range', wideRange, hrange', hwideRange, hmoved⟩ := hranges name hname
  obtain rfl := Option.some.inj (hrange.symm.trans hrange')
  obtain ⟨column', hcolumn', hstart⟩ := hmoved.start
  obtain rfl := Option.some.inj (hcolumn.symm.trans hcolumn')
  rw [Json.follow?_cons, hwideEdit, Option.bind_some, Json.follow?_cons, hwideRange,
    Option.bind_some, hstart]

/-- No handshake offers an encoding of positions, so columns are code units of UTF-16. Where the
typed text has room before a range that is widened, the range then starts too far right, by as many
columns as the typed text has characters outside the basic plane; it starts where the typed text
begins exactly if there are none. -/
theorem start_in_utf16_iff (token : Token) {item edit : Json.Members} {text name : String}
    {range : Json} {column : Int} (hdue : Due token.typed item edit text)
    (hname : name ∈ rangeNames edit) (hrange : Assoc.get? name edit = some range)
    (hcolumn : startColumn? range = some column)
    (hroom : (Text.utf16 token.typed).length ≤ column) :
    let start := follow? ["textEdit", name, "start", "character"]
      (.obj (widenItem token.typed item))
    let begins := column - (Text.utf16 token.typed).length
    (∀ (client : Client) processId cwd,
        follow? ["capabilities", "general"] (client.handshakeParams processId cwd) = none) ∧
      start = some (.int (begins + token.typed.toList.countP Text.isSupplementary)) ∧
        (start = some (.int begins) ↔
          ∀ c ∈ token.typed.toList, Text.isSupplementary c = false) := by
  intro start begins
  have hlength := Text.length_utf16 token.typed
  have hstart : start =
      some (.int (begins + token.typed.toList.countP Text.isSupplementary)) := by
    have hmoved : max 0 (column - token.typed.length) =
        begins + token.typed.toList.countP Text.isSupplementary := by
      -- there is room for the typed text, so the start of the line is no obstacle
      omega
    rw [← hmoved]
    exact hdue.start_of_widened hname hrange hcolumn
  refine ⟨fun client processId cwd => client.handshakeParams_general processId cwd, hstart, ?_⟩
  rw [hstart, Option.some.injEq, Json.int.injEq]
  have hnone : begins + token.typed.toList.countP Text.isSupplementary = begins ↔
      token.typed.toList.countP Text.isSupplementary = 0 := by omega
  rw [hnone, List.countP_eq_zero]
  simp

/-- A range without characters behind an italic letter, which takes the first two columns. -/
def behindItalic : Json :=
  let place : Json := .obj [("line", .int 0), ("character", .int 2)]
  .obj [("start", place), ("end", place)]

/-- An edit that inserts a letter behind the italic one. -/
def italicEdit : Json.Members := [("newText", .str "s"), ("range", behindItalic)]

/-- An item with that edit. -/
def italicItem : Json.Members := [("label", .str "𝑥s"), ("textEdit", .obj italicEdit)]

/-- The italic letter was typed as one character, so the widened range starts in the middle of its
two columns, and not before it. -/
theorem italic_start_inside :
    let typed := (Token.mk "" "𝑥").typed
    let start := follow? ["textEdit", "range", "start", "character"]
      (.obj (widenItem typed italicItem))
    Due typed italicItem italicEdit "s" ∧ startColumn? behindItalic = some 2 ∧
      (Text.utf16 typed).length = 2 ∧ start = some (.int 1) ∧ start ≠ some (.int 0) := by
  intro typed start
  have hname : "range" ∈ rangeNames italicEdit := by decide
  have hrange : Assoc.get? "range" italicEdit = some behindItalic := rfl
  have hcolumn : startColumn? behindItalic = some 2 := by decide
  have hdue : Due typed italicItem italicEdit "s" := by
    refine ⟨rfl, ?_, .inl rfl, by decide, ?_⟩
    · intro kind hkind
      cases hkind
    · intro name hname
      rw [rangeNames_of_some hrange, List.mem_singleton] at hname
      exact ⟨behindItalic, by rw [hname, hrange], by decide⟩
  have hroom : (Text.utf16 typed).length ≤ (2 : Int) := by decide
  obtain ⟨-, hstart, hiff⟩ := start_in_utf16_iff ⟨"", "𝑥"⟩ hdue hname hrange hcolumn hroom
  refine ⟨hdue, hcolumn, by decide, hstart, fun hbegins => ?_⟩
  -- the letter is outside the basic plane
  have hbasic := hiff.1 hbegins '𝑥' (by decide)
  revert hbasic
  decide

end Completion

end JuliaSession
