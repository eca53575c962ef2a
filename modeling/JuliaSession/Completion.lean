import JuliaSession.Json.Basic
import JuliaSession.Text.Split

/-!
# Completion

What the server proposes and what the editor has already typed can disagree about where the current
word starts. `Completion.widen` widens the text edit of every item so that it replaces the typed
text instead of leaving a copy of it before the inserted one. Items it has no business with pass
through unchanged: unit items, items without a text edit, edits that already start with the typed
text and edits without a valid range.
-/

namespace JuliaSession.Completion

/-- The token being completed, as the editor sees it. -/
structure Token where
  /-- The part of the word before the cursor. -/
  word : String
  /-- What was typed since completion was offered; it may repeat the word. -/
  input : String
  deriving DecidableEq, Repr, Inhabited

/-- The text before the cursor that an edit has to replace. -/
def Token.typed (token : Token) : String :=
  if Text.startsWith token.input.toList token.word.toList then token.input
  else token.word ++ token.input

/-- The kind of unit items, which are never widened. -/
def unitKind : Int := 11

/-- The number that a line or column says; truth values count as 0 and 1. -/
def wholeNumber? : Json → Option Int
  | .int i => some i
  | .bool b => some (if b then 1 else 0)
  | _ => none

/-- A place in a document. -/
structure Position where
  /-- The line as it was given. -/
  line : Json
  /-- The column as it was given. -/
  character : Json
  /-- The number that the column says. -/
  column : Int
  deriving DecidableEq

/-- The place that a JSON value describes: an object whose line and column are whole numbers. -/
def Position.read? (value : Json) : Option Position := do
  let line ← value.get? "line"
  let character ← value.get? "character"
  -- the line only has to be a number; the column is computed with
  let _ ← wholeNumber? line
  let column ← wholeNumber? character
  return ⟨line, character, column⟩

/-- A place as JSON, with nothing but its line and column. -/
def Position.toJson (position : Position) : Json :=
  .obj [("line", position.line), ("character", position.character)]

/-- A part of a document. -/
structure Range where
  /-- Where it starts. -/
  start : Position
  /-- Where it ends. -/
  stop : Position
  deriving DecidableEq

/-- The range that a JSON value describes. -/
def Range.read? (value : Json) : Option Range := do
  let start ← Position.read? (← value.get? "start")
  let stop ← Position.read? (← value.get? "end")
  return ⟨start, stop⟩

/-- The range with its start moved left by `length` columns, but not beyond the line's start. -/
def Range.widen (range : Range) (length : Nat) : Json :=
  let start := { range.start with character := .int (max 0 (range.start.column - length)) }
  .obj [("start", start.toJson), ("end", range.stop.toJson)]

/-- An edit with its ranges widened by the length of `typed`; nothing if it has no valid range. An
edit has one range, or one for inserting and one for replacing. -/
def widenEdit? (typed : String) (edit : Json.Members) : Option Json.Members :=
  match Assoc.get? "range" edit with
  | some range => do
    let range ← Range.read? range
    return Assoc.insert "range" (range.widen typed.length) edit
  | none => do
    -- without a range both ranges have to be valid, or the edit stays as it is
    let insert ← Range.read? (Json.member "insert" edit)
    let replace ← Range.read? (Json.member "replace" edit)
    return Assoc.insert "replace" (replace.widen typed.length)
      (Assoc.insert "insert" (insert.widen typed.length) edit)

/-- The text an edit inserts; an edit without one inserts nothing. -/
def newText? (edit : Json.Members) : Option String :=
  match Assoc.get? "newText" edit with
  | none => some ""
  | some (.str s) => some s
  | some _ => none

/-- Is this the kind of unit items? Kinds are compared as numbers. -/
def isUnitKind (kind : Json) : Bool := kind.integerValue? == some unitKind

/-- The edit of an item widened to what was typed, or nothing if the item is to stay. -/
def widenedEdit? (typed : String) (item : Json.Members) : Option Json.Members :=
  match Assoc.get? "textEdit" item with
  | some (.obj edit) =>
    -- a unit item is chosen by its symbol, which the typed text does not start
    if isUnitKind (Json.member "kind" item) then none
    else
      match newText? edit with
      | none => none
      | some text =>
        -- an edit that repeats the typed text is already wide enough
        if Text.startsWith text.toList typed.toList then none
        else widenEdit? typed (Assoc.insert "newText" (.str (typed ++ text)) edit)
  | _ => none

/-- An item widened to what was typed. -/
def widenItem (typed : String) (item : Json.Members) : Json.Members :=
  match widenedEdit? typed item with
  | some edit => Assoc.insert "textEdit" (.obj edit) item
  | none => item

/-- A member of the item list; whatever is not an object stays. -/
def widenMember (typed : String) : Json → Json
  | .obj item => .obj (widenItem typed item)
  | value => value

/-- The items of a response, if it has a list of them. -/
def items? : Json → Option (List Json)
  | .arr items => some items
  | .obj members =>
    match Assoc.get? "items" members with
    | some (.arr items) => some items
    | _ => none
  | _ => none

/-- Does the response say that there are more items? -/
def isIncomplete : Json → Bool
  | .obj members => (Json.member "isIncomplete" members).isTruthy
  | _ => false

/-- A response widened for the token: always an item list. A response without items becomes an
empty list. -/
def widen (token : Token) (response : Json) : Json :=
  .obj
    [("items", .arr (((items? response).getD []).map (widenMember token.typed))),
      ("isIncomplete", .bool (isIncomplete response))]

/-- The type of a response that is neither absent nor an item list, as a warning names it. -/
def malformed? (response : Json) : Option String :=
  match items? response, response with
  | some _, _ => none
  | none, .null => none
  | none, .bool _ => some "bool"
  | none, .int _ => some "int"
  | none, .float _ => some "float"
  | none, .str _ => some "str"
  | none, .arr _ => some "list"
  | none, .obj _ => some "dict"

end JuliaSession.Completion
