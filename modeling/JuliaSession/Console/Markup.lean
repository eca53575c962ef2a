import JuliaSession.Console.Literal
import JuliaSession.Console.Style
import JuliaSession.Console.StyledText
import JuliaSession.Text.Word

/-!
# Markup

Texts for the console carry style tags in brackets. `Markup.read` takes the tags out and keeps the
spans between them, and `Markup.plain` is what is left of the text: a tag is a bracketed text that
starts with a lower-case letter, `#`, `/` or `@` and holds no opening bracket. A backslash before a
tag keeps the tag as text. A closing tag has to name an open one, or be empty, which closes the last
one; tags are known by the style they name, so two spellings of one style match. A tag that starts
with `@` names a handler; when it is closed, what follows its equals sign has to be arguments.
-/

namespace JuliaSession.Markup

/-- Can a tag start with this character? -/
def startsTag (c : Char) : Bool := ('a' ≤ c && c ≤ 'z') || c = '#' || c = '/' || c = '@'

/-- The tag that a text starts with, without its brackets, and what follows it. -/
def tag? : List Char → Option (List Char × List Char)
  | '[' :: c :: rest =>
    if startsTag c then
      let body := rest.takeWhile fun d => d ≠ '[' ∧ d ≠ ']'
      match rest.drop body.length with
      | ']' :: after => some (c :: body, after)
      | _ => none
    else none
  | _ => none

/-- A part of a text. -/
inductive Piece where
  /-- Text outside of tags. -/
  | text (chars : List Char)
  /-- Text that stays as it is: backslashes before a tag, or a tag that a backslash keeps. -/
  | kept (chars : List Char)
  /-- A tag, without its brackets. -/
  | tag (body : List Char)
  deriving DecidableEq, Repr

/-- The parts of a text; `pending` backslashes stand right before it and belong to it, and `skip`
characters belong to a tag that was taken out. A pair of backslashes before a tag is one
backslash. -/
def pieces : Nat → Nat → List Char → List Piece
  | _, pending, [] => [.text (List.replicate pending '\\')]
  | skip + 1, pending, _ :: rest => pieces skip pending rest
  | 0, pending, c :: rest =>
    if c = '\\' then pieces 0 (pending + 1) rest
    else
      match tag? (c :: rest) with
      | some (body, _) =>
        -- an odd backslash keeps the tag
        let found := if pending % 2 = 1 then Piece.kept ('[' :: body ++ [']']) else .tag body
        .kept (List.replicate (pending / 2) '\\') :: found :: pieces (body.length + 1) 0 rest
      | none => .text (List.replicate pending '\\' ++ [c]) :: pieces 0 0 rest

/-- Join neighbouring texts. -/
def joinTexts : List Piece → List Piece
  | .text a :: rest =>
    match joinTexts rest with
    | .text b :: rest => .text (a ++ b) :: rest
    | rest => .text a :: rest
  | piece :: rest => piece :: joinTexts rest
  | [] => []

/-- Outside of tags a backslash before a bracket is dropped. -/
def unescape : List Char → List Char
  | '\\' :: '[' :: rest => '[' :: unescape rest
  | c :: rest => c :: unescape rest
  | [] => []

/-- Why a text is not markup. -/
inductive Fault where
  /-- A closing tag has no opening one. -/
  | unmatched
  /-- The parameters of a handler are no arguments. -/
  | badArguments
  /-- A component of a colour has this many digits, none or too many. -/
  | badComponent (digits : Nat)
  deriving DecidableEq, Repr

/-- The name of the style of a tag. -/
def styleName (text : List Char) : Except Fault (List Char) :=
  (Style.canonical text).mapError .badComponent

/-- A tag that is open. -/
structure OpenTag where
  /-- The name it is closed by. -/
  name : List Char
  /-- What follows the equals sign; empty if there is none. -/
  parameters : List Char
  /-- The index of the first character after it. -/
  start : Nat

/-- The tag of a text between brackets. -/
def openTag (body : List Char) (start : Nat) : Except Fault OpenTag := do
  let name := body.takeWhile (· ≠ '=')
  return ⟨← styleName name, body.drop (name.length + 1), start⟩

/-- The part of parameters that has to be values: the bracket after a handler's name, or all of
them; nothing if the name stands alone. -/
def arguments? (parameters : List Char) : Option (List Char) :=
  let cs := Text.strip parameters
  let rest := cs.dropWhile fun c => Text.isWord c || c = '.'
  if rest.isEmpty then none
  else if rest.head? = some '(' ∧ rest.getLast? = some ')' ∧ '\n' ∉ rest then some rest
  else some cs

/-- Close a tag: a handler's parameters have to be arguments. -/
def OpenTag.close (tag : OpenTag) : Except Fault Unit :=
  if tag.name.head? = some '@' ∧ tag.parameters ≠ [] then
    match arguments? tag.parameters with
    | some values => if Literal.isValue values then .ok () else .error .badArguments
    | none => .ok ()
  else .ok ()

/-- Take the tag of a name out of the open ones, of which the last one comes first. -/
def take? (name : List Char) : List OpenTag → Option (OpenTag × List OpenTag)
  | [] => none
  | tag :: rest =>
    if tag.name = name then some (tag, rest)
    else (take? name rest).map fun found => (found.1, tag :: found.2)

/-- The tag that a closing tag of a name closes, and the other open ones; without a name it closes
whatever was opened last. -/
def closed (name : List Char) (opened : List OpenTag) : Except Fault (OpenTag × List OpenTag) := do
  let found ←
    if name = [] then
      match opened with
      | [] => pure none
      | tag :: rest => pure (some (tag, rest))
    else pure (take? (← styleName name) opened)
  match found with
  | none => throw .unmatched
  | some (tag, rest) => do
    tag.close
    return (tag, rest)

/-- Control characters that never reach the console: bell, backspace, vertical tab, form feed and
carriage return. -/
def isDropped (c : Char) : Bool :=
  let n := c.toNat
  n = 7 || n = 8 || n = 11 || n = 12 || n = 13

/-- The characters of a text that reach the console. -/
def displayed (cs : List Char) : List Char := cs.filter fun c => !isDropped c

open Console (StyledText)

/-- The text of pieces when `index` characters come before them and the tags `opened` are open, the
last one first. A tag has a span up to the one that closes it, or to the end. -/
def textOf : Nat → List OpenTag → List Piece → Except Fault StyledText
  | index, opened, [] => .ok ⟨[], opened.map fun tag => ⟨tag.start, index⟩⟩
  | index, opened, .text chars :: rest => do
    let chars := displayed (unescape chars)
    let after ← textOf (index + chars.length) opened rest
    return { after with chars := chars ++ after.chars }
  | index, opened, .kept chars :: rest => do
    let chars := displayed chars
    let after ← textOf (index + chars.length) opened rest
    return { after with chars := chars ++ after.chars }
  | index, opened, .tag body :: rest =>
    match body.takeWhile (· ≠ '=') with
    | '/' :: name => do
      let (tag, opened) ← closed (Text.strip name) opened
      let after ← textOf index opened rest
      return { after with spans := ⟨tag.start, index⟩ :: after.spans }
    | _ => do
      let tag ← openTag body index
      textOf index (tag :: opened) rest

/-- A text without its tags, and the spans that had them. -/
def read (cs : List Char) : Except Fault StyledText := textOf 0 [] (joinTexts (pieces 0 0 cs))

/-- What is left of a text without its tags. -/
def plain (cs : List Char) : Except Fault (List Char) := (read cs).map (·.chars)

/-- A text between the tags of a style. -/
def styled (style : String) (text : String) : List Char :=
  '[' :: style.toList ++ ']' :: text.toList ++ '[' :: '/' :: style.toList ++ [']']

end JuliaSession.Markup
