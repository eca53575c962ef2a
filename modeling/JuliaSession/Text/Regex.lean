/-!
# Regular expressions

Expressions that describe pieces of text, matched from the left with the first alternative that
leads to a match of the whole. Groups give the stretches of the text that they matched; matching
knows the character before a place, for conditions such as the border of a word. Main definition:
`Regex.findAll`, the groups of all matches, each of which begins where the one before it ended or
later.
-/

namespace JuliaSession.Text

/-- A stretch of a text: from the character with index `start` up to the one before `stop`. -/
structure Span where
  /-- The index of its first character. -/
  start : Nat
  /-- The index after its last character. -/
  stop : Nat
  deriving DecidableEq, Repr

/-- An expression. -/
inductive Regex where
  /-- One character of a class. -/
  | one (belongs : Char → Bool)
  /-- No character; a condition on those before and after the place, which are missing at the ends
  of the text. -/
  | here (holds : Option Char → Option Char → Bool)
  /-- Two expressions in a row. -/
  | andThen (first second : Regex)
  /-- One of two expressions, the first if it leads to a match. -/
  | orElse (first second : Regex)
  /-- An expression at least `least` times and at most `most` times, as often as possible if it is
  `greedy` and else as seldom. -/
  | times (greedy : Bool) (least : Nat) (most : Option Nat) (inner : Regex)
  /-- An expression whose stretch is given. -/
  | group (inner : Regex)

namespace Regex

/-- A place in a text. -/
structure Place where
  /-- The character before it. -/
  before : Option Char
  /-- The number of characters before it. -/
  index : Nat
  /-- The text behind it. -/
  rest : List Char

/-- The place behind the next character. -/
def Place.next? (place : Place) : Option (Char × Place) :=
  match place.rest with
  | [] => none
  | c :: rest => some (c, ⟨some c, place.index + 1, rest⟩)

/-- What is known when an expression was matched: the place behind the match and its groups. -/
structure Found where
  /-- The place behind the match. -/
  place : Place
  /-- The stretches of the groups, the last one first. -/
  groups : List Span

/-- A way to go on from a place: it is given how the match ends that starts there, and fails if none
of its ways leads to an end. -/
abbrev Matcher := Found → (Found → Option Found) → Option Found

/-- Repeat a matcher up to `most` times, of which `least` are due. A repetition has to get ahead. -/
def repeated (step : Matcher) (greedy : Bool) : Nat → Nat → Matcher
  | 0, _ => fun found goOn => goOn found
  | most + 1, least => fun found goOn =>
    let more := fun (_ : Unit) => step found fun next =>
      if next.place.index = found.place.index then none
      else repeated step greedy most (least - 1) next goOn
    if 0 < least then more ()
    else if greedy then
      match more () with
      | some ended => some ended
      | none => goOn found
    else
      match goOn found with
      | some ended => some ended
      | none => more ()

/-- The matcher of an expression. -/
def matcher : Regex → Matcher
  | one belongs => fun found goOn =>
    match found.place.next? with
    | some (c, place) => if belongs c then goOn { found with place } else none
    | none => none
  | here holds => fun found goOn =>
    if holds found.place.before found.place.rest.head? then goOn found else none
  | andThen first second => fun found goOn =>
    first.matcher found fun next => second.matcher next goOn
  | orElse first second => fun found goOn =>
    match first.matcher found goOn with
    | some ended => some ended
    | none => second.matcher found goOn
  | times greedy least most inner => fun found goOn =>
    repeated inner.matcher greedy (most.getD (found.place.rest.length + 1)) least found goOn
  | group inner => fun found goOn =>
    inner.matcher found fun next =>
      goOn { next with groups := ⟨found.place.index, next.place.index⟩ :: next.groups }

/-- The first match from a place on, and the place behind it. -/
def match? (regex : Regex) (place : Place) : Option Found := regex.matcher ⟨place, []⟩ some

/-- The groups of all matches from a place on; `fuel` bounds their number. -/
def findFrom (regex : Regex) : Nat → Place → List Span
  | 0, _ => []
  | fuel + 1, place =>
    match regex.match? place with
    | some found =>
      if place.index < found.place.index then
        found.groups.reverse ++ regex.findFrom fuel found.place
      else skip fuel place
    | none => skip fuel place
where
  /-- Go on behind the next character. -/
  skip (fuel : Nat) (place : Place) : List Span :=
    match place.next? with
    | some (_, place) => regex.findFrom fuel place
    | none => []

/-- The groups of all matches in a text. -/
def findAll (regex : Regex) (cs : List Char) : List Span :=
  regex.findFrom (cs.length + 1) ⟨none, 0, cs⟩

/-! ### Building expressions -/

/-- Nothing. -/
def nothing : Regex := here fun _ _ => true

/-- Expressions in a row. -/
def inRow : List Regex → Regex
  | [] => nothing
  | [regex] => regex
  | regex :: rest => andThen regex (inRow rest)

/-- One of several expressions, the first one that leads to a match. -/
def firstOf : List Regex → Regex
  | [] => here fun _ _ => false
  | [regex] => regex
  | regex :: rest => orElse regex (firstOf rest)

/-- A character. -/
def char (c : Char) : Regex := one (· = c)

/-- A text. -/
def text (s : String) : Regex := inRow (s.toList.map char)

/-- An expression or nothing. -/
def optional (regex : Regex) : Regex := times true 0 (some 1) regex

/-- An expression any number of times, as often as possible. -/
def many (regex : Regex) : Regex := times true 0 none regex

/-- An expression once or more, as often as possible. -/
def atLeastOnce (regex : Regex) : Regex := times true 1 none regex

/-- An expression as often as a range says. -/
def between (least most : Nat) (regex : Regex) : Regex := times true least (some most) regex

/-- An expression as often as a number says. -/
def exactly (count : Nat) (regex : Regex) : Regex := between count count regex

/-- The border of a word: on one side of the place there is a character of a word, and on the other
none. -/
def isBorder (isWord : Char → Bool) (before after : Option Char) : Bool :=
  before.any isWord != after.any isWord

end Regex

end JuliaSession.Text
