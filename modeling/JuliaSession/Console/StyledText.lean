import JuliaSession.Text.Cells
import JuliaSession.Text.Regex
import JuliaSession.Text.Split

/-!
# Styled text

A text for the console together with the spans of it that have a style of their own. The console
shows no styles, but it draws the pieces between the ends of spans (`StyledText.segments`) one by
one, and each is measured by itself: a joiner at the end of a piece has nothing to join. The
operations keep the spans where the text is divided, joined, cut and filled up.
-/

namespace JuliaSession.Console

open Text (Cluster Span cells)

/-- A text and its spans. -/
structure StyledText where
  /-- The characters. -/
  chars : List Char
  /-- The spans, which may overlap. -/
  spans : List Span
  deriving DecidableEq, Repr

namespace StyledText

/-- A text without spans. -/
def ofChars (chars : List Char) : StyledText := ⟨chars, []⟩

/-- A span that lies `offset` characters further on. -/
def shifted (offset : Nat) (span : Span) : Span := ⟨span.start + offset, span.stop + offset⟩

/-- Two texts in a row. -/
def append (first second : StyledText) : StyledText :=
  ⟨first.chars ++ second.chars, first.spans ++ second.spans.map (shifted first.chars.length)⟩

instance : Append StyledText := ⟨append⟩

/-- Texts in a row. -/
def concat (texts : List StyledText) : StyledText := texts.foldr (· ++ ·) ⟨[], []⟩

/-- A text with a further span over all of it. -/
def whole (text : StyledText) : StyledText :=
  { text with spans := ⟨0, text.chars.length⟩ :: text.spans }

/-- The part of a text from the index `start` up to `stop`; spans that have no character in it are
left out. -/
def slice (text : StyledText) (start stop : Nat) : StyledText :=
  ⟨(text.chars.drop start).take (stop - start),
    text.spans.filterMap fun span =>
      let clipped : Span := ⟨max start span.start - start, min stop span.stop - start⟩
      if clipped.start < clipped.stop then some clipped else none⟩

/-- The parts of a text between indices, of which the last one found is `start`. -/
def divideFrom (text : StyledText) (start : Nat) : List Nat → List StyledText
  | [] => [text.slice start text.chars.length]
  | stop :: rest => text.slice start stop :: text.divideFrom stop rest

/-- Divide a text at indices. -/
def divide (text : StyledText) : List Nat → List StyledText
  | [] => [text]
  | stops => text.divideFrom 0 stops

/-- The parts of a text before, between and behind the characters `mark`. -/
def splitOn (mark : Char) (text : StyledText) : List StyledText :=
  if mark ∉ text.chars then [text]
  else
    (Text.splitOnChar mark text.chars).foldr (fun part later start =>
      text.slice start (start + part.length) :: later (start + part.length + 1)) (fun _ => []) 0

/-- Put other characters in the place of a text's; what spans cover behind their end is lost. -/
def withChars (text : StyledText) (chars : List Char) : StyledText :=
  if chars.length < text.chars.length then
    ⟨chars, text.spans.filterMap fun span =>
      if span.start < chars.length then some ⟨span.start, min span.stop chars.length⟩ else none⟩
  else { text with chars }

/-- A text with spaces before it. -/
def padStart (count : Nat) (text : StyledText) : StyledText :=
  ⟨List.replicate count ' ' ++ text.chars, text.spans.map (shifted count)⟩

/-- A text with spaces after it. -/
def padEnd (count : Nat) (text : StyledText) : StyledText :=
  { text with chars := text.chars ++ List.replicate count ' ' }

/-- A text with spaces after it that belong to the spans at its end. -/
def extendEnd (count : Nat) (text : StyledText) : StyledText :=
  let length := text.chars.length
  { text.padEnd count with
    spans := text.spans.map fun span =>
      if length ≤ span.stop then { span with stop := span.stop + count } else span }

/-! ### Segments -/

/-- The pieces of a text, whose first character has the index `index`, between the indices at which
`isBorder` holds; `piece` is the piece being read, back to front. -/
def segmentsAfter (isBorder : Nat → Bool) (piece : List Char) (index : Nat) :
    List Char → List (List Char)
  | [] => if piece.isEmpty then [] else [piece.reverse]
  | c :: rest =>
    if isBorder index && !piece.isEmpty then
      piece.reverse :: segmentsAfter isBorder [c] (index + 1) rest
    else segmentsAfter isBorder (c :: piece) (index + 1) rest

/-- The pieces of a text between the ends of its spans. -/
def segments (text : StyledText) : List (List Char) :=
  let borders := text.spans.flatMap fun span => [span.start, span.stop]
  segmentsAfter (fun index => borders.contains index) [] 0 text.chars

/-- No character is lost between the segments. -/
theorem flatten_segmentsAfter (isBorder : Nat → Bool) (piece : List Char) (index : Nat)
    (cs : List Char) :
    (segmentsAfter isBorder piece index cs).flatten = piece.reverse ++ cs := by
  fun_induction segmentsAfter isBorder piece index cs <;> simp_all

theorem flatten_segments (text : StyledText) : text.segments.flatten = text.chars := by
  simp [segments, flatten_segmentsAfter]

end StyledText

end JuliaSession.Console
