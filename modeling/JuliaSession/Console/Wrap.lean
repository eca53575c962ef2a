import JuliaSession.Console.StyledText
import JuliaSession.Text.Blank

/-!
# Lines of a fixed width

A styled text is broken into lines of a number of cells, between words where that is possible
(`breaks`). The blank characters around a word stay with it; what is still too long for its line is
cut (`StyledText.cut`). `StyledText.lines` does all of this for a text of several lines, and
`shown` is what the console makes of the text.
-/

namespace JuliaSession.Console

open Text (Cluster cells)

/-- The width of the console in cells. -/
def width : Nat := 200

/-! ### Cutting and filling up -/

/-- The longest row of clusters at the start that takes at most `room` cells, and a space for every
cell that is left because the next cluster takes more. -/
def takeCells : Nat → List Cluster → List Char
  | _, [] => []
  | room, cluster :: rest =>
    if cluster.size ≤ room then cluster.chars ++ takeCells (room - cluster.size) rest
    else List.replicate room ' '

/-- A text cut down or filled up to `room` cells. -/
def fit (room : Nat) (cs : List Char) : List Char :=
  if cells cs ≤ room then cs ++ List.replicate (room - cells cs) ' '
  else if room = 0 then []
  else takeCells room (Text.clusters cs)

/-- What becomes of a word that is too long for any line. -/
inductive Overflow where
  /-- It goes on on the next line. -/
  | fold
  /-- It ends in an ellipsis. -/
  | ellipsis
  deriving DecidableEq, Repr

namespace StyledText

/-- The cells a text takes. -/
def cells (text : StyledText) : Nat := Text.cells text.chars

/-- A text of more than `room` cells is cut down to as many. -/
def cut (overflow : Overflow) (room : Nat) (text : StyledText) : StyledText :=
  if text.cells ≤ room then text
  else
    match overflow with
    | .fold => text.withChars (fit room text.chars)
    | .ellipsis => text.withChars (fit (room - 1) text.chars ++ ['…'])

/-- A text without the blanks at its end. -/
def stripEnd (text : StyledText) : StyledText := text.withChars (Text.stripRight text.chars)

/-- A line without the blanks at its end that make it longer than `room` characters. -/
def trimEnd (room : Nat) (text : StyledText) : StyledText :=
  let length := text.chars.length
  let blanks := length - (Text.stripRight text.chars).length
  text.withChars (text.chars.take (length - min blanks (length - room)))

/-- The cells from one tab stop to the next. -/
def tabWidth : Nat := 8

/-- The parts of a line up to its tabs, every tab filled up with spaces: a part and one space take a
multiple of the tab width, counted from `column` on. -/
def fillTabs : Nat → List StyledText → List StyledText
  | _, [] => []
  | _, [last] => [last]
  | column, part :: rest =>
    -- the last character of the part is the tab itself
    let filled := part.withChars (part.chars.dropLast ++ [' '])
    let reached := column + filled.cells
    let spaces := (tabWidth - reached % tabWidth) % tabWidth
    filled.extendEnd spaces :: fillTabs (reached + spaces) rest

/-- The parts of a line after each of its tabs. -/
def tabParts (text : StyledText) : List StyledText :=
  let ends := (Text.splitOnChar '\t' text.chars).dropLast.foldr
    (fun part later start => (start + part.length + 1) :: later (start + part.length + 1))
    (fun _ => []) 0
  fillTabs 0 (text.divide ends)

/-- A line with spaces for its tabs. With `own`, every part up to a tab has a span of its own. -/
def expandTabs (own : Bool) (text : StyledText) : StyledText :=
  if '\t' ∉ text.chars then text
  else concat (if own then text.tabParts.map whole else text.tabParts)

end StyledText

/-! ### Breaking between words -/

/-- The words of a line, each with the blank characters after it, the first one also with those
before it. `word` is the word being read, back to front; `begun` says that more than blanks came of
it, and `ended` that blanks came after it. -/
def spacedWordsAfter (word : List Char) (begun ended : Bool) : List Char → List (List Char)
  | [] => if begun then [word.reverse] else []
  | c :: rest =>
    if Text.isBlank c then spacedWordsAfter (c :: word) begun begun rest
    else if ended then word.reverse :: spacedWordsAfter [c] true false rest
    else spacedWordsAfter (c :: word) true false rest

/-- The words of a line with the blank characters around them. -/
def spacedWords (line : List Char) : List (List Char) := spacedWordsAfter [] false false line

/-- Arrange clusters in pieces of at most `room` cells; `piece` is the piece being filled and `used`
its cells. What takes no cell does not begin a piece. -/
def chopAfter (room : Nat) (piece : List Char) (used : Nat) : List Cluster → List (List Char)
  | [] => if used = 0 then [] else [piece]
  | cluster :: rest =>
    if room < used + cluster.size then piece :: chopAfter room cluster.chars cluster.size rest
    else chopAfter room (piece ++ cluster.chars) (used + cluster.size) rest

/-- Cut a text into pieces of at most `room` cells. -/
def chop (room : Nat) (cs : List Char) : List (List Char) := chopAfter room [] 0 (Text.clusters cs)

/-- The indices at which pieces begin, of which the first one begins at `start`. -/
def starts (start : Nat) : List (List Char) → List Nat
  | [] => []
  | piece :: rest => start :: starts (start + piece.length) rest

/-- The indices at which lines of `room` cells are broken before words: the first word begins at
`start`, and `used` cells of its line are taken. The blanks after a word may go beyond the end of
its line. -/
def breaksFrom (overflow : Overflow) (room : Nat) :
    Nat → Nat → List (List Char) → List Nat
  | _, _, [] => []
  | start, used, word :: rest =>
    let size := cells (Text.stripRight word)
    let next := start + word.length
    if used + size ≤ room then breaksFrom overflow room next (used + cells word) rest
    else if room < size ∧ overflow = .fold then
      -- the last piece of the word begins the next line
      let pieces := chop room word
      (starts start pieces).filter (· ≠ 0)
        ++ breaksFrom overflow room next (cells (pieces.getLastD [])) rest
    else
      let here := if start = 0 then [] else [start]
      here ++ breaksFrom overflow room next (cells word) rest

/-- The indices at which a line is broken into lines of `room` cells. -/
def breaks (overflow : Overflow) (room : Nat) (line : List Char) : List Nat :=
  breaksFrom overflow room 0 0 (spacedWords line)

namespace StyledText

/-- The lines of a line of text that has `room` cells; `arrange` may move and fill up each of them
before what is too long is cut. -/
def breakLine (overflow : Overflow) (room : Nat) (arrange : StyledText → StyledText)
    (line : StyledText) : List StyledText :=
  (line.divide (breaks overflow room line.chars)).map fun line =>
    (arrange (line.trimEnd room)).cut overflow room

/-- The lines of a text on a console of `room` cells. -/
def lines (room : Nat) (text : StyledText) : List StyledText :=
  (text.splitOn '\n').flatMap fun line => (line.expandTabs false).breakLine .fold room id

end StyledText

/-! ### Segments of a line -/

/-- Take segments as long as they leave a cell of `room`, and of the next one what fits. -/
def crop : Nat → List (List Char) → List (List Char)
  | _, [] => []
  | room, segment :: rest =>
    if cells segment < room then segment :: crop (room - cells segment) rest
    else [fit room segment]

/-- The segments of a line of at most `room` cells. -/
def within (room : Nat) (segments : List (List Char)) : List (List Char) :=
  if room < (segments.map cells).foldl (· + ·) 0 then crop room segments else segments

/-- The segments of a line of `room` cells. -/
def filled (room : Nat) (segments : List (List Char)) : List (List Char) :=
  let total := (segments.map cells).foldl (· + ·) 0
  if total < room then segments ++ [List.replicate (room - total) ' '] else within room segments

/-- A line as the console draws it. -/
def drawn (line : StyledText) : List Char := (within width line.segments).flatten

/-- What a text looks like on the console. -/
def shown (text : StyledText) : List Char :=
  Text.joinWith ['\n'] ((text.lines width).map drawn)

/-- What a text looks like if its lines go on beyond the console. -/
def unbroken (text : StyledText) : List Char :=
  Text.joinWith ['\n'] ((text.splitOn '\n').map fun line => (line.expandTabs false).chars)

end JuliaSession.Console
