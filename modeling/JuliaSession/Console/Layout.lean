import JuliaSession.Console.Wrap
import JuliaSession.Text.Lines

/-!
# Rules and tables

The shapes that are drawn on the console: a rule with a label in its middle, and a table with a
title. Widths are counted in cells. A table that is wider than the console takes room from its
widest columns, and what does not fit a column any more is broken into lines.
-/

namespace JuliaSession.Console

open Text (cells)

/-- A rule with a label in the middle. -/
def rule (label : StyledText) : StyledText :=
  let line := label.withChars (label.chars.map fun c => if c = '\n' then ' ' else c)
  -- two cells at each side are left for the line and a space
  let label := (line.expandTabs false).cut .ellipsis (width - 4)
  let side := (width - label.cells) / 2
  let start := StyledText.ofChars (List.replicate (side - 1) '─' ++ [' '])
  let stop := StyledText.ofChars (' ' :: List.replicate (side + 1) '─')
  let whole := start.whole ++ label ++ stop.whole
  whole.withChars (fit width whole.chars)

/-- Put a line in the middle of `room` cells. -/
def centre (room : Nat) (line : StyledText) : StyledText :=
  let line := line.stripEnd.cut .fold room
  let line := line.padStart ((room - line.cells) / 2)
  line.padEnd (room - line.cells)

/-- Fill a line up to `room` cells. -/
def fillUp (room : Nat) (line : StyledText) : StyledText :=
  (line.cut .ellipsis room).padEnd (room - line.cells)

/-! ### Columns -/

/-- The cells of the longest line of a text, in which tabs take none. -/
def breadth (text : StyledText) : Nat :=
  ((Text.splitLinesFrom [] false text.chars).map cells).foldl max 0

/-- The width of each column: its longest cell and a space on each side, as far as `room` goes. -/
def columnWidths (room : Nat) (rows : List (List StyledText)) : List Nat :=
  let longest := rows.foldl (fun widths row =>
    let longer := max widths.length row.length
    (List.range longer).map fun i => max (widths.getD i 0) ((row.map breadth).getD i 0)) []
  longest.map fun n => min room (n + 2)

/-- The whole number nearest to `total / parts`; of two the even one. -/
def share (total parts : Nat) : Nat :=
  let quotient := total / parts
  let twice := 2 * (total % parts)
  if twice < parts then quotient
  else if parts < twice then quotient + 1
  else quotient + quotient % 2

/-- Take `excess` cells from the columns that are `widest`, in equal shares of at most `most`;
`count` is the number of those columns. -/
def narrow (widest most : Nat) : Nat → Nat → List Nat → List Nat
  | _, _, [] => []
  | excess, count, n :: rest =>
    if n = widest ∧ count ≠ 0 then
      let taken := min most (share excess count)
      (n - taken) :: narrow widest most (excess - taken) (count - 1) rest
    else n :: narrow widest most excess count rest

/-- Narrow the columns until they take at most `room` cells: the widest ones first, down to the
width of the next ones. Every round takes a cell or more, so `rounds` need not exceed the sum. -/
def narrowTo (room : Nat) : Nat → List Nat → List Nat
  | 0, widths => widths
  | rounds + 1, widths =>
    let excess := widths.foldl (· + ·) 0 - room
    let widest := widths.foldl max 0
    let next := (widths.filter (· ≠ widest)).foldl max 0
    if excess = 0 ∨ widest = next then widths
    else
      narrowTo room rounds
        (narrow widest (min excess (widest - next)) excess (widths.count widest) widths)

/-! ### Tables -/

/-- A horizontal line of a table whose columns have the given widths. -/
def border (left between right line : Char) (widths : List Nat) : List Char :=
  left :: Text.joinWith [between] (widths.map fun n => List.replicate n line) ++ [right]

/-- The lines of a cell of a table, in segments, between a space on each side; `room` cells are left
for the text. -/
def cellLines (room : Nat) (cell : StyledText) : List (List (List Char)) :=
  ((cell.expandTabs false).breakLine .ellipsis room (fillUp room)).map fun line =>
    filled (room + 2) ([' '] :: filled room line.segments ++ [[' ']])

/-- A row of a table: as many lines as its highest cell has. -/
def tableRow (bar : Char) (widths : List Nat) (row : List StyledText) : List (List Char) :=
  let columns := (widths.zip row).map fun (n, cell) => (n, cellLines (n - 2) cell)
  let height := columns.foldl (fun height column => max height column.2.length) 1
  (List.range height).map fun i =>
    bar :: Text.joinWith [bar] (columns.map fun (n, lines) =>
      (lines.getD i [List.replicate n ' ']).flatten) ++ [bar]

/-- The lines of a title above `room` cells. -/
def titleLines (room : Nat) (title : StyledText) : List (List Char) :=
  (title.splitOn '\n').flatMap fun line =>
    ((line.expandTabs true).breakLine .fold room (centre room)).map drawn

/-- The lines of a table. -/
def table (title : StyledText) (heading : List StyledText) (rows : List (List StyledText)) :
    List (List Char) :=
  -- a bar before every column and one at the end
  let bars := heading.length + 1
  let natural := columnWidths (width - bars) (heading :: rows)
  let widths := narrowTo (width - bars) (natural.foldl (· + ·) 0) natural
  titleLines (widths.foldl (· + ·) 0 + bars) title
    ++ border '┏' '┳' '┓' '━' widths :: tableRow '┃' widths heading
    ++ border '┡' '╇' '┩' '━' widths :: rows.flatMap (tableRow '│' widths)
    ++ [border '└' '┴' '┘' '─' widths]

end JuliaSession.Console
