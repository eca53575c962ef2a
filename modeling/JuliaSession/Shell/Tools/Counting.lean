import JuliaSession.Shell.Tools.Copying
import JuliaSession.Text.Cells

/-!
# Counting

`wc` counts the lines, words, characters and bytes of its operands, and the width of their longest
lines. What a character is, and which of them belong to words, depends on the character set.
-/

namespace JuliaSession.Shell

/-- What was counted of texts. -/
structure Counts where
  /-- The ends of lines. -/
  lines : Nat
  /-- The words. -/
  words : Nat
  /-- The characters. -/
  chars : Nat
  /-- The bytes. -/
  bytes : Nat
  /-- The width of the longest line. -/
  width : Nat
  deriving DecidableEq, Repr

/-- The counts of no text. -/
def Counts.zero : Counts := ⟨0, 0, 0, 0, 0⟩

/-- The counts of several texts; the longest line is that of all. -/
def Counts.add (a b : Counts) : Counts :=
  ⟨a.lines + b.lines, a.words + b.words, a.chars + b.chars, a.bytes + b.bytes, max a.width b.width⟩

/-- Where in a text counting is. -/
structure CountPlace where
  /-- The counts so far; the width is that of complete lines. -/
  counts : Counts
  /-- The column in the line. -/
  column : Nat
  /-- Is this inside a word? -/
  inWord : Bool

/-- Pass over a character that parts words, and go to a column. -/
def CountPlace.part (place : CountPlace) (column : Nat) : CountPlace :=
  let counts := place.counts
  { place with
    counts := { counts with words := counts.words + (if place.inWord then 1 else 0) }
    column, inWord := false }

/-- Pass over a character that goes back to the start of a line. -/
def CountPlace.back (place : CountPlace) : CountPlace :=
  let place := place.part place.column
  { place with counts.width := max place.counts.width place.column, column := 0 }

/-- Pass over a character that is shown in some columns; nothing is shown of some. -/
def CountPlace.step (place : CountPlace) (c : Char) (cells : Option Nat) : CountPlace :=
  match c with
  | '\n' => let place := place.back; { place with counts.lines := place.counts.lines + 1 }
  | '\r' => place.back
  | '\t' => place.part (place.column + 8 - place.column % 8)
  | ' ' => place.part (place.column + 1)
  | c =>
    if c.toNat = 12 then place.back
    else if c.toNat = 11 then place.part place.column
    else
      match cells with
      | none => place
      | some cells =>
        if 128 ≤ c.toNat && Text.isBlank c then place.part (place.column + cells)
        else { place with column := place.column + cells, inWord := true }

/-- The columns that a glyph is shown in. -/
def Glyph.cells? (glyph : Glyph) (c : Char) : Option Nat :=
  if glyph.visible || (128 ≤ c.toNat && glyph.bytes.length ≠ 1 && Text.isBlank c) then
    some (Text.charCells c)
  else none

/-- The counts of a text. -/
def Counts.ofText (charset : Charset) (text : ByteText) : Counts :=
  let start : CountPlace := ⟨.zero, 0, false⟩
  let after := (glyphs charset text).foldl (fun place glyph =>
    let char? := (Text.Utf8.decodeChars? (toBytes glyph.bytes)).bind List.head?
    let known := charset = .ascii || char?.isSome
    let c := char?.getD (Char.ofNat 0)
    let place := place.step c (if known then glyph.cells? c else none)
    { place with counts.chars := place.counts.chars + (if known then 1 else 0) }) start
  { after.back.counts with bytes := text.length }

/-- When the counts of all operands are shown. -/
inductive TotalMode where
  /-- If there are several. -/
  | auto
  /-- In any case. -/
  | always
  /-- And no others. -/
  | only
  /-- In no case. -/
  | never
  deriving DecidableEq, Repr

/-- The counts that options ask for. -/
def shownCounts (given : List Given) (counts : Counts) : List Nat :=
  let all := !isAnyGiven given ["l", "w", "m", "c", "L"]
  [(isGiven given "l" || all, counts.lines), (isGiven given "w" || all, counts.words),
    (isGiven given "m", counts.chars), (isGiven given "c" || all, counts.bytes),
    (isGiven given "L", counts.width)].filterMap fun (wanted, n) => if wanted then some n else none

/-- The size of the file that an operand leads to, which is known before it is read; nothing if it
does not exist, and no size if it is not a plain file. -/
def plainSize? (proc : Proc) (path : ByteText) : Option (Option Nat) :=
  if path = ['-'] then
    match proc.stream? 0 with
    | some (_, .file target ..) =>
      match proc.shared.files.find? "/" target with
      | some (.file content _ _) => some (some content.length)
      | _ => some none
    | some _ => some none
    | none => none
  else if (device? (Path.absolute proc.cwd (asString path))).isSome then some none
  else
    match proc.shared.files.find? proc.cwd (asString path) with
    | some (.file content _ _) => some (some content.length)
    | some (.dir ..) => some none
    | none => none

/-- The width of the columns for the sizes of files. -/
def countWidth (sizes : List (Option (Option Nat))) : Nat :=
  let known := sizes.filterMap id
  let total := (known.filterMap id).foldl (· + ·) 0
  max (decimal total).length (if known.any Option.isNone then 7 else 1)

/-- Count lines, words, characters and bytes. -/
def wcTool (name : ByteText) (args : List ByteText) : ShellM Nat := do
  let call ← callOf name
    [.flag "c" "bytes", .flag "m" "chars", .flag "l" "lines", .flag "w" "words",
      .flag "L" "max-line-length", .value "" "total"] 1
  let (given, words) ← call.read args
  let mode ← match givenValue? given "total" with
    | some value =>
      call.choice "total" [("auto", TotalMode.auto), ("always", .always), ("only", .only),
        ("never", .never)] value
    | none => pure .auto
  let paths := filterOperands words
  let proc ← get
  let isSingle := paths.length ≤ 1 ∧ (shownCounts given .zero).length = 1
  let width := if isSingle ∨ mode = .only then 1 else countWidth (paths.map (plainSize? proc))
  let sayCounts (counts : Counts) (title : List ByteText) : ShellM Unit :=
    sayLine (Text.joinWith [' '] ((shownCounts given counts).map (inColumn width) ++ title))
  let mut total := Counts.zero
  let mut status := 0
  for path in paths do
    let found ← readOperand path
    if let .error reason := found then
      call.warn ((if words.isEmpty then call.ticked "standard input".toList
        else call.named path) ++ ": ".toList ++ reasonText reason)
      status := 1
    -- what was opened has counts, if only zeros
    let counted : Option ByteText := match found with
      | .ok text => some text
      | .error .isDirectory | .error .badDescriptor => some []
      | .error _ => none
    if let some text := counted then
      let counts := Counts.ofText call.charset text
      unless mode = .only do sayCounts counts (if words.isEmpty then [] else [path])
      total := total.add counts
  let totals : Bool := match mode with
    | .auto => 1 < paths.length
    | .always | .only => true
    | .never => false
  if totals then
    sayCounts total (if mode = .only then [] else ["total".toList])
  call.closeInput paths status

end JuliaSession.Shell
