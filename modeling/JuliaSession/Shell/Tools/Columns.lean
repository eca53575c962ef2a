import JuliaSession.Shell.Tools.Input

/-!
# Columns

`cut` writes parts of each line: the bytes at some places, or the fields between delimiters. The
places are a list of ranges (`Ranges`), which may overlap.
-/

namespace JuliaSession.Shell

/-- A range of places from 1 on; without an end it goes on to the end of the line. -/
abbrev PlaceRange := Nat × Option Nat

/-- Is a place in one of the ranges? -/
def isChosen (ranges : List PlaceRange) (n : Nat) : Bool :=
  ranges.any fun (first, last?) => first ≤ n && last?.all (n ≤ ·)

/-- What is wrong with a list of places. -/
inductive PlaceFault where
  /-- A place is 0, or missing. -/
  | zero
  /-- A range ends before it starts. -/
  | decreasing
  /-- A range has neither end. -/
  | noEnds
  /-- A range has more than two ends. -/
  | tooManyEnds
  /-- Something is no place; `rest` is the list from there on. -/
  | notPlace (rest : ByteText)
  /-- A place is too large. -/
  | tooLarge (digits : ByteText)
  deriving DecidableEq, Repr

/-- The wording of a fault in a list of bytes, or of fields if `fields`. -/
def PlaceFault.words (fields : Bool) (charset : Charset) : PlaceFault → ByteText
  | zero =>
    (if fields then "fields are numbered from 1"
      else "byte/character positions are numbered from 1").toList
  | decreasing => "invalid decreasing range".toList
  | noEnds => "invalid range with no endpoint: -".toList
  | tooManyEnds =>
    (if fields then "invalid field range" else "invalid byte or character range").toList
  | notPlace rest =>
    (if fields then "invalid field value " else "invalid byte/character position ").toList
      ++ inQuotes charset rest
  | tooLarge digits =>
    (if fields then "field number " else "byte/character offset ").toList
      ++ inQuotes charset digits ++ " is too large".toList

/-- The number that digits say, or nothing without digits. -/
def placeOfDigits (digits : ByteText) : Except PlaceFault (Option Nat) :=
  if digits.isEmpty then .ok none
  else if largestAmount < digitsValue digits then .error (.tooLarge digits)
  else .ok (some (digitsValue digits))

/-- A list of ranges with commas or blanks between them; `fuel` bounds their number. -/
def rangesOf : Nat → ByteText → Except PlaceFault (List PlaceRange)
  | 0, _ => .ok []
  | fuel + 1, text => do
    let isEnd (c : Char) : Bool := c = ',' || c = ' ' || c = '\t'
    let further (range : PlaceRange) (rest : ByteText) : Except PlaceFault (List PlaceRange) :=
      match rest with
      | [] => .ok [range]
      | _ :: rest => do return range :: (← rangesOf fuel rest)
    let firstDigits := text.takeWhile Char.isDigit
    let first? ← placeOfDigits firstDigits
    match text.drop firstDigits.length with
    | '-' :: rest => do
      if first? = some 0 then throw .zero
      let lastDigits := rest.takeWhile Char.isDigit
      let last? ← placeOfDigits lastDigits
      let rest := rest.drop lastDigits.length
      let isComplete := rest.head?.all isEnd
      if rest.head? = some '-' then throw .tooManyEnds
      if !isComplete then throw (.notPlace rest)
      match first?, last? with
      | none, none => throw .noEnds
      | first?, none => further (first?.getD 1, none) rest
      | first?, some last =>
        if last < first?.getD 1 then throw .decreasing
        further (first?.getD 1, some last) rest
    | rest =>
      if !rest.head?.all isEnd then throw (.notPlace rest)
      match first? with
      | none | some 0 => throw .zero
      | some n => further (n, some n) rest

/-- Ranges in order, of which those that overlap are one. -/
def joinedRanges (ranges : List PlaceRange) : List PlaceRange :=
  let sorted := ranges.mergeSort fun a b => a.1 ≤ b.1
  (sorted.foldl (fun joined range =>
    match joined with
    | (first, last?) :: rest =>
      if last?.all (range.1 ≤ ·) then
        (first, match last?, range.2 with
          | some a, some b => some (max a b)
          | _, _ => none) :: rest
      else range :: joined
    | [] => [range]) []).reverse

/-- The ranges between the given ones, which are in order. -/
def rangesBetween (start : Nat) : List PlaceRange → List PlaceRange
  | [] => [(start, none)]
  | (first, last?) :: rest =>
    (if start < first then [(start, some (first - 1))] else []) ++
      match last? with
      | some last => rangesBetween (last + 1) rest
      | none => []

/-- What is cut out of lines. -/
structure Cut where
  /-- The ranges that are written. -/
  ranges : List PlaceRange
  /-- The delimiter of the fields; bytes have none. -/
  delimiter : Option Char
  /-- What is written between ranges of bytes, or between fields. -/
  between : Option ByteText
  /-- Are lines without a delimiter left out? -/
  onlyDivided : Bool

/-- The bytes of a line at the chosen places, with what is written before the start of a range. -/
def Cut.bytesOf (cut : Cut) (line : ByteText) : ByteText :=
  let marked := (line.zipIdx 1).filter fun (_, n) => isChosen cut.ranges n
  match marked, cut.between with
  | [], _ => []
  | (c, _) :: rest, some between =>
    c :: rest.flatMap fun (c, n) =>
      if cut.ranges.any fun range => range.1 = n then between ++ [c] else [c]
  | marked, none => marked.map Prod.fst

/-- What is written of a line. -/
def Cut.lineOf (cut : Cut) (line : ByteText) : Option ByteText :=
  match cut.delimiter with
  | none => some (cut.bytesOf line)
  | some delimiter =>
    if delimiter ∈ line then
      let fields := ((Text.splitOnChar delimiter line).zipIdx 1).filterMap fun (field, n) =>
        if isChosen cut.ranges n then some field else none
      some (Text.joinWith (cut.between.getD [delimiter]) fields)
    else if cut.onlyDivided then none
    else some line

/-- Write columns of each line. -/
def cutTool (name : ByteText) (args : List ByteText) : ShellM Nat := do
  let call ← callOf name
    [.value "b" "bytes", .value "c" "characters", .value "f" "fields", .value "d" "delimiter",
      .flag "s" "only-delimited", .value "" "output-delimiter", .flag "" "complement",
      .flag "z" "zero-terminated", .flag "n" ""] 1
  let (given, paths) ← call.read args
  let mut lists : List (Bool × ByteText) := []
  for (key, value) in given do
    if key ∈ ["b", "c", "f"] then
      unless lists.isEmpty do call.refuse "only one list may be specified".toList
      lists := [(key = "f", value)]
    if key = "d" ∧ 1 < value.length then
      call.refuse "the delimiter must be a single character".toList
  match lists with
  | [] => call.refuse "you must specify a list of bytes, characters, or fields".toList
  | (fields, list) :: _ =>
    if !fields && isGiven given "d" then
      call.refuse "an input delimiter may be specified only when operating on fields".toList
    if !fields && isGiven given "s" then
      call.refuse
        "suppressing non-delimited lines makes sense\n\tonly when operating on fields".toList
    match rangesOf (list.length + 1) list with
    | .error fault => call.refuse (fault.words fields call.charset)
    | .ok ranges =>
      let ranges := joinedRanges ranges
      let delimiter := match givenValue? given "d" with
        | some value => value.headD (Char.ofNat 0)
        | none => '\t'
      let cut : Cut :=
        { ranges := if isGiven given "complement" then rangesBetween 1 ranges else ranges
          delimiter := if fields then some delimiter else none
          between := (givenValue? given "output-delimiter").map fun value =>
            if value.isEmpty then [Char.ofNat 0] else value
          onlyDivided := isGiven given "s" }
      let ending := if isGiven given "z" then Char.ofNat 0 else '\n'
      call.filter ending (fun text => (linesEndedBy ending text).flatMap fun line =>
        match cut.lineOf line with
        | some part => part ++ [ending]
        | none => []) paths

end JuliaSession.Shell
