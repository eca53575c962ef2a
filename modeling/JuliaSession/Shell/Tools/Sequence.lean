import JuliaSession.Shell.Tools.Keys
import JuliaSession.Shell.Tools.Options

/-!
# Sequences of numbers

`seq` writes numbers from a first one in equal steps up to a last one. The numbers are decimal
fractions (`Decimals`) and stay exact; a format is filled with the fraction next to each.
-/

namespace JuliaSession.Shell

/-- A number of a sequence as it was given. -/
structure SeqNumber where
  /-- Its value. -/
  value : Decimals
  /-- Is it infinite? -/
  isInfinite : Bool
  /-- The number of characters that it takes. -/
  width : Nat

/-- The number with its places after the point. -/
def Decimals.text (x : Decimals) : ByteText :=
  let digits := decimal x.digits.natAbs
  let digits := List.replicate (x.places + 1 - digits.length) '0' ++ digits
  let whole := digits.take (digits.length - x.places)
  (if x.digits < 0 then ['-'] else []) ++ whole
    ++ (if x.places = 0 then [] else '.' :: digits.drop whole.length)

/-- The number with at least as many places. -/
def Decimals.toPlaces (x : Decimals) (places : Nat) : Decimals :=
  ⟨x.digits * Int.pow 10 (places - x.places), max x.places places⟩

/-- The number that an argument says; nothing if it says none. A text that is no number at all but
says so is told apart. -/
def seqNumber? (arg : ByteText) : Option (Except Unit SeqNumber) :=
  let text := arg.dropWhile isNumberSpace
  let text := if text.head? = some '+' then text.tail else text
  let negative := text.head? = some '-'
  let digits := if negative then text.tail else text
  let signed (n : Int) : Int := if negative then -n else n
  let lower := digits.map Char.toLower
  let (whole, places, rest) := pointed 10 digits
  let (power, rest) := exponent 'e' rest
  if Text.startsWith lower "0x".toList then
    let (n, rest) := digitsTo 16 (digits.drop 2)
    if digits.length = 2 || !rest.isEmpty then none
    else some (.ok ⟨⟨signed n, 0⟩, false, (toString (signed n)).length⟩)
  else if lower ∈ ["inf".toList, "infinity".toList] then
    some (.ok ⟨⟨signed 1, 0⟩, true, 3⟩)
  else if lower = "nan".toList then some (.error ())
  else if (whole.isEmpty && places.isEmpty) || !rest.isEmpty then none
  else
    let n : Int := signed (digitsTo 10 (whole ++ places)).1
    let shift : Int := power - places.length
    let value : Decimals :=
      if 0 ≤ shift then ⟨n * Int.pow 10 (min shift 5000).toNat, 0⟩
      else ⟨n, (min (-shift) 5000).toNat⟩
    let isPlain := (whole ++ places).length + (if '.' ∈ digits then 1 else 0) = digits.length
    let added : Int := if places.isEmpty && '.' ∈ digits then -1 else if whole.isEmpty then 1 else 0
    some (.ok ⟨value, false,
      if isPlain then (text.length + added).toNat else value.text.length⟩)

/-- What is wrong with a format for numbers. -/
inductive SeqFormatFault where
  /-- It has no conversion. -/
  | none
  /-- It breaks off in a conversion. -/
  | cut
  /-- Its conversion is not one for fractions. -/
  | unknown (letter : Char)
  /-- It has more than one conversion. -/
  | several
  deriving DecidableEq, Repr

/-- The wording of a fault in a format between quotes. -/
def SeqFormatFault.words (quoted : ByteText) : SeqFormatFault → ByteText
  | none => "format ".toList ++ quoted ++ " has no % directive".toList
  | cut => "format ".toList ++ quoted ++ " ends in %".toList
  | unknown letter => "format ".toList ++ quoted ++ " has unknown %".toList ++ letter
    :: " directive".toList
  | several => "format ".toList ++ quoted ++ " has too many % directives".toList

/-- The text of a format up to its next conversion, and what follows its percent sign. -/
def untilConversion : ByteText → ByteText × Option ByteText
  | [] => ([], none)
  | '%' :: '%' :: rest =>
    let (text, found) := untilConversion rest
    ('%' :: text, found)
  | '%' :: rest => ([], some rest)
  | c :: rest =>
    let (text, found) := untilConversion rest
    (c :: text, found)

/-- A format for numbers: the text before the number, how it is laid out, and the text after it. -/
def seqFormat (format : ByteText) :
    Except SeqFormatFault (ByteText × Conversion × ByteText) :=
  match untilConversion format with
  | (_, none) => .error .none
  | (before, some spec) =>
    let flags := spec.takeWhile fun c => c ∈ "-+#0 '".toList
    let rest := spec.drop flags.length
    let width := rest.takeWhile Char.isDigit
    let rest := rest.drop width.length
    let (precision, rest) := match rest with
      | '.' :: rest =>
        let digits := rest.takeWhile Char.isDigit
        (some (digitsValue digits), rest.drop digits.length)
      | rest => (none, rest)
    let rest := if rest.head? = some 'L' then rest.tail else rest
    match rest with
    | [] => .error .cut
    | letter :: rest =>
      if letter ∉ "efgaEFGA".toList then .error (.unknown letter)
      else
        match untilConversion rest with
        | (_, some _) => .error .several
        | (after, none) => .ok (before, ⟨flags, digitsValue width, precision, letter⟩, after)

/-- The number of numbers that are written at a time. -/
def seqBlock : Nat := 1000

/-- Write numbers with a text between them, from the one with an index on; `fuel` bounds the number
of blocks. -/
def saySequence (textOf : Nat → ByteText) (between : ByteText) (count : Nat) :
    Nat → Nat → ShellM Unit
  | 0, _ => throw .waiting
  | fuel + 1, index => do
    if index < count then
      let size := min seqBlock (count - index)
      let texts := (List.range size).map fun n => textOf (index + n)
      say ((if index = 0 then [] else between) ++ Text.joinWith between texts)
      saySequence textOf between count fuel (index + size)

/-- Write the numbers of a sequence. -/
def seqTool (name : ByteText) (args : List ByteText) : ShellM Nat := do
  let call ← callOf name
    [.flag "w" "equal-width", .value "f" "format", .value "s" "separator"] 1
  -- a negative number is no option
  let isNumber (arg : ByteText) : Bool :=
    arg.head? = some '-' && arg.tail.head?.any fun c => c.isDigit || c = '.'
  let options := args.takeWhile fun arg => !isNumber arg
  let (given, words) ← call.readInOrder options
  let words := words ++ args.drop options.length
  match words with
  | [] => call.refuse "missing operand".toList
  | _ => call.limitOperands 3 words
  let format? ← (givenValue? given "f").mapM fun format =>
    match seqFormat format with
    | .ok found => pure found
    | .error fault => call.fail (fault.words (call.quoted format))
  let same := isGiven given "w"
  if format?.isSome && same then
    call.refuse "format string may not be specified when printing equal width strings".toList
  let number (word : ByteText) : ShellM SeqNumber :=
    match seqNumber? word with
    | some (.ok n) => return n
    | some (.error _) =>
      call.refuse ("invalid ".toList ++ call.quoted "not-a-number".toList ++ " argument: ".toList
        ++ call.quoted word)
    | none => call.refuse ("invalid floating point argument: ".toList ++ call.quoted word)
  let one : SeqNumber := ⟨⟨1, 0⟩, false, 1⟩
  let (first, step, last) ← match words with
    | [last] => do pure (one, one, ← number last)
    | [first, last] => do
      let first ← number first
      pure (first, one, ← number last)
    | first :: step :: last :: _ => do
      let first ← number first
      let stepNumber ← number step
      if stepNumber.value.digits = 0 then
        call.refuse ("invalid Zero increment value: ".toList ++ call.quoted step)
      pure (first, stepNumber, ← number last)
    | [] => call.refuse "missing operand".toList
  let places := max first.value.places step.value.places
  let common := max places last.value.places
  let start := (first.value.toPlaces common).digits
  let increment := (step.value.toPlaces common).digits
  let target := (last.value.toPlaces common).digits
  let isUp := 0 < increment
  let isEmpty := if last.isInfinite then isUp != decide (0 < last.value.digits)
    else if isUp then target < start else start < target
  let count := if isEmpty || first.isInfinite then 0
    else if last.isInfinite then Nat.pow 2 62
    else ((target - start).tdiv increment).toNat + 1
  let valueAt (index : Nat) : Decimals :=
    ⟨(first.value.toPlaces places).digits + (step.value.toPlaces places).digits * index, places⟩
  let widthOf (n : SeqNumber) : Nat :=
    let point := if n.value.places = 0 ∧ places ≠ 0 then 1 else 0
    let noPoint := if n.value.places ≠ 0 ∧ places = 0 then 1 else 0
    n.width + places + point - n.value.places - noPoint
  let width := if same then max (widthOf first) (widthOf last) else 0
  let textOf (index : Nat) : ByteText :=
    let x := valueAt index
    match format? with
    | some (before, conversion, after) =>
      let value := Decimal.round (x.digits < 0) x.digits.natAbs (-(x.places : Int))
      before ++ conversion.decimal value ++ after
    | none =>
      match x.text with
      | '-' :: digits => '-' :: List.replicate (width - digits.length - 1) '0' ++ digits
      | digits => List.replicate (width - digits.length) '0' ++ digits
  if count ≠ 0 then
    saySequence textOf ((givenValue? given "s").getD ['\n']) count (count / seqBlock + 2) 0
    say ['\n']
  return 0

end JuliaSession.Shell
