import JuliaSession.Shell.Format

/-!
# Orders of texts

The orders in which names and lines can be put besides that of their bytes: by the number that they
start with (`Decimals`), by a number with a unit, by the name of a month, and by the numbers inside
them, as versions are (`versionOrder`).
-/

namespace JuliaSession.Shell

/-- The texts in the order of their bytes. -/
def byteOrder (a b : ByteText) : Ordering := compare (String.ofList a) (String.ofList b)

/-! ### Numbers -/

/-- A number in digits: `digits` over ten to the number of places. -/
structure Decimals where
  /-- The digits without the point, as a number. -/
  digits : Int
  /-- The number of digits after the point. -/
  places : Nat
  deriving DecidableEq, Repr

/-- The order of numbers. -/
def Decimals.order (a b : Decimals) : Ordering :=
  compare (a.digits * Int.pow 10 b.places) (b.digits * Int.pow 10 a.places)

/-- Is a character a blank between the words of a line? -/
def isFieldBlank (c : Char) : Bool := c = ' ' || c = '\t' || c = '\n'

/-- The number at the start of a text, and what follows it. -/
def decimalsOf (text : ByteText) : Decimals × ByteText :=
  let text := text.dropWhile isFieldBlank
  let negative := text.head? = some '-'
  let (whole, places, rest) := pointed 10 (if negative then text.tail else text)
  let digits : Int := (digitsTo 10 (whole ++ places)).1
  (⟨if negative then -digits else digits, places.length⟩, rest)

/-- The order of lines by the numbers at their start. -/
def numberOrder (a b : ByteText) : Ordering := (decimalsOf a).1.order (decimalsOf b).1

/-- The size of the unit after the number at the start of a text; negative for a negative one. -/
def unitRank (text : ByteText) : Int :=
  let (number, rest) := decimalsOf text
  let unit := match rest with
    | c :: _ =>
      match ['K', 'M', 'G', 'T', 'P', 'E', 'Z', 'Y', 'R', 'Q'].idxOf? (if c = 'k' then 'K' else c)
        with
      | some index => index + 1
      | none => 0
    | [] => 0
  if number.digits = 0 then 0 else if number.digits < 0 then -unit else unit

/-- The order of lines by the numbers with units at their start: units count first. -/
def unitOrder (a b : ByteText) : Ordering :=
  (compare (unitRank a) (unitRank b)).then (numberOrder a b)

/-- The order of two fractions, that of their values. -/
def fractionOrder (a b : Binary64) : Ordering :=
  let value (x : Binary64) : Int × Int :=
    let (num, den) := Decimal.quotient x
    (if x.isNegative then -(num : Int) else num, den)
  let rank (x : Binary64) : Int := if x.isFinite then 0 else if x.isNegative then -1 else 1
  if a.isFinite && b.isFinite then
    let (n, d) := value a
    let (m, e) := value b
    compare (n * e) (m * d)
  else compare (rank a) (rank b)

/-- The order of lines by the fractions at their start: first come lines without one, then what is
no number. -/
def generalOrder (a b : ByteText) : Ordering :=
  let rank (x? : Option (Binary64 × ByteText)) : Nat := match x? with
    | none => 0
    | some (x, _) => if x.isNaN then 1 else 2
  match fraction? a, fraction? b with
  | some (x, rest), some (y, others) =>
    if x.isNaN || y.isNaN then compare (rank (some (x, rest))) (rank (some (y, others)))
    else fractionOrder x y
  | x?, y? => compare (rank x?) (rank y?)

/-! ### Months -/

/-- The number of the month whose name a text starts with, or 0. -/
def monthOf (text : ByteText) : Nat :=
  let name := String.ofList (((text.dropWhile isFieldBlank).take 3).map Char.toUpper)
  match ["JAN", "FEB", "MAR", "APR", "MAY", "JUN", "JUL", "AUG", "SEP", "OCT", "NOV", "DEC"].idxOf?
    name with
  | some index => index + 1
  | none => 0

/-! ### Versions -/

/-- What a place in a name counts between numbers: a tilde before the end, the end before numbers,
these before letters, and letters before all else. -/
def versionRank : ByteText → Int
  | [] => -1
  | c :: _ =>
    if c.isDigit then 0 else if c.isAlpha then c.toNat else if c = '~' then -2 else c.toNat + 256

/-- The order of two names before the first digits in both, if it differs there; otherwise nothing.
-/
def textOrder? : ByteText → ByteText → Option Ordering
  | a :: as, b :: bs =>
    if a.isDigit && b.isDigit then none
    else
      match compare (versionRank (a :: as)) (versionRank (b :: bs)) with
      | .eq => textOrder? as bs
      | order => some order
  | as, bs =>
    match compare (versionRank as) (versionRank bs) with
    | .eq => none
    | order => some order

/-- The order of names whose numbers count as such; `fuel` bounds their number. -/
def runOrder : Nat → ByteText → ByteText → Ordering
  | 0, _, _ => .eq
  | fuel + 1, a, b =>
    if a.isEmpty && b.isEmpty then .eq
    else
      match textOrder? a b with
      | some order => order
      | none =>
        let isText (c : Char) : Bool := !c.isDigit
        let numberOf (text : ByteText) : Nat × ByteText := digitsTo 10 (text.dropWhile isText)
        let (n, a) := numberOf a
        let (m, b) := numberOf b
        (compare n m).then (runOrder fuel a b)

/-- The number of characters of a name before its endings, each of which starts with a point and a
letter; `taken` were passed over. -/
def stemLength (text : ByteText) : Nat :=
  let isStart (c : Char) : Bool := c.isAlpha || c = '~'
  let isPart (c : Char) : Bool := c.isAlphanum || c = '~'
  let isEnding (part : ByteText) : Bool := part.head?.any isStart && part.all isPart
  match Text.splitOnChar '.' text with
  | [] => 0
  | stem :: parts =>
    -- the first character belongs to the stem in any case
    let endings := (parts.reverse.takeWhile isEnding).reverse
    let endings := if stem.isEmpty && endings.length = parts.length then endings.drop 1 else endings
    text.length - endings.foldl (fun sum ending => sum + ending.length + 1) 0

/-- The order of names as that of versions: names that start with a point come first, and endings
count only between names that are the same otherwise. -/
def versionOrder (a b : ByteText) : Ordering :=
  let rank (name : ByteText) : Nat := match name with
    | [] => 0
    | ['.'] => 1
    | ['.', '.'] => 2
    | '.' :: _ => 3
    | _ => 4
  let order (a b : ByteText) : Ordering := runOrder (a.length + b.length + 1) a b
  (compare (rank a) (rank b)).then <|
    (order (a.take (stemLength a)) (b.take (stemLength b))).then (order a b)

end JuliaSession.Shell
