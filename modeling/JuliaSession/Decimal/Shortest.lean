import JuliaSession.Decimal.Binary64

/-!
# Shortest decimal text

The text of a double-precision number: the fewest digits that read back as the same number, and of
those the nearest. `Decimal.shortest` finds the digits by exact integer arithmetic on the interval
of reals that round to the number; `Binary64.text` lays them out as a `Layout` says, positionally
for exponents from `-4` up to some limit and with an exponent otherwise.
-/

namespace JuliaSession.Decimal

/-- A positive decimal `0.d₁d₂… · 10 ^ point`, where `digits` is the number `d₁d₂…`. -/
structure Digits where
  /-- The digits, read as one number. -/
  digits : Nat
  /-- How many digits there are. -/
  count : Nat
  /-- The position of the decimal point after the first digit's left side. -/
  point : Int
  deriving DecidableEq, Repr

/-- The number of decimal digits of `n`; zero has one. -/
def digitCount (n : Nat) : Nat := (Nat.toDigits 10 n).length

/-- The least power of ten above the positive rational `num / den`. -/
def magnitude (num den : Nat) : Int :=
  if den ≤ num then digitCount (num / den) else 1 - (digitCount ((den - 1) / num) : Int)

/-- The reals that round to a number, scaled by a common denominator: the ends of the interval, the
number itself, and whether the ends belong to it. -/
structure Rounding where
  /-- Numerator of the lower end. -/
  low : Nat
  /-- Numerator of the number. -/
  value : Nat
  /-- Numerator of the upper end. -/
  high : Nat
  /-- The common denominator. -/
  den : Nat
  /-- Do the ends round to the number too? -/
  closed : Bool

/-- The rounding interval of a positive finite number: half way to either neighbour, which is nearer
below a power of two. -/
def Rounding.of (x : Binary64) : Rounding :=
  let m := x.significand
  let s := x.exponent - 2
  let up := Nat.pow 2 s.toNat
  let below := if x.fraction = 0 ∧ 1 < x.exponentField then 1 else 2
  { low := (4 * m - below) * up, value := 4 * m * up, high := (4 * m + 2) * up,
    den := Nat.pow 2 (-s).toNat, closed := m % 2 = 0 }

/-- Does `d · unit / scale` round to the number? -/
def Rounding.holds (r : Rounding) (unit scale d : Nat) : Bool :=
  let p := d * unit * r.den
  if r.closed then r.low * scale ≤ p && p ≤ r.high * scale
  else r.low * scale < p && p < r.high * scale

/-- The best decimal with `count` digits that rounds to the number, if there is one: of the two
neighbours on that grid the one that does, or of both the nearer, a tie going to the even one. -/
def Rounding.withDigits? (r : Rounding) (point : Int) (count : Nat) : Option Digits :=
  let grid := point - count
  let unit := Nat.pow 10 grid.toNat
  let scale := Nat.pow 10 (-grid).toNat
  let target := r.value * scale
  let down := target / (unit * r.den)
  let rest := target % (unit * r.den)
  let fitsDown := r.holds unit scale down
  let fitsUp := r.holds unit scale (down + 1)
  let pick :=
    if fitsDown && fitsUp then
      if 2 * rest < unit * r.den then some down
      else if unit * r.den < 2 * rest then some (down + 1)
      else if down % 2 = 0 then some down else some (down + 1)
    else if fitsDown then some down
    else if fitsUp then some (down + 1)
    else none
  pick.map fun d =>
    if d = Nat.pow 10 count then ⟨1, 1, point + 1⟩ else ⟨d, count, point⟩

/-- Drop the zeros at the end of the digits. -/
def Digits.trim : Nat → Digits → Digits
  | 0, d => d
  | fuel + 1, d =>
    if 1 < d.count ∧ d.digits % 10 = 0 then
      Digits.trim fuel ⟨d.digits / 10, d.count - 1, d.point⟩
    else d

/-- The fewest digits that read back as the positive finite number `x`. Seventeen always suffice. -/
def shortest (x : Binary64) : Digits :=
  let r := Rounding.of x
  let point := magnitude r.value r.den
  let found := (List.range 17).findSome? fun k => r.withDigits? point (k + 1)
  Digits.trim 17 (found.getD ⟨0, 1, 1⟩)

/-- The digits as characters, leading zeros of the number kept up to `count`. -/
def Digits.chars (d : Digits) : List Char :=
  let ds := Nat.toDigits 10 d.digits
  List.replicate (d.count - ds.length) '0' ++ ds

/-- How digits are laid out. -/
structure Layout where
  /-- The most digits before the point that are written positionally. -/
  wholeDigits : Nat
  /-- The fewest digits of an exponent. -/
  exponentDigits : Nat

/-- Exponents up to `15` are written positionally, the others with at least two digits. -/
def Layout.standard : Layout := ⟨16, 2⟩

/-- Exponents up to `16` are written positionally, the others with as few digits as they have. -/
def Layout.wire : Layout := ⟨17, 1⟩

/-- Exponents from `-4` up to the limit are written positionally, with at least one digit after the
point; the others as `e`, a sign and digits. -/
def Digits.text (layout : Layout) (d : Digits) : List Char :=
  let cs := d.chars
  let n : Int := d.count
  if -4 < d.point ∧ d.point ≤ layout.wholeDigits then
    -- the point stands before, after or among the digits
    if d.point ≤ 0 then '0' :: '.' :: List.replicate (-d.point).toNat '0' ++ cs
    else if n ≤ d.point then cs ++ List.replicate (d.point - n).toNat '0' ++ ['.', '0']
    else cs.take d.point.toNat ++ '.' :: cs.drop d.point.toNat
  else
    let e := d.point - 1
    let ds := Nat.toDigits 10 e.natAbs
    let head := cs.take 1 ++ (if d.count = 1 then [] else '.' :: cs.drop 1)
    head ++ ['e', if e < 0 then '-' else '+']
      ++ List.replicate (layout.exponentDigits - ds.length) '0' ++ ds

end JuliaSession.Decimal

namespace JuliaSession.Binary64

/-- The shortest text of a finite number; `infinite` and `nan` are the words for the others. -/
def text (x : Binary64) (layout : Decimal.Layout) (infinite nan : String) : String :=
  let sign := if x.isNegative then "-" else ""
  if x.isNaN then nan
  else if !x.isFinite then sign ++ infinite
  else if x.isZero then sign ++ "0.0"
  else sign ++ String.ofList ((Decimal.shortest x).text layout)

end JuliaSession.Binary64
