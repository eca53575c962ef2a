import JuliaSession.Decimal.Read
import JuliaSession.Decimal.Shortest

/-!
# Decimals with a given number of places

The text of a non-negative rational number with a fixed number of places, in positional notation or
with an exponent, and the notation that takes whichever of them is shorter. The last place is
rounded, a tie going to the even digit.
-/

namespace JuliaSession.Decimal

/-- The magnitude of a finite number as a quotient. -/
def quotient (x : Binary64) : Nat × Nat :=
  (x.significand * Nat.pow 2 x.exponent.toNat, Nat.pow 2 (-x.exponent).toNat)

/-- Digits with a point before the last `places` of them. The point is left out when there are none,
unless `pointed`. -/
def withPoint (pointed : Bool) (places : Nat) (digits : List Char) : List Char :=
  let digits := List.replicate (places + 1 - digits.length) '0' ++ digits
  let whole := digits.take (digits.length - places)
  if places = 0 then if pointed then whole ++ ['.'] else whole
  else whole ++ '.' :: digits.drop whole.length

/-- `num / den` with `places` places. -/
def fixed (pointed : Bool) (places num den : Nat) : List Char :=
  withPoint pointed places (Nat.toDigits 10 (roundQuotient (num * Nat.pow 10 places) den))

/-- The first `places + 1` digits of `num / den`, rounded, and the exponent of the first one. -/
def leading (places num den : Nat) : Nat × Int :=
  if num = 0 then (0, 0)
  else
    let exponent := magnitude num den - 1
    let shift : Int := places - exponent
    let digits := roundQuotient (num * Nat.pow 10 shift.toNat) (den * Nat.pow 10 (-shift).toNat)
    if digits = Nat.pow 10 (places + 1) then (Nat.pow 10 places, exponent + 1)
    else (digits, exponent)

/-- An exponent with its sign and at least two digits. -/
def exponentText (exponent : Int) : List Char :=
  let digits := Nat.toDigits 10 exponent.natAbs
  (if exponent < 0 then '-' else '+') :: List.replicate (2 - digits.length) '0' ++ digits

/-- `num / den` with one digit before the point, `places` after it and an exponent. -/
def scientific (pointed : Bool) (places num den : Nat) : List Char :=
  let (digits, exponent) := leading places num den
  withPoint pointed places (Nat.toDigits 10 digits) ++ 'e' :: exponentText exponent

/-- Digits after a point without the zeros at their end. -/
def trimZeros (text : List Char) : List Char :=
  if '.' ∈ text then
    ((text.reverse.dropWhile (· = '0')).dropWhile (· = '.')).reverse
  else text

/-- `num / den` with `digits` significant digits: positional for exponents from `-4` up to that
number, and without zeros at the end unless `pointed`. -/
def general (pointed : Bool) (digits num den : Nat) : List Char :=
  let digits := max digits 1
  let exponent := (leading (digits - 1) num den).2
  if exponent < -4 ∨ (digits : Int) ≤ exponent then
    let text := scientific pointed (digits - 1) num den
    if pointed then text
    else
      let mantissa := text.takeWhile (· ≠ 'e')
      trimZeros mantissa ++ text.drop mantissa.length
  else
    let text := fixed pointed ((digits : Int) - 1 - exponent).toNat num den
    if pointed then text else trimZeros text

end JuliaSession.Decimal
