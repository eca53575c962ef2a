import JuliaSession.Decimal.Binary64

/-!
# Reading decimals

`Decimal.round` gives the double-precision number nearest to `± digits · 10 ^ exponent`, a tie going
to the even significand. It works on exact integers; a decimal too large for the format is an
infinity, one too small is zero.
-/

namespace JuliaSession.Decimal

/-- `num / den` rounded to an integer, a tie going to the even one. -/
def roundQuotient (num den : Nat) : Nat :=
  let q := num / den
  let r := num % den
  if 2 * r < den then q
  else if den < 2 * r then q + 1
  else if q % 2 = 0 then q else q + 1

/-- The number nearest to the positive rational `num / den`. -/
def nearest (negative : Bool) (num den : Nat) : Binary64 :=
  let guess : Int := (Nat.log2 num : Int) - Nat.log2 den - 53
  let scaled (q : Int) : Nat × Nat := (num * Nat.pow 2 (-q).toNat, den * Nat.pow 2 q.toNat)
  let q := if (scaled guess).2 * Nat.pow 2 53 ≤ (scaled guess).1 then guess + 1 else guess
  let q := max q (-1074)
  let m := roundQuotient (scaled q).1 (scaled q).2
  let (m, q) := if m = Nat.pow 2 53 then (Nat.pow 2 52, q + 1) else (m, q)
  if m < Nat.pow 2 52 then Binary64.ofFields negative 0 m
  else if 971 < q then Binary64.infinity negative
  else Binary64.ofFields negative (q + 1075).toNat (m - Nat.pow 2 52)

/-- The number nearest to `± digits · 10 ^ exponent`. -/
def round (negative : Bool) (digits : Nat) (exponent : Int) : Binary64 :=
  let size : Int := (Nat.toDigits 10 digits).length + exponent
  if digits = 0 ∨ size < -330 then Binary64.ofFields negative 0 0
  else if 310 < size then Binary64.infinity negative
  else nearest negative (digits * Nat.pow 10 exponent.toNat) (Nat.pow 10 (-exponent).toNat)

end JuliaSession.Decimal
