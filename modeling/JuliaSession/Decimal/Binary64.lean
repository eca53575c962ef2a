/-!
# Binary floating-point numbers

A double-precision number as its 64-bit word. A finite number is `± significand · 2 ^ exponent`;
`toInt?` says when that is an integer. Numbers in JSON that have a fraction or an exponent are kept
in this form, so that equality is equality of words and printing is exact.
-/

namespace JuliaSession

/-- A double-precision number, given by its word: sign bit, eleven exponent bits, 52 fraction
bits. -/
structure Binary64 where
  /-- The word. -/
  bits : UInt64
  deriving DecidableEq, Repr, Inhabited

namespace Binary64

/-- Is the sign bit set? -/
def isNegative (x : Binary64) : Bool := Nat.pow 2 63 ≤ x.bits.toNat

/-- The exponent bits. -/
def exponentField (x : Binary64) : Nat := x.bits.toNat / Nat.pow 2 52 % 2048

/-- The fraction bits. -/
def fraction (x : Binary64) : Nat := x.bits.toNat % Nat.pow 2 52

/-- Neither an infinity nor a NaN. -/
def isFinite (x : Binary64) : Bool := x.exponentField != 2047

/-- Not a number. -/
def isNaN (x : Binary64) : Bool := x.exponentField == 2047 && x.fraction != 0

/-- The integer factor of a finite number's magnitude. -/
def significand (x : Binary64) : Nat :=
  if x.exponentField = 0 then x.fraction else Nat.pow 2 52 + x.fraction

/-- The power of two of a finite number's magnitude. -/
def exponent (x : Binary64) : Int :=
  if x.exponentField = 0 then -1074 else (x.exponentField : Int) - 1075

/-- A zero of either sign. -/
def isZero (x : Binary64) : Bool := x.bits.toNat % Nat.pow 2 63 == 0

/-- The magnitude of a finite number if it is an integer. -/
def natAbs? (x : Binary64) : Option Nat :=
  if !x.isFinite then none
  else if 0 ≤ x.exponent then some (x.significand * Nat.pow 2 x.exponent.toNat)
  else
    let scale := Nat.pow 2 (-x.exponent).toNat
    if x.significand % scale = 0 then some (x.significand / scale) else none

/-- The value of a finite number that is an integer. -/
def toInt? (x : Binary64) : Option Int :=
  x.natAbs?.map fun n => if x.isNegative then -(n : Int) else n

/-- The number with the given sign, exponent bits and fraction bits. -/
def ofFields (negative : Bool) (exponentField fraction : Nat) : Binary64 :=
  ⟨((if negative then Nat.pow 2 63 else 0) + exponentField * Nat.pow 2 52 + fraction).toUInt64⟩

/-- Positive or negative infinity. -/
def infinity (negative : Bool) : Binary64 := ofFields negative 2047 0

/-- The quiet NaN. -/
def nan : Binary64 := ofFields false 2047 (Nat.pow 2 51)

end Binary64

end JuliaSession
