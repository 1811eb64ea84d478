import NetworkSlice.Power

/-
Numbers with 53 binary digits, and the value of a numeral among them.

A double is a sign, a whole mantissa below 2^53 and a binary exponent; the
mantissa has all its digits unless the exponent is as low as it gets, so a
value has one form for each sign. `ofRatio` is the one place where a value is
rounded: to the nearest double, and to an even mantissa from the middle.

`ofScaled` gives a numeral its value. It is not the nearest double to the
numeral: the digits are rounded first, and then scaled by powers of ten that
are rounded themselves.
-/
namespace NetworkSlice

/-- The number of binary digits of a mantissa. -/
def Double.digits : Nat := 53

/-- The least exponent. -/
def Double.floor : Int := -1074

/-- The greatest exponent. -/
def Double.ceiling : Int := 971

/-- The value `± mantissa * 2 ^ exponent`. -/
structure Double where
  negative : Bool
  mantissa : Nat
  exponent : Int
  mantissa_lt : mantissa < 2 ^ Double.digits
  floor_le : Double.floor ≤ exponent
  le_ceiling : exponent ≤ Double.ceiling
deriving DecidableEq, Repr

namespace Double

/-- The zero of a sign. -/
def zero (negative : Bool) : Double :=
  ⟨negative, 0, floor, by decide, by decide, by decide⟩

instance : Inhabited Double := ⟨zero false⟩

/-- Whether the value is zero. -/
def isZero (x : Double) : Bool := x.mantissa = 0

/-- The same value with the given sign. -/
def withSign (x : Double) (negative : Bool) : Double := { x with negative }

/-- The value as a ratio of whole numbers, without its sign. -/
def ratio (x : Double) : Nat × Nat :=
  (x.mantissa * 2 ^ x.exponent.toNat, 2 ^ (-x.exponent).toNat)

/-- A quotient rounded to the nearest whole number, from the middle to the
even one. -/
def roundQuotient (num den : Nat) : Nat :=
  let q := num / den
  let r := num % den
  if 2 * r < den then q
  else if den < 2 * r then q + 1
  else q + q % 2

/-- The binary logarithm of a ratio of positive numbers, rounded down. -/
def floorLog (num den : Nat) : Int :=
  let guess : Int := num.log2 - den.log2
  if den * 2 ^ guess.toNat ≤ num * 2 ^ (-guess).toNat then guess else guess - 1

/-- The mantissa and exponent with that value, where they are in range. -/
def ofParts? (mantissa : Nat) (exponent : Int) : Option Double :=
  if h : mantissa < 2 ^ digits ∧ floor ≤ exponent ∧ exponent ≤ ceiling then
    some ⟨false, mantissa, exponent, h.1, h.2.1, h.2.2⟩
  else none

/-- The double nearest to `num / den`, unless it is beyond the greatest. -/
def ofRatio (num den : Nat) : Option Double :=
  if num = 0 then some (zero false)
  else
    let exponent := max floor (floorLog num den - (digits - 1 : Nat))
    let mantissa := roundQuotient (num * 2 ^ (-exponent).toNat) (den * 2 ^ exponent.toNat)
    if mantissa = 2 ^ digits then ofParts? (2 ^ (digits - 1)) (exponent + 1)
    else ofParts? mantissa exponent

/-- The product, without a sign. -/
def mul? (x y : Double) : Option Double :=
  ofRatio (x.ratio.1 * y.ratio.1) (x.ratio.2 * y.ratio.2)

/-- The quotient, without a sign; a quotient too small for any other value is
zero, and so is one that cannot be formed. -/
def div (x y : Double) : Double :=
  (ofRatio (x.ratio.1 * y.ratio.2) (x.ratio.2 * y.ratio.1)).getD (zero false)

/-- The double nearest to a power of ten. -/
def tenTo? (places : Nat) : Option Double := ofRatio (10 ^ places) 1

/-- The greatest power of ten below the greatest double. -/
def greatestTen : Nat := 308

/-- Divide by a power of ten, the greatest one at a time. -/
def shrink (x : Double) (places : Nat) : Double :=
  if places ≤ greatestTen then x.div ((tenTo? places).getD (zero false))
  else if x.isZero then x
  else shrink (x.div ((tenTo? greatestTen).getD (zero false))) (places - greatestTen)
termination_by places
decreasing_by
  have : 0 < greatestTen := by decide
  omega

/-- Multiply by a power of ten, unless that leaves the range. -/
def grow? (x : Double) (places : Nat) : Option Double :=
  if x.isZero then some x
  else if places ≤ greatestTen then do x.mul? (← tenTo? places)
  else none

/-- The value of `± significand * 10 ^ exponent`, unless it is out of range. -/
def ofScaled (negative : Bool) (significand : Nat) (exponent : Int) : Option Double := do
  let x ← ofRatio significand 1
  let scaled ← if 0 ≤ exponent then x.grow? exponent.toNat else some (x.shrink (-exponent).toNat)
  return scaled.withSign negative

end Double

end NetworkSlice
