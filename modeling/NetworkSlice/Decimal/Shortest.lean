import NetworkSlice.Decimal.Double

/-
The shortest decimal that reads back as a double, and how it is laid out.

Every double is the rounding of an interval of numbers around it; the ends
belong to it when the mantissa is even. For each count of digits the decimals
just below and just above the value are tried. The first count that has one
inside the interval wins, and of two the nearer.
-/
namespace NetworkSlice

/-- The value `digits * 10 ^ scale`; the digits do not end in a zero. -/
structure Decimal where
  digits : Nat
  scale : Int
deriving DecidableEq, Repr

namespace Decimal

/-- Without zeros at the end of the digits. -/
def trimmed (fuel : Nat) (d : Decimal) : Decimal :=
  match fuel with
  | 0 => d
  | fuel + 1 =>
    if d.digits ≠ 0 ∧ d.digits % 10 = 0 then trimmed fuel ⟨d.digits / 10, d.scale + 1⟩ else d

/-- An interval of numbers, over one denominator. -/
structure Interval where
  low : Nat
  value : Nat
  high : Nat
  den : Nat
  /-- Whether the ends belong to it. -/
  closed : Bool

/-- The numbers that round to a double, without its sign. -/
def Interval.of (x : Double) : Interval :=
  let m := 4 * x.mantissa
  let below := if x.mantissa = 2 ^ (Double.digits - 1) ∧ Double.floor < x.exponent then 1 else 2
  let factor := 2 ^ (x.exponent - 2).toNat
  { low := (m - below) * factor
    value := m * factor
    high := (m + 2) * factor
    den := 2 ^ (2 - x.exponent).toNat
    closed := x.mantissa % 2 = 0 }

/-- Whether a decimal lies in the interval. -/
def Interval.holds (i : Interval) (d : Decimal) : Bool :=
  let n := d.digits * 10 ^ d.scale.toNat * i.den
  let unit := 10 ^ (-d.scale).toNat
  if i.closed then i.low * unit ≤ n && n ≤ i.high * unit
  else i.low * unit < n && n < i.high * unit

/-- The greatest decimal of the scale that is not above the value. -/
def Interval.floorAt (i : Interval) (scale : Int) : Nat :=
  i.value * 10 ^ (-scale).toNat / (i.den * 10 ^ scale.toNat)

/-- Twice what the value exceeds that decimal by, over one unit of the
scale, compared with one. -/
def Interval.upperIsNearer (i : Interval) (scale : Int) : Bool :=
  let unit := i.den * 10 ^ scale.toNat
  unit < 2 * (i.value * 10 ^ (-scale).toNat % unit)

/-- The decimal of the scale nearest to the value, if the interval has one. -/
def Interval.pick (i : Interval) (scale : Int) : Option Decimal :=
  let lower : Decimal := ⟨i.floorAt scale, scale⟩
  let upper : Decimal := ⟨i.floorAt scale + 1, scale⟩
  match i.holds lower && decide (lower.digits ≠ 0), i.holds upper with
  | true, true => some (if i.upperIsNearer scale then upper else lower)
  | true, false => some lower
  | false, true => some upper
  | false, false => none

/-- The number of decimal digits before the point, or minus the zeros after
it. -/
def Interval.magnitude (i : Interval) : Int :=
  if i.den ≤ i.value then (Nat.toDigits 10 (i.value / i.den)).length
  else 1 - (Nat.toDigits 10 ((i.den - 1) / i.value)).length

/-- The shortest decimal that reads back as `x`, without its sign. Seventeen
digits always do. -/
def shortest (x : Double) : Decimal :=
  if x.mantissa = 0 then ⟨0, 0⟩
  else
    let i := Interval.of x
    let scales := (List.range 18).map fun n : Nat => i.magnitude - (n : Int)
    ((scales.findSome? i.pick).map (trimmed 18)).getD ⟨x.mantissa, x.exponent⟩

/-- The digits as characters. -/
def chars (d : Decimal) : List Char := Nat.toDigits 10 d.digits

/-- Digits with a point after the first `before` of them; zeros fill what is
missing on either side. -/
def pointed (digits : List Char) (before : Int) : List Char :=
  if before ≤ 0 then '0' :: '.' :: List.replicate (-before).toNat '0' ++ digits
  else
    let padded := digits ++ List.replicate (before.toNat - digits.length) '0'
    let after := padded.drop before.toNat
    padded.take before.toNat ++ '.' :: (if after.isEmpty then ['0'] else after)

/-- A whole number with its sign in front, be it plus or minus. -/
def signedChars (n : Int) : List Char :=
  (if n < 0 then '-' else '+') :: Nat.toDigits 10 n.natAbs

/-- One digit, the point and the others, and a power of ten. -/
def scientific (digits : List Char) (power : Int) : List Char :=
  let point := if digits.length = 1 then [] else ['.']
  digits.take 1 ++ point ++ digits.drop 1 ++ 'e' :: signedChars power

end Decimal

/-- How many digits may stand before the point in a document. -/
def Double.widestPlain : Int := 16

/-- How many zeros, less one, may follow `0.` in a document. -/
def Double.deepestPlain : Int := -5

/-- The sign of a double before its digits. -/
def Double.signed (x : Double) (digits : List Char) : String :=
  String.ofList (if x.negative then '-' :: digits else digits)

/-- The text of a double in a document: with a point where that is short, and
with a power of ten otherwise. -/
def Double.text (x : Double) : String :=
  let d := Decimal.shortest x
  let before : Int := d.chars.length + d.scale
  x.signed <|
    if Double.deepestPlain < before ∧ before ≤ Double.widestPlain then
      Decimal.pointed d.chars before
    else Decimal.scientific d.chars (before - 1)

end NetworkSlice
