/-
Digits of numerals in bases up to sixteen.
-/
namespace NetworkSlice

/-- The value of a digit of base at most 16. -/
def digitValue (c : Char) : Nat :=
  if '0' ≤ c ∧ c ≤ '9' then c.toNat - '0'.toNat
  else if 'a' ≤ c ∧ c ≤ 'f' then c.toNat - 'a'.toNat + 10
  else if 'A' ≤ c ∧ c ≤ 'F' then c.toNat - 'A'.toNat + 10
  else 16

/-- Digits of the base are those whose value is below it. -/
def isDigitOf (radix : Nat) (c : Char) : Bool := digitValue c < radix

/-- The number of digits in a base, the first one highest. -/
def numeral (radix : Nat) (digits : List Char) : Nat :=
  digits.foldl (fun n c => n * radix + digitValue c) 0

end NetworkSlice
