/-
Base64 with the standard alphabet.

Three bytes make four characters; a group of one or two bytes is filled up
with `=`. Reading accepts exactly what writing produces: the padding must be
there, and the bits of the last character that no byte needs must be zero.
Text in sections is read with more patience: blanks are passed over, the
padding may be left out, and unneeded bits may be any.
-/
namespace NetworkSlice.Text.Base64

/-- The character of a number below 64. -/
def digit (n : Nat) : Char :=
  if n < 26 then Char.ofNat ('A'.toNat + n)
  else if n < 52 then Char.ofNat ('a'.toNat + (n - 26))
  else if n < 62 then Char.ofNat ('0'.toNat + (n - 52))
  else if n = 62 then '+'
  else '/'

/-- The number of a character of the alphabet. -/
def value? (c : Char) : Option Nat :=
  if 'A' ≤ c ∧ c ≤ 'Z' then some (c.toNat - 'A'.toNat)
  else if 'a' ≤ c ∧ c ≤ 'z' then some (c.toNat - 'a'.toNat + 26)
  else if '0' ≤ c ∧ c ≤ '9' then some (c.toNat - '0'.toNat + 52)
  else if c = '+' then some 62
  else if c = '/' then some 63
  else none

/-- Write bytes. -/
def encode : List UInt8 → List Char
  | [] => []
  | [a] => [digit (a.toNat / 4), digit (a.toNat % 4 * 16), '=', '=']
  | [a, b] =>
    [digit (a.toNat / 4), digit (a.toNat % 4 * 16 + b.toNat / 16),
      digit (b.toNat % 16 * 4), '=']
  | a :: b :: c :: rest =>
    digit (a.toNat / 4) :: digit (a.toNat % 4 * 16 + b.toNat / 16) ::
      digit (b.toNat % 16 * 4 + c.toNat / 64) :: digit (c.toNat % 64) :: encode rest

/-- The three bytes of four digits. -/
def bytes (p q r s : Nat) : UInt8 × UInt8 × UInt8 :=
  (UInt8.ofNat (p * 4 + q / 16), UInt8.ofNat (q % 16 * 16 + r / 4),
    UInt8.ofNat (r % 4 * 64 + s))

/-- Read bytes. -/
def decode : List Char → Option (List UInt8)
  | [] => some []
  | a :: b :: c :: d :: rest => do
    let p ← value? a
    let q ← value? b
    if c = '=' then
      if d = '=' ∧ rest = [] ∧ q % 16 = 0 then
        return [(bytes p q 0 0).1]
      else none
    else
      let r ← value? c
      if d = '=' then
        if rest = [] ∧ r % 4 = 0 then
          return [(bytes p q r 0).1, (bytes p q r 0).2.1]
        else none
      else
        let s ← value? d
        let more ← decode rest
        return (bytes p q r s).1 :: (bytes p q r s).2.1 :: (bytes p q r s).2.2 :: more
  | _ => none

/-- The bytes of numbers below 64; the last group may be short. -/
def ofValues : List Nat → Option (List UInt8)
  | [] => some []
  | [_] => none
  | [p, q] => some [(bytes p q 0 0).1]
  | [p, q, r] => some [(bytes p q r 0).1, (bytes p q r 0).2.1]
  | p :: q :: r :: s :: rest =>
    (ofValues rest).map fun more =>
      (bytes p q r s).1 :: (bytes p q r s).2.1 :: (bytes p q r s).2.2 :: more

/-- The blanks that may stand anywhere in a section. -/
def isGap (c : Char) : Bool := c == ' ' || (9 ≤ c.toNat && c.toNat ≤ 13)

/-- Read bytes patiently. -/
def decodeSection (cs : List Char) : Option (List UInt8) := do
  let cs := cs.filter (!isGap ·)
  let digits := cs.takeWhile (· != '=')
  let padding := cs.dropWhile (· != '=')
  if padding.isEmpty || (padding.all (· == '=') && cs.length % 4 = 0 && padding.length ≤ 2) then
    ofValues (← digits.mapM value?)
  else none

end NetworkSlice.Text.Base64
