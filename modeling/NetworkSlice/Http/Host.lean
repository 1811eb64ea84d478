import NetworkSlice.Domain.Name
import NetworkSlice.Text.Percent

/-
Hosts in addresses.

Where an address is of the usual kind its host is an IPv6 address in brackets,
an IPv4 address in any of its spellings, or the name of a domain. Elsewhere a
host without brackets is any text.
-/
namespace NetworkSlice.Http

open Text

/-- Whether the character is a control or not ASCII. -/
def isControl (c : Char) : Bool := c.toNat < 0x20 || 0x7e < c.toNat

/-- Encode controls and the given characters. -/
def encodeAll (others : List Char) (cs : List Char) : List Char :=
  percentEncode (fun c => !(isControl c || others.contains c)) cs

-- ==================================================== numbers

/-- A part of a dotted number, in base 16 after `0x`, 8 after `0`, and else
10. -/
def readHostNumber (cs : List Char) : Option Nat :=
  let value (radix : Nat) (digits : List Char) : Option Nat :=
    if digits.all (isDigitOf radix) then some (numeral radix digits) else none
  match cs with
  | [] => none
  | '0' :: 'x' :: rest => value 16 rest
  | '0' :: d :: rest => value 8 (d :: rest)
  | cs => value 10 cs

/-- The parts of a host between points, without an empty one at the end. -/
def hostParts (cs : List Char) : List (List Char) :=
  let parts := pieces (· == '.') cs
  if 1 < parts.length && parts.getLast? == some [] then parts.dropLast else parts

/-- Whether the last part of a host is a number, so that the host must be an
address. -/
def endsInNumber (parts : List (List Char)) : Bool :=
  match parts.getLast? with
  | none => false
  | some [] => false
  | some last => last.all Char.isDigit || (readHostNumber last).isSome

/-- The address of numbers, of which the last fills what the others leave. -/
def hostAddress (numbers : List Nat) : Option Nat :=
  if numbers.isEmpty || 4 < numbers.length then none
  else
    let before := numbers.dropLast
    let last := numbers.getLastD 0
    if before.all (· < 256) && decide (last < 256 ^ (5 - numbers.length)) then
      some (before.zipIdx.foldl (fun n e => n + e.1 * 256 ^ (3 - e.2)) last)
    else none

-- ====================================================== hosts

/-- The address between brackets. -/
def readBracketed (cs : List Char) : Option (List Char) :=
  if cs.getLast? = some ']' then do
    let (bits, left) ← readColon .bare cs.dropLast
    if left.isEmpty then return '[' :: compressedText bits ++ [']'] else none
  else none

/-- The host of an address of the usual kind. -/
def readHost (cs : List Char) : Option (List Char) :=
  match cs with
  | '[' :: rest => readBracketed rest
  | cs => do
    let name ← Domain.written? (← percentDecode? cs)
    if name.isEmpty then none
    else
      let parts := hostParts name
      if endsInNumber parts then
        return dottedText (← hostAddress (← parts.mapM readHostNumber))
      else return name

/-- The characters that may not stand in any host. -/
def notInHosts : List Char := "\x00\t\n\r #/:<>?@[\\]^|".toList

/-- The host of an address of another kind. -/
def readOtherHost (cs : List Char) : Option (List Char) :=
  match cs with
  | '[' :: rest => readBracketed rest
  | cs => if cs.any notInHosts.contains then none else some (encodeAll [] cs)

end NetworkSlice.Http
