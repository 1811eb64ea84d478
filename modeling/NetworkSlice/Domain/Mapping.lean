import NetworkSlice.Domain.MappingTable

/-
What the characters of a domain name stand for.

Names are compared by what they stand for: capitals for small letters, wide
and raised forms for plain ones, ligatures for their letters, and a few
characters for nothing. A character that stands for itself is settled; only
settled characters are left when a name has been mapped.
-/
namespace NetworkSlice.Domain

open Text

/-- The character after one whose place in a range is even. -/
def pairedText? (c : Char) : Option (List Char) :=
  (paired.find? (·.holds c)).bind fun r =>
    if (c.toNat - r.first) % 2 = 0 then some [Char.ofNat (c.toNat + 1)] else none

/-- The text that a character stands for, if the name may hold it. -/
def text? (c : Char) : Option (List Char) :=
  if !isIn accepted c then none
  else if isIn dropped c then some []
  else
    ((pairedText? c).or ((shifted.findSome? (·.text? c)).or (listed.findSome? (·.text? c)))).or
      (some [c])

/-- Whether a character stands for itself. -/
def isSettled (c : Char) : Bool := text? c == some [c]

end NetworkSlice.Domain
