import NetworkSlice.Address.Text
import NetworkSlice.Domain.Composition
import NetworkSlice.Domain.Direction
import NetworkSlice.Domain.Joining
import NetworkSlice.Domain.Mapping
import NetworkSlice.Domain.Punycode

/-
Names of domains in any letters, and their written form in ASCII.

A name is mapped and composed, and then cut into labels at its points. A label
of other letters is written in code behind a mark, and one that is given with
that mark must be the code of a label that could have been given itself.
-/
namespace NetworkSlice.Domain

open Text

/-- What the code of a label follows. -/
def codeMark : List Char := "xn--".toList

/-- How long a code may be, without its mark. -/
def longestCode : Nat := 2000

/-- How long a label may be that has to be put in code. -/
def longestLabel : Nat := 1000

/-- Whether a character may not stand in a name: controls, and what separates
the parts of an address. -/
def isForbidden (c : Char) : Bool :=
  c.toNat ≤ 0x20 || c.toNat == 0x7f || "%#/:<>?@[\\]^|".toList.contains c

/-- Whether a character is ASCII. -/
def isAscii (c : Char) : Bool := c.toNat < 0x80

/-- A part of a name. -/
structure Label where
  /-- In its own letters. -/
  shown : List Char
  /-- In ASCII. -/
  written : List Char
deriving DecidableEq, Repr

namespace Label

/-- Whether a label begins with a letter of its own and has its joiners in
their places. -/
def isWhole (label : List Char) : Bool :=
  !(label.head?.any isMark) && joinersFit [] label

/-- The label of a code. -/
def ofCode? (code : List Char) : Option Label :=
  if !code.all isAscii || code.getLast? == some '-' || code.isEmpty || longestCode < code.length
  then none
  else do
    let shown ← Punycode.decode code
    if shown.all isSettled && composed shown == shown && isWhole shown then
      return ⟨shown, codeMark ++ code⟩
    else none

/-- The label of characters that have been mapped and composed. -/
def of? (cs : List Char) : Option Label :=
  if codeMark.isPrefixOf cs then ofCode? (cs.drop codeMark.length)
  else if cs.all isAscii then some ⟨cs, cs⟩
  else if isWhole cs && cs.length ≤ longestLabel then
    some ⟨cs, codeMark ++ Punycode.encode cs⟩
  else none

end Label

/-- The labels of a name. -/
def labels? (name : List Char) : Option (List Label) := do
  let texts ← name.mapM text?
  let mapped := composed texts.flatten
  if mapped.any isForbidden then none
  else
    let labels ← (pieces (· == '.') mapped).mapM Label.of?
    let turns := labels.any fun l => l.shown.any fun c => (Direction.of c).turns
    if turns && !labels.all fun l => runsOneWay l.shown then none else return labels

/-- The written form of a name. -/
def written? (name : List Char) : Option (List Char) :=
  (labels? name).map fun labels => joinWith '.' (labels.map Label.written)

end NetworkSlice.Domain
