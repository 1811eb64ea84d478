import NetworkSlice.Text.Range

/-
Tables of what characters stand for.

A word of such a table names code points in hex digits and, after `>`, what
they stand for. In a shift that is the first character of another range. In a
listing it is one text for each code point from the named one on, with commas
between the texts and `+` between the characters of a text.
-/
namespace NetworkSlice.Domain

open Text

/-- A range whose characters stand for those of another one, in order. -/
structure Shift where
  source : Range
  target : Nat
deriving DecidableEq, Repr

/-- Characters from `first` on, each with the text it stands for. -/
structure Listing where
  first : Nat
  texts : List (List Char)
deriving DecidableEq, Repr

namespace Shift

/-- The shift of a word. -/
def ofWord (word : List Char) : Shift :=
  let (source, target) := cutAt '>' word
  ⟨Range.ofWord source, numeral 16 (target.getD [])⟩

/-- The shifts of a text. -/
def table (text : String) : List Shift := (Range.words text).map ofWord

/-- What a character stands for by the shift. -/
def text? (s : Shift) (c : Char) : Option (List Char) :=
  if s.source.holds c then some [Char.ofNat (s.target + (c.toNat - s.source.first))] else none

end Shift

namespace Listing

/-- The characters with `+` between their code points. -/
def textOf (word : List Char) : List Char :=
  (pieces (· == '+') word).map fun code => Char.ofNat (numeral 16 code)

/-- The listing of a word. -/
def ofWord (word : List Char) : Listing :=
  let (first, texts) := cutAt '>' word
  ⟨numeral 16 first, (pieces (· == ',') (texts.getD [])).map textOf⟩

/-- The listings of a text. -/
def table (text : String) : List Listing := (Range.words text).map ofWord

/-- What a character stands for by the listing. -/
def text? (l : Listing) (c : Char) : Option (List Char) :=
  if l.first ≤ c.toNat then l.texts[c.toNat - l.first]? else none

end Listing

end NetworkSlice.Domain
