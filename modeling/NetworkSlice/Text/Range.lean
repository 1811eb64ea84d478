import NetworkSlice.Text.Digit
import NetworkSlice.Text.Pieces

/-
Ranges of characters, and tables of them.

A table is kept as text of words with blanks and line ends between them. A
word is one code point in hex digits, or the first and the last one of a range
with a hyphen between them.
-/
namespace NetworkSlice.Text

/-- The characters between two code points, with both. -/
structure Range where
  first : Nat
  last : Nat
deriving DecidableEq, Repr

namespace Range

/-- The range of a word. -/
def ofWord (word : List Char) : Range :=
  match cutAt '-' word with
  | (first, some last) => ⟨numeral 16 first, numeral 16 last⟩
  | (only, none) => ⟨numeral 16 only, numeral 16 only⟩

/-- The words of a text. -/
def words (text : String) : List (List Char) :=
  ((text.splitOn "\n").flatMap fun line =>
    (line.splitOn " ").map String.toList).filter (!·.isEmpty)

/-- The ranges of a text. -/
def table (text : String) : List Range := (words text).map ofWord

/-- Whether a character is in the range. -/
def holds (r : Range) (c : Char) : Bool := r.first ≤ c.toNat && c.toNat ≤ r.last

end Range

/-- Whether a character is in one of the ranges. -/
def isIn (ranges : List Range) (c : Char) : Bool := ranges.any (·.holds c)

end NetworkSlice.Text
