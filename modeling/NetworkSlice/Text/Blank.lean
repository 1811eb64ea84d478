/-
Blank text: the white space of Unicode, trimming, and the test for a name
that holds nothing else.

Names, namespaces and provider fields that are blank count as not given, and
blanks around an address block are dropped before it is read. Both rules use
the one class `isBlank`.
-/
namespace NetworkSlice.Text

/-- The characters with the White_Space property of Unicode. -/
def isBlank (c : Char) : Bool :=
  let n := c.toNat
  (9 ≤ n && n ≤ 13) || n == 0x20 || n == 0x85 || n == 0xA0 || n == 0x1680 ||
    (0x2000 ≤ n && n ≤ 0x200A) || n == 0x2028 || n == 0x2029 || n == 0x202F ||
    n == 0x205F || n == 0x3000

/-- `cs` without the blanks at either end. -/
def trimChars (cs : List Char) : List Char :=
  ((cs.dropWhile isBlank).reverse.dropWhile isBlank).reverse

/-- `s` without the blanks at either end. -/
def trim (s : String) : String :=
  String.ofList (trimChars s.toList)

/-- Text that trims to nothing. -/
def isBlankText (s : String) : Bool :=
  s.toList.all isBlank

/-- `given`, or `fallback` where nothing but blanks was given. -/
def orElse (given fallback : String) : String :=
  if isBlankText given then fallback else given

end NetworkSlice.Text
