import NetworkSlice.Text.Digit

/-
Percent-encoding: text as the bytes of its characters, with every byte that
is not kept written as a percent sign and two digits.

Which characters are kept depends on where the text is to stand; in a path
segment or a query value only letters, digits and four marks are. Reading
leaves a percent sign alone that no two digits follow.
-/
namespace NetworkSlice.Text

/-- An upper-case hex digit. -/
def upperHexDigit (n : Nat) : Char :=
  if n < 10 then Char.ofNat ('0'.toNat + n) else Char.ofNat ('A'.toNat + (n - 10))

/-- A byte as a percent sign and two digits. -/
def percentByte (b : UInt8) : List Char :=
  ['%', upperHexDigit (b.toNat / 16), upperHexDigit (b.toNat % 16)]

/-- The text with all characters but the kept ones as percent-encoded
bytes. -/
def percentEncode (keep : Char → Bool) (cs : List Char) : List Char :=
  cs.flatMap fun c =>
    if keep c then [c] else (String.utf8EncodeChar c).flatMap percentByte

/-- The characters that mean only themselves anywhere in an address. -/
def isUnreserved (c : Char) : Bool :=
  c.isAlphanum || c == '-' || c == '_' || c == '.' || c == '~'

/-- The text as it may stand in a path segment or a query value. -/
def percentEncoded (s : String) : String :=
  String.ofList (percentEncode isUnreserved s.toList)

/-- The bytes of a text that is percent-encoded in places. -/
def percentBytes : List Char → List UInt8
  | '%' :: a :: b :: rest =>
    if isDigitOf 16 a && isDigitOf 16 b then UInt8.ofNat (numeral 16 [a, b]) :: percentBytes rest
    else String.utf8EncodeChar '%' ++ percentBytes (a :: b :: rest)
  | c :: rest => String.utf8EncodeChar c ++ percentBytes rest
  | [] => []

/-- The text of those bytes, if they are one. -/
def percentDecode? (cs : List Char) : Option (List Char) :=
  (String.fromUTF8? ⟨(percentBytes cs).toArray⟩).map String.toList

end NetworkSlice.Text
