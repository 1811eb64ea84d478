import NetworkSlice.Power

/-
Ids of operations.

An id is a number of 128 bits: the milliseconds of the clock in the first 48,
the version 7 and the variant 2 at their places, and chance in the rest. So
ids of later operations come later in every listing. It is written as 32
hexadecimal digits in five groups.
-/
namespace NetworkSlice.OperationId

/-- The fields of an id with their widths, the first field first. -/
def fields (millis high low : Nat) : List (Nat × Nat) :=
  [(48, millis), (4, 7), (12, high), (2, 2), (62, low)]

/-- The number whose binary digits are those of the fields. -/
def pack (fields : List (Nat × Nat)) : Nat :=
  fields.foldl (fun n field => n * 2 ^ field.1 + field.2 % 2 ^ field.1) 0

/-- The lowest hexadecimal digits of a number, in order. -/
def hexDigits : Nat → Nat → List Char
  | 0, _ => []
  | count + 1, n => hexDigits count (n / 16) ++ [Nat.digitChar (n % 16)]

/-- Text in groups of the given sizes, with hyphens between. -/
def grouped : List Nat → List Char → List Char
  | [], cs => cs
  | [_], cs => cs
  | size :: sizes, cs => cs.take size ++ '-' :: grouped sizes (cs.drop size)

/-- The id for a time and two numbers that chance gave. -/
def text (millis high low : Nat) : String :=
  String.ofList (grouped [8, 4, 4, 4, 12] (hexDigits 32 (pack (fields millis high low))))

end NetworkSlice.OperationId
