import NetworkSlice.Domain.Mark

/-
The direction of labels.

As soon as one label of a name has a character that is written from right to
left, every label has to run in one direction: the first character sets it,
the others keep to the classes that go with it, and the last one that is no
mark is a letter or a number. A label from right to left holds numbers of one
kind only.
-/
namespace NetworkSlice.Domain

open Text

/-- How a character behaves among others that run in some direction. -/
inductive Direction where
  | leftToRight
  | rightToLeft
  | arabicLetter
  | europeanNumber
  | arabicNumber
  | europeanSign
  | europeanUnit
  | numberSeparator
  | mark
  | boundary
  | neutral
  | space
deriving DecidableEq, Repr

/-- The marks that behave as letters from left to right. -/
def steadyMarks : List Range := Range.table
  "cbf cc6 11a07-11a08 11c3f"

/-- The classes of the characters that are neither letters from left to right
nor marks. -/
def directions : List (Direction × List Range) := [
    (.rightToLeft, Range.table
      "5be 5c0 5c3 5c6 5d0-5f4 7c0-7ea 7f4-7f5 7fa 7fe-815 81a 824 828 830-858 85e 10800-1091b
      10920-10a00 10a10-10a35 10a40-10ae4 10aeb-10b35 10b40-10cff 10d40-10d4f 10d6f-10d8f
      10e80-10ea9 10ead-10eb1 10f00-10f27 10f70-10f81 10f86-10ff6 1e800-1e8cf 1e922-1e943
      1e94b-1e95f"),
    (.arabicLetter, Range.table
      "608 60b 60d 61b-64a 66d-66f 671-6d5 6e5-6e6 6ee-6ef 6fa-710 712-72f 74d-7a5 7b1 860-88f
      8a0-8c9 fbb2-fbc2 fe73 10d00-10d23 10ec2-10ec7 10f30-10f45 10f51-10f59 1ec71-1ed3d"),
    (.europeanNumber, Range.table
      "30-39 6f0-6f9 102e1-102fb"),
    (.arabicNumber, Range.table
      "660-669 66b-66c 10d30-10d39 10e60-10e7e"),
    (.europeanSign, Range.table
      "2b 2d 2212"),
    (.europeanUnit, Range.table
      "23-25 a2-a5 b0-b1 58f 609-60a 66a 9f2-9f3 9fb af1 bf9 e3f 17db 2030-2032 20a0-20c1 212e
      2213 a838-a839 11fdd-11fe0 1e2ff"),
    (.numberSeparator, Range.table
      "2c 2e-2f 3a 60c 2044"),
    (.boundary, Range.table
      "0-8 e-1b 7f 200c-200d"),
    (.neutral, Range.table
      "21-22 26-2a 3b-60 7b-7e a1 a6-ae b6-d7 f7 2b9-2ba 2c2-2cf 2d2-2ed 2ef-2ff 375 3f6
      58a-58e 606-607 60e-60f 6de 6e9 7f6-7f9 bf3-bf8 bfa c78-c7e f3a-f3d 1390-1399 1400
      169b-169c 17f0-180a 1940-1945 19de-19ff 2010-2027 2035-2043 2045-205e 2104-2129
      213a-214d 218a-2211 2214-2335 237b-2394 2396-26ab 26ad-27ff 2900-2bff 2ce5-2cea
      2cf9-2cff 2e00-3004 3008-3020 3030 3037 303d-303f 30a0 30fb 31c0-31e5 4dc0-4dff
      a490-a4c6 a60d-a60f a673 a67e-a67f a700-a721 a788 a828-a82b a874-a877 ab6a-ab6b
      fbc3-fdff fe45-fe46 10101 10140-1018c 10190-101a0 1091f 10b39-10b3f 10d6e 10ed0-10ed8
      11052-11065 11660-1166c 11fd5-11fdc 11fe1-11ff1 16fe2 1cc00-1cef0 1d1e9-1d241 1d245
      1d300-1d356 1eef0-1f12f 1f16d-1f16f 1f1ad 1f260-1fbfa"),
    (.space, Range.table
      "9-d 1c-20")]

namespace Direction

/-- The class of a character that a name may hold. -/
def of (c : Char) : Direction :=
  if isIn nonspacing c then if isIn steadyMarks c then leftToRight else mark
  else ((directions.find? fun entry => isIn entry.2 c).map Prod.fst).getD leftToRight

/-- Whether a class makes text run from right to left. -/
def turns : Direction → Bool
  | rightToLeft | arabicLetter | arabicNumber => true
  | _ => false

/-- Whether a class may stand anywhere in a label. -/
def isCommon : Direction → Bool
  | europeanNumber | europeanSign | europeanUnit | numberSeparator | mark | boundary | neutral =>
    true
  | _ => false

/-- Whether the classes of a label that begins from left to right go
together. -/
def fitsLeft (ds : List Direction) : Bool :=
  ds.all (fun d => d == leftToRight || d.isCommon) &&
    match ds.reverse.dropWhile (· == mark) with
    | [] => true
    | last :: _ => last == leftToRight || last == europeanNumber

/-- Whether the classes of a label that begins from right to left go
together. -/
def fitsRight (ds : List Direction) : Bool :=
  ds.all (fun d => d.turns || d.isCommon) &&
    !(ds.contains europeanNumber && ds.contains arabicNumber) &&
    match ds.reverse.dropWhile (· == mark) with
    | [] => true
    | last :: _ => last.turns || last == europeanNumber

end Direction

/-- Whether a label runs in one direction. -/
def runsOneWay (label : List Char) : Bool :=
  match label.map Direction.of with
  | [] => true
  | .leftToRight :: rest => Direction.fitsLeft (.leftToRight :: rest)
  | .rightToLeft :: rest => Direction.fitsRight (.rightToLeft :: rest)
  | .arabicLetter :: rest => Direction.fitsRight (.arabicLetter :: rest)
  | _ => false

end NetworkSlice.Domain
