import NetworkSlice.Address.Basic
import NetworkSlice.Text.Blank
import NetworkSlice.Text.Digit

/-
The text of addresses and blocks.

Printing has one form for each address: four decimal octets, or eight hex
groups of which the longest run of two or more zeros is left out. Reading
accepts every usual spelling. Two readers share their code and differ in two
points, which `Spelling` names: in a block an octet may carry leading zeros
and `::` may stand for no group at all, in a bare address neither is allowed.

A reader takes characters from the front and gives back what it leaves.
-/
namespace NetworkSlice

-- =================================================== printing

/-- The pieces with `sep` between them. -/
def joinWith (sep : Char) : List (List Char) → List Char
  | [] => []
  | [piece] => piece
  | piece :: rest => piece ++ sep :: joinWith sep rest

/-- A number in decimal digits. -/
def decimal (n : Nat) : List Char := Nat.toDigits 10 n

/-- A number in lower-case hex digits. -/
def hex (n : Nat) : List Char := Nat.toDigits 16 n

/-- The low `count` digits of `bits` in base `2 ^ size`, the highest first. -/
def digitsOfWidth (size count bits : Nat) : List Nat :=
  (List.range count).map fun i => bits / 2 ^ (size * (count - 1 - i)) % 2 ^ size

/-- Four octets in decimal with points between them. -/
def dottedText (bits : Nat) : List Char :=
  joinWith '.' ((digitsOfWidth 8 4 bits).map decimal)

/-- How many zeros the list begins with. -/
def leadingZeros (groups : List Nat) : Nat :=
  (groups.takeWhile (· == 0)).length

/-- Start and length of the longest run of zeros, the first of equal ones. -/
def longestZeroRun (groups : List Nat) : Nat × Nat :=
  (List.range groups.length).foldl
    (fun best i =>
      let run := leadingZeros (groups.drop i)
      if best.2 < run then (i, run) else best)
    (0, 0)

/-- Hex groups with colons between them. -/
def groupsText (groups : List Nat) : List Char :=
  joinWith ':' (groups.map hex)

/-- Eight hex groups; the longest run of at least two zeros is written `::`. -/
def compressedText (bits : Nat) : List Char :=
  let groups := digitsOfWidth 16 8 bits
  let (start, run) := longestZeroRun groups
  if 1 < run then
    groupsText (groups.take start) ++ "::".toList ++ groupsText (groups.drop (start + run))
  else groupsText groups

/-- Eight hex groups, unless the address carries a 32-bit one and so ends in
its octets. -/
def colonText (bits : Nat) : List Char :=
  if bits / UInt32.size = 0xffff then "::ffff:".toList ++ dottedText bits else compressedText bits

/-- The characters of an address. -/
def Addr.chars (a : Addr) : List Char :=
  match a.family with
  | .v4 => dottedText a.bits
  | .v6 => colonText a.bits

/-- The text of an address. -/
def Addr.text (a : Addr) : String := String.ofList a.chars

/-- The characters of a block: its first address, a stroke and its length. -/
def Cidr.chars (c : Cidr) : List Char :=
  c.network.chars ++ '/' :: decimal c.len

/-- The text of a block. -/
def Cidr.text (c : Cidr) : String := String.ofList c.chars

-- ==================================================== reading

/-- How liberally an address may be spelled. -/
structure Spelling where
  /-- Octets may begin with zeros. -/
  zeroPadded : Bool
  /-- `::` may stand for no group. -/
  emptyGap : Bool

/-- The spelling inside a block. -/
def Spelling.block : Spelling := ⟨true, true⟩

/-- The spelling of an address that stands alone. -/
def Spelling.bare : Spelling := ⟨false, false⟩

/-- A number of at most `most` digits that stays below `bound`. -/
def readNumber (radix most bound : Nat) (cs : List Char) : Option (Nat × List Char) :=
  let digits := cs.takeWhile (isDigitOf radix)
  if digits.length = 0 ∨ most < digits.length then none
  else
    let value := numeral radix digits
    if value < bound then some (value, cs.dropWhile (isDigitOf radix)) else none

/-- One decimal octet. -/
def readOctet (sp : Spelling) (cs : List Char) : Option (Nat × List Char) :=
  match readNumber 10 3 256 cs with
  | some (n, rest) =>
    if !sp.zeroPadded && cs.head? == some '0' && cs.length != rest.length + 1 then none
    else some (n, rest)
  | none => none

/-- One given character. -/
def readChar (c : Char) : List Char → Option (List Char)
  | d :: rest => if d = c then some rest else none
  | [] => none

/-- Four octets, as a number of 32 bits. -/
def readDotted (sp : Spelling) (cs : List Char) : Option (Nat × List Char) := do
  let (a, cs) ← readOctet sp cs
  let (b, cs) ← readOctet sp (← readChar '.' cs)
  let (c, cs) ← readOctet sp (← readChar '.' cs)
  let (d, cs) ← readOctet sp (← readChar '.' cs)
  return (((a * 256 + b) * 256 + c) * 256 + d, cs)

/-- What was read of a list of groups. -/
structure Groups where
  groups : List Nat
  /-- Whether the last two groups were written as octets. -/
  dotted : Bool
  rest : List Char

/-- At most `room` groups with colons between them; octets may stand for the
last two. -/
def readGroups (sp : Spelling) (first : Bool) : (room : Nat) → List Char → Groups
  | 0, cs => ⟨[], false, cs⟩
  | room + 1, cs =>
    match if first then some cs else readChar ':' cs with
    | none => ⟨[], false, cs⟩
    | some start =>
      match if room = 0 then none else readDotted sp start with
      | some (quad, rest) => ⟨[quad / 0x10000, quad % 0x10000], true, rest⟩
      | none =>
        match readNumber 16 4 0x10000 start with
        | none => ⟨[], false, cs⟩
        | some (group, rest) =>
          let more := readGroups sp false room rest
          { more with groups := group :: more.groups }

/-- Eight groups, or fewer around one `::`, as a number of 128 bits. -/
def readColon (sp : Spelling) (cs : List Char) : Option (Nat × List Char) := do
  let number (groups : List Nat) : Nat := groups.foldl (fun n g => n * 0x10000 + g) 0
  let head := readGroups sp true 8 cs
  if head.groups.length = 8 then return (number head.groups, head.rest)
  if head.dotted then none
  let rest ← readChar ':' (← readChar ':' head.rest)
  let room := 8 - head.groups.length - (if sp.emptyGap then 0 else 1)
  let tail := readGroups sp true room rest
  let gap := List.replicate (8 - head.groups.length - tail.groups.length) 0
  return (number (head.groups ++ gap ++ tail.groups), tail.rest)

/-- A number as an address, if it is one. -/
def Addr.ofBits? (family : Family) (bits : Nat) : Option Addr :=
  if h : bits < 2 ^ family.width then some ⟨family, bits, h⟩ else none

/-- An address that takes up the whole text. -/
def Addr.read? (cs : List Char) : Option Addr := do
  let (family, bits, rest) ←
    (readDotted .bare cs).map (Family.v4, ·) <|> (readColon .bare cs).map (Family.v6, ·)
  if rest.isEmpty then Addr.ofBits? family bits else none

/-- The block of length `len` around an address, unless it is too long. -/
def Cidr.around? (a : Addr) (len : Nat) : Option Cidr :=
  if h : len ≤ a.family.width then some (Cidr.around a len h) else none

/-- An address, a stroke, and a length of at most `most` digits. -/
def readBlock (family : Family) (most : Nat)
    (address : List Char → Option (Nat × List Char)) (cs : List Char) :
    Option (Cidr × List Char) := do
  let (bits, cs) ← address cs
  let (len, cs) ← readNumber 10 most (family.width + 1) (← readChar '/' cs)
  let block ← Cidr.around? (← Addr.ofBits? family bits) len
  return (block, cs)

/-- A block that takes up the whole text. -/
def Cidr.read? (cs : List Char) : Option Cidr := do
  let (block, rest) ←
    readBlock .v4 2 (readDotted .block) cs <|> readBlock .v6 3 (readColon .block) cs
  if rest.isEmpty then return block else none

/-- Read a block; blanks around it do not count. -/
def Cidr.parse (s : String) : Except SliceError Cidr :=
  let text := Text.trim s
  match Cidr.read? text.toList with
  | some block => .ok block
  | none => .error (.invalidCidr s!"{text}: invalid IP address syntax")

/-- The block of a given length around an address. -/
def Cidr.ofParts (a : Addr) (len : Nat) : Except SliceError Cidr :=
  match Cidr.around? a len with
  | some block => .ok block
  | none =>
    .error (.invalidCidr
      s!"{a.text}/{len}: prefix length exceeds {a.family.width}")

end NetworkSlice
