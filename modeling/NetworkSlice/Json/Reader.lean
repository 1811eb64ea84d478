import NetworkSlice.Json.Document

/-
Reading JSON text.

The grammar is the standard one: four kinds of blank, no comments, no comma
before a closing bracket, no leading zeros. A reader takes characters from
the front and gives back what it leaves, or nothing where it had to stop;
`readString` and `readNumeral` leave less than they were given, and the tree
itself is read with a bound on the steps that the length of the text makes
large enough.
-/
namespace NetworkSlice.Json

/-- The text after its leading blanks. -/
def skipBlanks (cs : List Char) : List Char :=
  cs.dropWhile fun c => c == ' ' || c == '\n' || c == '\t' || c == '\r'

-- ==================================================== numbers

/-- The parts of a number as it is written. -/
structure Numeral where
  negative : Bool
  whole : List Char
  fraction : Option (List Char)
  /-- The sign and the digits of the power of ten. -/
  power : Option (Bool × List Char)

namespace Numeral

/-- The number that digits spell. -/
def natOf (digits : List Char) : Nat :=
  digits.foldl (fun n c => n * 10 + (c.toNat - '0'.toNat)) 0

/-- Extend a number by digits while it stays below 2^64, and count the digits
that are left. -/
def extend (n : Nat) : List Char → Nat × Nat
  | [] => (n, 0)
  | d :: rest =>
    let next := n * 10 + (d.toNat - '0'.toNat)
    if next < UInt64.size then extend next rest else (n, rest.length + 1)

/-- The power of ten. -/
def powerValue (n : Numeral) : Int :=
  match n.power with
  | none => 0
  | some (negative, digits) => if negative then -(natOf digits : Int) else natOf digits

/-- The double the numeral stands for: of its digits as many count as fit into
64 bits, those after the point only while they do. -/
def double? (n : Numeral) : Option Double :=
  let fraction := n.fraction.getD []
  let (kept, left) := extend 0 n.whole
  let (significand, dropped) := extend kept fraction
  Double.ofScaled n.negative significand (n.powerValue + left - (fraction.length - dropped : Nat))

/-- The number of a numeral. Whole numbers that a word of 64 bits holds are
exact, zero with a minus sign apart. -/
def value (n : Numeral) : Except Fault Number :=
  let whole := natOf n.whole
  let exact :=
    if n.fraction.isSome || n.power.isSome then none
    else if n.negative then
      if 0 < whole ∧ whole ≤ UInt64.size / 2 then some (-(whole : Int)) else none
    else if whole < UInt64.size then some (whole : Int)
    else none
  match exact with
  | some i => .ok (.int i)
  | none =>
    match n.double? with
    | some x => .ok (.float x)
    | none => .error .numberOutOfRange

end Numeral

/-- What is wrong where digits are missing: a reader that wants the number
tells the end of the text from a wrong character. -/
def missingDigits (cs : List Char) : Break :=
  .nameless (if cs.isEmpty then .endOfValue else .invalidNumber) .invalidNumber

/-- At least one digit. -/
def readDigits (cs : List Char) : Except Break (List Char × List Char) :=
  match cs.takeWhile Char.isDigit with
  | [] => .error (missingDigits cs)
  | d :: digits => .ok (d :: digits, cs.dropWhile Char.isDigit)

/-- The digits before the point: a zero, or digits that do not begin with
one. -/
def readWhole : List Char → Except Break (List Char × List Char)
  | '0' :: rest =>
    match rest with
    | c :: _ => if c.isDigit then .error (.nameless .invalidNumber .invalidNumber) else .ok (['0'], rest)
    | [] => .ok (['0'], rest)
  | cs => readDigits cs

/-- The point and the digits after it, if there is a point. -/
def readFraction : List Char → Except Break (Option (List Char) × List Char)
  | '.' :: rest => do
    let (digits, rest) ← readDigits rest
    return (some digits, rest)
  | cs => return (none, cs)

/-- The power of ten, if there is one. -/
def readPower : List Char → Except Break (Option (Bool × List Char) × List Char)
  | c :: rest =>
    if c = 'e' ∨ c = 'E' then do
      let (negative, rest) := match rest with
        | '-' :: rest => (true, rest)
        | '+' :: rest => (false, rest)
        | rest => (false, rest)
      let (digits, rest) ← readDigits rest
      return (some (negative, digits), rest)
    else return (none, c :: rest)
  | [] => return (none, [])

/-- A number after its sign. -/
def readNumeral (negative : Bool) (cs : List Char) : Except Break (Numeral × List Char) := do
  let (whole, cs) ← readWhole cs
  let (fraction, cs) ← readFraction cs
  let (power, cs) ← readPower cs
  return (⟨negative, whole, fraction, power⟩, cs)

-- ==================================================== strings

/-- The value of a hex digit. -/
def hexValue? (c : Char) : Option Nat :=
  if '0' ≤ c ∧ c ≤ '9' then some (c.toNat - '0'.toNat)
  else if 'a' ≤ c ∧ c ≤ 'f' then some (c.toNat - 'a'.toNat + 10)
  else if 'A' ≤ c ∧ c ≤ 'F' then some (c.toNat - 'A'.toNat + 10)
  else none

/-- Four hex digits. The text has ended too soon if fewer than four bytes are
left. -/
def readUnit (cs : List Char) : Except Fault (Nat × { r : List Char // r.length < cs.length }) :=
  match cs with
  | a :: b :: c :: d :: rest =>
    match hexValue? a, hexValue? b, hexValue? c, hexValue? d with
    | some a, some b, some c, some d =>
      .ok (((a * 16 + b) * 16 + c) * 16 + d, ⟨rest, by simp; omega⟩)
    | _, _, _, _ => .error .invalidEscape
  | short =>
    if (String.ofList short).utf8ByteSize < 4 then .error .endOfString else .error .invalidEscape

/-- The character of an escape of two characters. -/
def escaped? (c : Char) : Option Char :=
  if c = '"' ∨ c = '\\' ∨ c = '/' then some c
  else if c = 'b' then some '\x08'
  else if c = 'f' then some '\x0c'
  else if c = 'n' then some '\n'
  else if c = 'r' then some '\r'
  else if c = 't' then some '\t'
  else none

/-- The first half of a pair of code units. -/
def isLeading (unit : Nat) : Bool := 0xD800 ≤ unit && unit < 0xDC00

/-- The second half of a pair. -/
def isTrailing (unit : Nat) : Bool := 0xDC00 ≤ unit && unit < 0xE000

/-- What follows the first half of a pair. -/
inductive Partner (cs : List Char) where
  /-- The second half. -/
  | trailing (unit : Nat) (rest : { r : List Char // r.length < cs.length })
  /-- Something else; a reader that only skips goes on from there. -/
  | missing (fault : Fault) (rest : { r : List Char // r.length ≤ cs.length })
  /-- Nothing that can be read. -/
  | stop (fault : Fault)

/-- Look for the second half of a pair. -/
def readPartner (cs : List Char) : Partner cs :=
  match cs with
  | '\\' :: 'u' :: rest =>
    match readUnit rest with
    | .error fault => .stop fault
    | .ok (unit, after) =>
      have h : after.val.length < rest.length + 1 + 1 := by have := after.property; omega
      if isTrailing unit then .trailing unit ⟨after.val, h⟩
      else .missing .loneSurrogate ⟨after.val, Nat.le_of_lt h⟩
  | ['\\'] => .stop .endOfString
  | [] => .stop .endOfString
  | cs => .missing .endOfEscape ⟨cs, Nat.le_refl _⟩

/-- The character of a pair of code units. -/
def pairChar (leading trailing : Nat) : Char :=
  Char.ofNat (0x10000 + (leading - 0xD800) * 0x400 + (trailing - 0xDC00))

/-- A string after its first quote: its text, or why it has none although it
is well formed, and what follows it. `bad` is the first such reason and `acc`
the text so far, last character first. -/
def readString (bad : Option Fault) (acc : List Char) (cs : List Char) :
    Except Break (Except Fault String × List Char) :=
  let stop (fault : Fault) : Break := ⟨bad.getD fault, fault, bad.getD fault⟩
  match cs with
  | [] => .error (stop .endOfString)
  | c :: rest =>
    if c = '"' then
      .ok (match bad with
        | none => .ok (String.ofList acc.reverse)
        | some fault => .error fault, rest)
    else if c = '\\' then
      match rest with
      | [] => .error (stop .endOfString)
      | e :: rest =>
        if e = 'u' then
          match readUnit rest with
          | .error fault => .error (stop fault)
          | .ok (unit, after) =>
            have := after.property
            if isTrailing unit then
              readString (bad <|> some .loneSurrogate) acc after.val
            else if isLeading unit then
              match readPartner after.val with
              | .trailing second more =>
                have := more.property
                readString bad (pairChar unit second :: acc) more.val
              | .missing fault more =>
                have := more.property
                readString (bad <|> some fault) acc more.val
              | .stop fault => .error (stop fault)
            else readString bad (Char.ofNat unit :: acc) after.val
        else
          match escaped? e with
          | some c => readString bad (c :: acc) rest
          | none => .error (stop .invalidEscape)
    else if c.toNat < 0x20 then .error (stop .controlCharacter)
    else readString bad (c :: acc) rest
termination_by cs.length

-- ===================================================== values

/-- What was read, and what follows it if the text can be read further. -/
structure Scan (α : Type) where
  result : α
  rest : Option (List Char)

/-- A word whose first character has been read; `stop` says what becomes of a
fault in it. -/
def readWord (stop : Fault → Break) (tail : List Char) (doc : Doc) (cs : List Char) : Scan Doc :=
  match tail with
  | [] => ⟨doc, some cs⟩
  | t :: tail =>
    match cs with
    | [] => ⟨.broken (stop .endOfValue), none⟩
    | c :: rest =>
      if c = t then readWord stop tail doc rest else ⟨.broken (stop .expectedWord), none⟩

/-- The truth value whose first character has been read. -/
def readTruth (value : Bool) (cs : List Char) : Scan Doc :=
  readWord (fun fault => .nameless fault fault)
    (if value then ['r', 'u', 'e'] else ['a', 'l', 's', 'e']) (.bool value) cs

/-- A number after its sign, as a document. -/
def readNumber (negative : Bool) (cs : List Char) : Scan Doc :=
  match readNumeral negative cs with
  | .ok (numeral, rest) => ⟨.num numeral.value, some rest⟩
  | .error b => ⟨.broken b, none⟩

/-- A list that stops short before its first or next item. -/
def listStop (fault : Fault) (afterComma : Bool) : Scan (List Doc × Option Ending) :=
  ⟨([], some ⟨.plain fault, afterComma⟩), none⟩

/-- An object that stops short before its first or next member. -/
def objectStop (b : Break) (afterComma : Bool) :
    Scan (List (Except Fault String × Doc) × Option Ending) :=
  ⟨([], some ⟨b, afterComma⟩), none⟩

mutual

/-- A value, in at most `fuel` steps. -/
def readValue (fuel : Nat) (cs : List Char) : Scan Doc :=
  match fuel with
  | 0 => ⟨.broken (.plain .endOfValue), none⟩
  | fuel + 1 =>
    match skipBlanks cs with
    | [] => ⟨.broken (.plain .endOfValue), none⟩
    | c :: rest =>
      if c = 'n' then readWord .plain ['u', 'l', 'l'] .null rest
      else if c = 't' then readTruth true rest
      else if c = 'f' then readTruth false rest
      else if c = '-' then readNumber true rest
      else if c.isDigit then readNumber false (c :: rest)
      else if c = '"' then
        match readString none [] rest with
        | .ok (s, rest) => ⟨.str s, some rest⟩
        | .error b => ⟨.broken b, none⟩
      else if c = '[' then
        let items := readItems fuel true rest
        ⟨.arr items.result.1 items.result.2, items.rest⟩
      else if c = '\x7b' then
        let members := readMembers fuel true rest
        ⟨.obj members.result.1 members.result.2, members.rest⟩
      else ⟨.broken (.plain .expectedValue), none⟩

/-- The items of a list that follow, and how it ends. -/
def readItems (fuel : Nat) (first : Bool) (cs : List Char) :
    Scan (List Doc × Option Ending) :=
  match fuel with
  | 0 => listStop .endOfList false
  | fuel + 1 =>
    match skipBlanks cs with
    | [] => listStop .endOfList false
    | c :: rest =>
      if c = ']' then ⟨([], none), some rest⟩
      else if first then readItem fuel (c :: rest)
      else if c = ',' then
        match skipBlanks rest with
        | [] => listStop .endOfValue true
        | c :: rest => if c = ']' then listStop .trailingComma true else readItem fuel (c :: rest)
      else listStop .expectedCommaOrBracket false

/-- An item and those that follow. -/
def readItem (fuel : Nat) (cs : List Char) : Scan (List Doc × Option Ending) :=
  match fuel with
  | 0 => listStop .endOfList false
  | fuel + 1 =>
    let item := readValue fuel cs
    match item.rest with
    | none => ⟨([item.result], none), none⟩
    | some rest =>
      let more := readItems fuel false rest
      ⟨(item.result :: more.result.1, more.result.2), more.rest⟩

/-- The members of an object that follow, and how it ends. -/
def readMembers (fuel : Nat) (first : Bool) (cs : List Char) :
    Scan (List (Except Fault String × Doc) × Option Ending) :=
  match fuel with
  | 0 => objectStop (.plain .endOfObject) false
  | fuel + 1 =>
    match skipBlanks cs with
    | [] => objectStop (.plain .endOfObject) false
    | c :: rest =>
      if c = '\x7d' then ⟨([], none), some rest⟩
      else if first then readMember fuel false (c :: rest)
      else if c = ',' then
        match skipBlanks rest with
        | [] => objectStop (.plain .endOfValue) true
        | c :: rest =>
          if c = '\x7d' then objectStop (.plain .trailingComma) true
          else readMember fuel true (c :: rest)
      else objectStop (.plain .expectedCommaOrBrace) false

/-- A member and those that follow. -/
def readMember (fuel : Nat) (afterComma : Bool) (cs : List Char) :
    Scan (List (Except Fault String × Doc) × Option Ending) :=
  match fuel, cs with
  | fuel + 1, c :: rest =>
    if c = '"' then
      match readString none [] rest with
      | .error b => objectStop b afterComma
      | .ok (name, rest) =>
        match skipBlanks rest with
        | [] => ⟨([(name, .broken (.plain .endOfObject))], none), none⟩
        | c :: rest =>
          if c = ':' then
            let value := readValue fuel rest
            match value.rest with
            | none => ⟨([(name, value.result)], none), none⟩
            | some rest =>
              let more := readMembers fuel false rest
              ⟨((name, value.result) :: more.result.1, more.result.2), more.rest⟩
          else ⟨([(name, .broken (.plain .expectedColon))], none), none⟩
    else objectStop (.plain .nameExpected) afterComma
  | _, _ => objectStop (.plain .endOfObject) false

end

/-- A whole text: its value, and what is wrong after it. -/
structure Text where
  doc : Doc
  after : Option Fault

/-- Read a text. -/
def Text.read (s : String) : Text :=
  let cs := s.toList
  let scan := readValue (3 * cs.length + 3) cs
  { doc := scan.result
    after := match scan.rest with
      | none => none
      | some rest => if (skipBlanks rest).isEmpty then none else some .trailingCharacters }

/-- The value of a text. -/
def parse (s : String) : Except Fault Json := do
  let text := Text.read s
  let value ← text.doc.settle Doc.depthLimit
  match text.after with
  | none => return value
  | some fault => .error fault

end NetworkSlice.Json
