import NetworkSlice.Text.Pieces

/-
Labels of any letters in the letters of ASCII.

The ASCII characters of a label come first, as they are, and a hyphen after
them if there are any. Then the other characters are given in ascending order,
each by how far the insertion is from the one before, counted through all
places and code points between. Such a distance is a number in base 36 whose
digits need no end mark: a digit below the threshold of its place is the last
one. The thresholds move with the distances.
-/
namespace NetworkSlice.Domain.Punycode

/-- The number of digits. -/
def base : Nat := 36

/-- The first code point that is not ASCII. -/
def firstCode : Nat := 0x80

/-- The bias of the first distance. -/
def firstBias : Nat := 72

/-- What a distance has to stay below. -/
def distanceBound : Nat := UInt32.size

/-- The digit of a number below the base. -/
def digit (n : Nat) : Char :=
  if n < 26 then Char.ofNat ('a'.toNat + n) else Char.ofNat ('0'.toNat + (n - 26))

/-- The number of a digit. -/
def value? (c : Char) : Option Nat :=
  if 'a' ≤ c ∧ c ≤ 'z' then some (c.toNat - 'a'.toNat)
  else if 'A' ≤ c ∧ c ≤ 'Z' then some (c.toNat - 'A'.toNat)
  else if '0' ≤ c ∧ c ≤ '9' then some (c.toNat - '0'.toNat + 26)
  else none

/-- The threshold of the digit at a place; places go up by the base. -/
def threshold (place bias : Nat) : Nat := max 1 (min 26 (place - bias))

theorem threshold_pos (place bias : Nat) : 0 < threshold place bias := by
  unfold threshold
  omega

/-- How often a distance is divided until it is small, times the base, and
what is left of it. -/
def scaled (distance steps : Nat) : Nat × Nat :=
  if 455 < distance then scaled (distance / 35) (steps + base) else (steps, distance)
termination_by distance
decreasing_by exact Nat.div_lt_self (by omega) (by omega)

/-- The bias after a distance; `count` characters have been placed with it. -/
def adapted (distance count : Nat) (isFirst : Bool) : Nat :=
  let halved := if isFirst then distance / 700 else distance / 2
  let (steps, rest) := scaled (halved + halved / count) 0
  steps + base * rest / (rest + 38)

-- ==================================================== writing

/-- The digits of a distance from a place on. -/
def digits (bias place distance : Nat) : List Char :=
  let t := threshold place bias
  if distance < t then [digit distance]
  else
    digit (t + (distance - t) % (base - t)) ::
      digits bias (place + base) ((distance - t) / (base - t))
termination_by distance
decreasing_by
  have := threshold_pos place bias
  have := Nat.div_le_self (distance - threshold place bias) (base - threshold place bias)
  omega

/-- What has been written, and where the next character is looked for. -/
structure Progress where
  /-- The digits, last one first. -/
  written : List Char
  distance : Nat
  bias : Nat
  /-- How many characters have been placed. -/
  placed : Nat

/-- Pass one character of the label on the way to those of one code point. -/
def Progress.pass (code basics : Nat) (p : Progress) (c : Char) : Progress :=
  if c.toNat < code then { p with distance := p.distance + 1 }
  else if c.toNat = code then
    { written := (digits p.bias base p.distance).reverse ++ p.written
      distance := 0
      bias := adapted p.distance (p.placed + 1) (p.placed == basics)
      placed := p.placed + 1 }
  else p

/-- Write the characters of the given code points, in ascending order. -/
def writeCodes (label : List Char) (basics : Nat) (next : Nat) (p : Progress) :
    List Nat → Progress
  | [] => p
  | code :: more =>
    let p := { p with distance := p.distance + (code - next) * (p.placed + 1) }
    let p := label.foldl (Progress.pass code basics) p
    writeCodes label basics (code + 1) { p with distance := p.distance + 1 } more

/-- The code points of a label beyond ASCII, in ascending order. -/
def codes (label : List Char) : List Nat :=
  let codes := (label.map Char.toNat).filter (firstCode ≤ ·)
  codes.mergeSort.eraseDups

/-- Write a label. -/
def encode (label : List Char) : List Char :=
  let basic := label.filter (·.toNat < firstCode)
  let p := writeCodes label basic.length firstCode ⟨[], 0, firstBias, basic.length⟩ (codes label)
  basic ++ (if basic.isEmpty then [] else ['-']) ++ p.written.reverse

-- ==================================================== reading

/-- What has been read: a label, and a part of the distance to the next
insertion. -/
structure State where
  label : List Char
  code : Nat
  /-- Where the last insertion left off. -/
  origin : Nat
  bias : Nat
  /-- The place of the next digit and what a unit of it is worth. -/
  place : Nat
  weight : Nat
  /-- The origin and the digits so far. -/
  total : Nat

/-- Before the first digit. -/
def State.start (basic : List Char) : State := ⟨basic, firstCode, 0, firstBias, base, 1, 0⟩

/-- Insert the character that the distance leads to. -/
def State.insert (s : State) : Option State :=
  let count := s.label.length + 1
  let code := s.code + s.total / count
  let index := s.total % count
  if code.isValidChar then
    some {
      label := s.label.insertIdx index (Char.ofNat code)
      code
      origin := index + 1
      bias := adapted (s.total - s.origin) count (s.origin == 0)
      place := base
      weight := 1
      total := index + 1 }
  else none

/-- Read one digit. -/
def State.read (s : State) (c : Char) : Option State := do
  let n ← value? c
  let total := s.total + n * s.weight
  if distanceBound ≤ total then none
  else
    let t := threshold s.place s.bias
    if n < t then State.insert { s with total }
    else
      let weight := s.weight * (base - t)
      if distanceBound ≤ weight then none
      else return { s with place := s.place + base, weight, total }

/-- The part before the last hyphen and the part after it. -/
def cutAtLastHyphen (cs : List Char) : List Char × List Char :=
  let after := (cs.reverse.takeWhile (· != '-')).reverse
  (cs.take (cs.length - after.length - 1), after)

/-- Read a label. -/
def decode (cs : List Char) : Option (List Char) := do
  let (basic, rest) := cutAtLastHyphen cs
  let s ← rest.foldlM State.read (State.start basic)
  if s.place = base then return s.label else none

end NetworkSlice.Domain.Punycode
