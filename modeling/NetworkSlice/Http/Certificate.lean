/-
Certificates that a client can trust.

A certificate is made of nested values, each with a tag and a length. It is a
sequence of what is certified, the algorithm and the signature. What is
certified has a version and then parts of fixed kinds; the first version, which
is not written, has no extensions. An extension that the client does not know
must not be critical, and one that it does know comes at most once.
-/
namespace NetworkSlice.Http.Certificate

-- ===================================================== values

/-- What a value has to be shorter than. -/
def lengthBound : Nat := 65535

/-- The length of an encoded value, in as few bytes as it takes, and what
follows it. -/
def readLength : List UInt8 → Option (Nat × List UInt8)
  | [] => none
  | b :: rest =>
    if b < 0x80 then some (b.toNat, rest)
    else
      match b, rest with
      | 0x81, m :: rest => if m < 0x80 then none else some (m.toNat, rest)
      | 0x82, l :: m :: rest =>
        let length := l.toNat * 256 + m.toNat
        if length < 256 ∨ lengthBound ≤ length then none else some (length, rest)
      | _, _ => none

/-- An encoded value with the given tag: its content, and what follows it. -/
def readValue (tag : UInt8) : List UInt8 → Option (List UInt8 × List UInt8)
  | [] => none
  | b :: rest =>
    if b = tag then do
      let (length, rest) ← readLength rest
      if length ≤ rest.length then return (rest.take length, rest.drop length) else none
    else none

/-- The content of an encoded value that nothing follows. -/
def onlyValue (tag : UInt8) (bytes : List UInt8) : Option (List UInt8) :=
  match readValue tag bytes with
  | some (content, []) => some content
  | _ => none

/-- The tag of a truth value. -/
def truthTag : UInt8 := 0x01

/-- The tag of a number. -/
def numberTag : UInt8 := 0x02

/-- The tag of a string of bits. -/
def bitsTag : UInt8 := 0x03

/-- The tag of a string of bytes. -/
def bytesTag : UInt8 := 0x04

/-- The tag of a registered identifier. -/
def identifierTag : UInt8 := 0x06

/-- The tag of a sequence. -/
def sequenceTag : UInt8 := 0x30

/-- The tag of a version. -/
def versionTag : UInt8 := 0xa0

/-- The tag of extensions. -/
def extensionsTag : UInt8 := 0xa3

/-- What follows so many sequences. -/
def skipSequences : Nat → List UInt8 → Option (List UInt8)
  | 0, bytes => some bytes
  | n + 1, bytes => (readValue sequenceTag bytes).bind fun value => skipSequences n value.2

-- ================================================= extensions

/-- A part of a certificate that not every one has. -/
structure Extension where
  identifier : List UInt8
  critical : Bool
  value : List UInt8

namespace Extension

/-- The extension of a sequence's content. -/
def read? (bytes : List UInt8) : Option Extension := do
  let (identifier, rest) ← readValue identifierTag bytes
  let (critical, rest) ←
    if rest.head? = some truthTag then
      match ← readValue truthTag rest with
      | ([0xff], rest) => some (true, rest)
      | ([0x00], rest) => some (false, rest)
      | _ => none
    else some (false, rest)
  return ⟨identifier, critical, ← onlyValue bytesTag rest⟩

/-- The extensions of the content of a sequence of them; each takes at least
one of the bytes. -/
def readAll? : Nat → List UInt8 → Option (List Extension)
  | _, [] => some []
  | 0, _ :: _ => none
  | fuel + 1, bytes => do
    let (content, rest) ← readValue sequenceTag bytes
    return (← read? content) :: (← readAll? fuel rest)

/-- The family of the identifiers that a client knows. -/
def family : List UInt8 := [0x55, 0x1d]

/-- What a key may be used for. -/
def keyUsage : UInt8 := 15

/-- Other names of the subject, whether it is an authority, which names it may
vouch for, where revocations are listed, and what else a key may be used
for. -/
def knownSequences : List UInt8 := [17, 19, 30, 31, 37]

/-- The identifier of an extension inside the family, if a client knows it. -/
def known? (e : Extension) : Option UInt8 :=
  match e.identifier with
  | [a, b, c] =>
    if [a, b] = family && (c == keyUsage || knownSequences.contains c) then some c else none
  | _ => none

/-- Whether a client can take the extension for what it says it is. -/
def isSound (e : Extension) : Bool :=
  match e.known? with
  | some c => c == keyUsage || (onlyValue sequenceTag e.value).isSome
  | none => !e.critical

/-- Whether no two of the identifiers are the same. -/
def areDistinct : List UInt8 → Bool
  | [] => true
  | c :: rest => !rest.contains c && areDistinct rest

end Extension

/-- Whether extensions, if there are any, can be taken for what they say. -/
def areSoundExtensions (bytes : List UInt8) : Bool :=
  bytes.isEmpty ||
    match (onlyValue extensionsTag bytes).bind (onlyValue sequenceTag) with
    | none => false
    | some content =>
      match Extension.readAll? content.length content with
      | none => false
      | some extensions =>
        extensions.all Extension.isSound &&
          Extension.areDistinct (extensions.filterMap Extension.known?)

-- =============================================== certificates

/-- The content of the version that has extensions. -/
def thirdVersion : List UInt8 := [numberTag, 1, 2]

/-- Whether what is certified is of the first version: a number, and five
sequences. -/
def isFirstVersion (certified : List UInt8) : Bool :=
  ((readValue numberTag certified).bind fun serial => skipSequences 5 serial.2) == some []

/-- Whether what is certified is of the third version and names the algorithm
that the certificate has. -/
def isThirdVersion (certified algorithm : List UInt8) : Bool :=
  let rest := do
    let (version, rest) ← readValue versionTag certified
    if version = thirdVersion then
      let (_, rest) ← readValue numberTag rest
      let (named, rest) ← readValue sequenceTag rest
      if named = algorithm then skipSequences 4 rest else none
    else none
  rest.any areSoundExtensions

/-- Whether the bytes are a certificate that a client can trust. -/
def isTrusted (bytes : List UInt8) : Bool :=
  let parts := do
    let content ← onlyValue sequenceTag bytes
    let (certified, rest) ← readValue sequenceTag content
    let (algorithm, rest) ← readValue sequenceTag rest
    match ← onlyValue bitsTag rest with
    | 0 :: _ => some (certified, algorithm)
    | _ => none
  parts.any fun (certified, algorithm) =>
    isFirstVersion certified || isThirdVersion certified algorithm

end NetworkSlice.Http.Certificate
