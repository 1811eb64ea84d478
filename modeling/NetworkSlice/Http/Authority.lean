import NetworkSlice.Http.Certificate
import NetworkSlice.Text.Base64
import NetworkSlice.Text.Pieces

/-
Bundles of certificates.

A bundle is text with sections between a begin and an end line; what stands
outside of sections, and sections of unknown kinds, are passed over. A section
that is cut short spoils the bundle, and so does one of a known kind that is
no Base64, and one for a certificate that a client cannot trust.
-/
namespace NetworkSlice.Http.Authority

open Text

/-- The beginning of a line that opens a section. -/
def beginMark : List Char := "-----BEGIN ".toList

/-- The beginning of a line that closes a section. -/
def endMark : List Char := "-----END ".toList

/-- The end of both. -/
def lineMark : List Char := "-----".toList

/-- The kind of section that holds a certificate. -/
def certificateKind : List Char := "CERTIFICATE".toList

/-- The kinds of sections whose content has to be Base64. -/
def knownKinds : List (List Char) :=
  ["CERTIFICATE", "CERTIFICATE REQUEST", "X509 CRL", "PUBLIC KEY", "PRIVATE KEY",
    "RSA PRIVATE KEY", "EC PRIVATE KEY", "ECHCONFIG"].map String.toList

/-- The lines of a text. -/
def lines (cs : List Char) : List (List Char) := pieces (fun c => c == '\n' || c == '\r') cs

/-- What a line may open. -/
inductive Opening where
  | none
  /-- A begin line without its end. -/
  | spoiled
  | opened (kind : List Char)
deriving DecidableEq, Repr

/-- What a line opens. It ends in as many hyphens as it begins with, and blanks
may stand between them and after them. -/
def openingOf (line : List Char) : Opening :=
  if beginMark.isPrefixOf line then
    let ending := (line.reverse.takeWhile fun c => c == '-' || c == ' ').reverse
    let before := line.take (line.length - ending.length) ++ ending.takeWhile (· == ' ')
    if ending.count '-' = lineMark.length then .opened (before.drop beginMark.length)
    else .spoiled
  else .none

/-- Whether a line closes a section of the kind. -/
def closes (kind line : List Char) : Bool := (endMark ++ kind ++ lineMark).isPrefixOf line

/-- Whether a section can be used. -/
def isUsableSection (kind base64 : List Char) : Bool :=
  if knownKinds.contains kind then
    (Base64.decodeSection base64).any fun bytes =>
      kind != certificateKind || Certificate.isTrusted bytes
  else true

/-- Whether no section of the lines is spoiled. `inside` is the kind of the
section the lines begin in, with its Base64 so far; a begin line inside of a
section only changes its kind. -/
def sound (inside : Option (List Char × List Char)) : List (List Char) → Bool
  | [] => inside.isNone
  | line :: rest =>
    match openingOf line, inside with
    | .spoiled, _ => false
    | .opened kind, none => sound (some (kind, [])) rest
    | .opened kind, some (_, base64) => sound (some (kind, base64)) rest
    | .none, none => sound none rest
    | .none, some (kind, base64) =>
      if closes kind line then isUsableSection kind base64 && sound none rest
      else sound (some (kind, base64 ++ line)) rest

/-- The bytes as characters, one each. -/
def charsOf (bytes : List UInt8) : List Char := bytes.map fun b => Char.ofNat b.toNat

/-- Whether a client can trust a bundle. -/
def isUsable (bundle : List UInt8) : Bool := sound none (lines (charsOf bundle))

end NetworkSlice.Http.Authority
