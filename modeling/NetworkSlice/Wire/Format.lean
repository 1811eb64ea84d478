import NetworkSlice.Wire.Error
import NetworkSlice.Address.Text

/-
Formats: how the values of a type are written in JSON and read back.

A format is a pair of functions, and the formats of compound types are built
from those of their parts. What is read is a `Doc`, so a fault in a text is
met in its place among the errors of the decoder. Three sources are told
apart, because each words or orders a few errors in its own way: a value, the
members a request keeps aside before it decodes them, and a text.
-/
namespace NetworkSlice.Wire

/-- Where a document comes from. -/
inductive Source where
  /-- A value that is there as a whole. -/
  | value
  /-- A member of a value or text, kept aside until its type was known. -/
  | buffered
  /-- A text, which is decoded while it is read. -/
  | text
deriving DecidableEq, Repr

/-- How the values of a type are written and read. -/
structure Format (α : Type) where
  encode : α → Json
  decode : Source → Doc → Except DecodeError α

/-- The error where something of another type was expected. -/
def mismatch (expected : String) : Doc → DecodeError
  | .null => .wrongType .null expected
  | .bool b => .wrongType (.bool b) expected
  | .num (.ok (.int n)) => .wrongType (.int n) expected
  | .num (.ok (.float x)) => .wrongType (.float x) expected
  | .num (.error fault) => .grammar fault
  | .str (.ok s) => .wrongType (.text s) expected
  | .str (.error fault) => .grammar fault
  | .arr .. => .wrongType .list expected
  | .obj .. => .wrongType .map expected
  | .broken stop => .grammar stop.asValue

/-- The error of a list or an object that stops short. -/
def closed : Option Ending → Except DecodeError Unit
  | none => .ok ()
  | some ending => .error (.grammar ending.stop.asValue)

namespace Format

/-- Text. -/
def text : Format String where
  encode := .str
  decode _
    | .str (.ok s) => .ok s
    | doc => .error (mismatch "a string" doc)

/-- A truth value. -/
def flag : Format Bool where
  encode := .bool
  decode _
    | .bool b => .ok b
    | doc => .error (mismatch "a boolean" doc)

/-- A natural number below `bound`, which `expected` names. -/
def decodeNat (bound : Nat) (expected : String) : Doc → Except DecodeError Nat
  | .num (.ok (.int n)) =>
    if 0 ≤ n ∧ n < bound then .ok n.toNat else .error (.wrongValue (.int n) expected)
  | doc => .error (mismatch expected doc)

/-- A number of 64 bits. -/
def u64 : Format UInt64 where
  encode n := .ofNat n.toNat
  decode _ doc := (decodeNat UInt64.size "u64" doc).map UInt64.ofNat

/-- A number of 32 bits. -/
def u32 : Format UInt32 where
  encode n := .ofNat n.toNat
  decode _ doc := (decodeNat UInt32.size "u32" doc).map UInt32.ofNat

/-- Something or `null`. -/
def option {α : Type} (f : Format α) : Format (Option α) where
  encode := Json.ofOption f.encode
  decode src
    | .null => .ok none
    | doc => (f.decode src doc).map some

/-- Decode items in turn. -/
def decodeItems {α : Type} (decode : Doc → Except DecodeError α) :
    List Doc → Except DecodeError (List α)
  | [] => .ok []
  | doc :: rest => do
    let a ← decode doc
    let more ← decodeItems decode rest
    return a :: more

/-- A list. -/
def list {α : Type} (f : Format α) : Format (List α) where
  encode as := .arr (as.map f.encode)
  decode src
    | .arr items ending => do
      let as ← decodeItems (f.decode src) items
      closed ending
      return as
    | doc => .error (mismatch "a sequence" doc)

/-- Decode the members of a table in turn. -/
def decodeEntries {α : Type} (decode : Doc → Except DecodeError α) :
    List (Except Fault String × Doc) → Except DecodeError (List (String × α))
  | [] => .ok []
  | (name, doc) :: rest => do
    let name ← name.mapError .grammar
    let a ← decode doc
    let more ← decodeEntries decode rest
    return (name, a) :: more

/-- A table; of members with one name the last one counts. -/
def table {α : Type} (f : Format α) : Format (Table α) where
  encode t := .obj (t.entries.map fun e => (e.1, f.encode e.2))
  decode src
    | .obj members ending => do
      let entries ← decodeEntries (f.decode src) members
      closed ending
      return Table.ofList entries
    | doc => .error (mismatch "a map" doc)

/-- Values of `β` written as values of `α`, of which some may be refused. -/
def refine {α β : Type} (f : Format α) (write : β → α) (read : α → Except DecodeError β) :
    Format β where
  encode b := f.encode (write b)
  decode src doc := do read (← f.decode src doc)

/-- A block, as its text. -/
def cidr : Format Cidr :=
  text.refine Cidr.text fun s => (Cidr.parse s).mapError fun e => .refused e.message

-- =================================================== variants

/-- What must stand where a variant has nothing to carry: `null`. A member
kept aside may also be an empty map. -/
def decodeUnit (src : Source) : Doc → Except DecodeError Unit
  | .null => .ok ()
  | .obj [] none =>
    if src = .buffered then .ok () else .error (.wrongType .map "unit")
  | doc => .error (mismatch "unit" doc)

/-- The variant of a name. -/
def variantOf {α : Type} (all : List α) (name : α → String) (s : String) :
    Except DecodeError α :=
  match all.find? fun a => name a == s with
  | some a => .ok a
  | none => .error (.unknownVariant s (all.map name))

/-- In a text an object names a variant only if nothing but one name and
`null` stands in it; what else is there is a fault of the grammar. -/
def decodeVariantText {α : Type} (variant : String → Except DecodeError α) :
    List (Except Fault String × Doc) → Option Ending → Except DecodeError α
  | [], none => .error (.grammar .nameExpected)
  | [], some ending =>
    if ending.stop.asValue = .endOfObject then .error (.grammar .endOfValue)
    else .error (.grammar ending.stop.asValue)
  | (name, doc) :: rest, ending => do
    let a ← variant (← name.mapError .grammar)
    decodeUnit .text doc
    match rest, ending with
    | [], none => return a
    | [], some ending =>
      if ending.afterComma then .error (.grammar .expectedValue)
      else if ending.stop.asValue = .endOfObject then .error (.grammar .endOfObject)
      else .error (.grammar .expectedValue)
    | _ :: _, _ => .error (.grammar .expectedValue)

/-- One of finitely many variants, by name: a string, or an object with the
name as its only member. -/
def variants {α : Type} (all : List α) (name : α → String) : Format α where
  encode a := .str (name a)
  decode src doc :=
    let variant := variantOf all name
    match src, doc with
    | _, .str (.ok s) => variant s
    | .text, .obj members ending => decodeVariantText variant members ending
    | .text, .str (.error fault) => .error (.grammar fault)
    | .text, .broken stop => .error (.grammar stop.asVariant)
    | .text, _ => .error (.grammar .expectedValue)
    | src, .obj [(.ok s, payload)] none => do
      let a ← variant s
      decodeUnit src payload
      return a
    | _, .obj .. => .error (.wrongValue .map "map with a single key")
    | _, doc => .error (mismatch "string or map" doc)

end Format

end NetworkSlice.Wire
