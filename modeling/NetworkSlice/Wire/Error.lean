import NetworkSlice.Json.Document
import NetworkSlice.Decimal.Shortest
import NetworkSlice.Text.Quoted

/-
Why a document is not the form of a value, and the wording of it.

`grammar` faults belong to the text; all other errors belong to what the text
says.
-/
namespace NetworkSlice.Wire

/-- What stands in a document where something else was expected. -/
inductive Found where
  | null
  | bool (value : Bool)
  | int (value : Int)
  | float (value : Double)
  | text (value : String)
  | list
  | map
deriving DecidableEq, Repr

/-- The wording of what was found. -/
def Found.describe : Found → String
  | null => "null"
  | bool b => s!"boolean `{b}`"
  | int n => s!"integer `{n}`"
  | float x => s!"floating point `{x.text}`"
  | text s => s!"string {Text.quoted s}"
  | list => "sequence"
  | map => "map"

/-- Why a document could not be decoded. -/
inductive DecodeError where
  | grammar (fault : Fault)
  | wrongType (found : Found) (expected : String)
  | wrongValue (found : Found) (expected : String)
  | wrongLength (length : Nat) (expected : String)
  | unknownVariant (name : String) (known : List String)
  | unknownMember (name : String) (known : List String)
  | missingMember (name : String)
  | repeatedMember (name : String)
  /-- The parts are well formed and the whole is refused. -/
  | refused (reason : String)
deriving DecidableEq, Repr

/-- A name in back quotes. -/
def ticked (name : String) : String := s!"`{name}`"

/-- The names one of which was expected. -/
def oneOf : List String → String
  | [] => "nothing"
  | [a] => ticked a
  | [a, b] => s!"{ticked a} or {ticked b}"
  | names => "one of " ++ ", ".intercalate (names.map ticked)

namespace DecodeError

/-- The wording of the error. -/
def message : DecodeError → String
  | grammar fault => fault.message
  | wrongType found expected => s!"invalid type: {found.describe}, expected {expected}"
  | wrongValue found expected => s!"invalid value: {found.describe}, expected {expected}"
  | wrongLength length expected => s!"invalid length {length}, expected {expected}"
  | unknownVariant name known => s!"unknown variant {ticked name}, expected {oneOf known}"
  | unknownMember name known => s!"unknown field {ticked name}, expected {oneOf known}"
  | missingMember name => s!"missing field {ticked name}"
  | repeatedMember name => s!"duplicate field {ticked name}"
  | refused reason => reason

end DecodeError

end NetworkSlice.Wire
