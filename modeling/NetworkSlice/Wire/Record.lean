import NetworkSlice.Wire.Format

/-
Records: formats with named members.

A record is read from an object or from a list. In an object the members are
met in the order they stand, and the first thing wrong with one is the error:
a fault, a name met before, a value of the wrong form. A missing member is
looked for only when all that is there was good, in the order of the
declaration. In a list the items are the members in that order.

To read an object each member is decoded once, at its first place, into a
`Slot`; the walk along the members and the collection of the result both
consult the slots.
-/
namespace NetworkSlice.Wire

/-- A named member of a record. -/
structure Member (α : Type) where
  name : String
  format : Format α
  /-- What a member counts as that is not there. -/
  default : Option α
  /-- Whether a value is left out when it is written. -/
  omits : α → Bool

namespace Member

/-- A member that must be there. -/
def required {α : Type} (name : String) (f : Format α) : Member α :=
  ⟨name, f, none, fun _ => false⟩

/-- A member that is always written and may be missing. -/
def defaulted {α : Type} (name : String) (f : Format α) (default : α) : Member α :=
  ⟨name, f, some default, fun _ => false⟩

/-- A member that may be missing, and is not written when there is none. -/
def optional {α : Type} (name : String) (f : Format α) : Member (Option α) :=
  ⟨name, f.option, some none, Option.isNone⟩

/-- A list that may be missing, and is not written when it is empty. -/
def listed {α : Type} (name : String) (f : Format α) : Member (List α) :=
  ⟨name, f.list, some [], List.isEmpty⟩

end Member

/-- The members of a record, in the order of the declaration. -/
inductive Fields : Type → Type 1 where
  | nil : Fields Unit
  | cons {α β : Type} (member : Member α) (rest : Fields β) : Fields (α × β)

/-- A member of a record together with what an object has for it. -/
inductive Slots : Type → Type 1 where
  | nil : Slots Unit
  | cons {α β : Type} (member : Member α) (slot : Option (Except DecodeError α))
      (rest : Slots β) : Slots (α × β)

namespace Fields

/-- The names of the members. -/
def names : {φ : Type} → Fields φ → List String
  | _, nil => []
  | _, cons member rest => member.name :: rest.names

/-- The members of the object that is written. -/
def encode : {φ : Type} → Fields φ → φ → List (String × Json)
  | _, nil, () => []
  | _, cons member rest, (a, b) =>
    if member.omits a then rest.encode b
    else (member.name, member.format.encode a) :: rest.encode b

/-- The first value of a name. -/
def find? (name : String) : List (Except Fault String × Doc) → Option Doc
  | [] => none
  | (.ok n, doc) :: rest => if n = name then some doc else find? name rest
  | (.error _, _) :: rest => find? name rest

/-- Decode what an object has for each member. -/
def fill (src : Source) (members : List (Except Fault String × Doc)) :
    {φ : Type} → Fields φ → Slots φ
  | _, nil => .nil
  | _, cons member rest =>
    .cons member ((find? member.name members).map (member.format.decode src))
      (rest.fill src members)

end Fields

namespace Slots

/-- What the slot of a name holds: nothing if there is no such member, and
else its error, if it has one. -/
def outcome? (name : String) : {φ : Type} → Slots φ → Option (Except DecodeError Unit)
  | _, nil => none
  | _, cons member slot rest =>
    if member.name = name then
      some (match slot with
        | some (.error e) => .error e
        | _ => .ok ())
    else rest.outcome? name

/-- The values, with defaults for those that are missing. -/
def collect : {φ : Type} → Slots φ → Except DecodeError φ
  | _, nil => .ok ()
  | _, cons member slot rest => do
    let a ← match slot with
      | some result => result
      | none =>
        match member.default with
        | some a => .ok a
        | none => .error (.missingMember member.name)
    let b ← rest.collect
    return (a, b)

/-- The first thing wrong along the members of an object. `strict` names the
members of a record that admits no others. -/
def walk {φ : Type} (slots : Slots φ) (strict : Option (List String)) (seen : List String) :
    List (Except Fault String × Doc) → Except DecodeError Unit
  | [] => .ok ()
  | (.error fault, _) :: _ => .error (.grammar fault)
  | (.ok name, doc) :: rest => do
    match slots.outcome? name with
    | some outcome =>
      if name ∈ seen then .error (.repeatedMember name)
      else
        outcome
        slots.walk strict (name :: seen) rest
    | none =>
      match strict with
      | some known => .error (.unknownMember name known)
      | none =>
        doc.skip.mapError .grammar
        slots.walk strict seen rest

end Slots

/-- A format with named members. -/
structure Record (α φ : Type) where
  /-- The name of the type in error messages. -/
  name : String
  fields : Fields φ
  /-- Whether other members are errors, and not just passed over. -/
  closed : Bool
  write : α → φ
  read : φ → Except DecodeError α

/-- A number of things. -/
def counted (n : Nat) (thing : String) : String :=
  if n = 1 then s!"1 {thing}" else s!"{n} {thing}s"

/-- What is wrong after the last item that a record takes from a list. -/
def listEnd (src : Source) (total taken : Nat) (more : List Doc) (ending : Option Ending) :
    Except DecodeError Unit :=
  match src, more, ending with
  | .text, _ :: _, _ => .error (.grammar .trailingCharacters)
  | .text, [], some ending =>
    let fault := ending.stop.asValue
    if fault = .trailingComma ∨ fault = .endOfList then .error (.grammar fault)
    else .error (.grammar .trailingCharacters)
  | _, [], none => .ok ()
  | _, [], some ending => .error (.grammar ending.stop.asValue)
  | .value, _ :: _, _ => .error (.wrongLength total "fewer elements in array")
  | .buffered, _ :: _, _ =>
    .error (.wrongLength total (counted taken "element" ++ " in sequence"))

/-- Decode the items of a list as the members; `taken` of `total` have been
decoded before. -/
def Fields.decodeItems (src : Source) (expected : String) (total taken : Nat)
    (ending : Option Ending) : {φ : Type} → Fields φ → List Doc → Except DecodeError φ
  | _, .nil, docs => listEnd src total taken docs ending
  | _, .cons member rest, doc :: docs => do
    let a ← member.format.decode src doc
    let b ← rest.decodeItems src expected total (taken + 1) ending docs
    return (a, b)
  | _, .cons member rest, [] => do
    Wire.closed ending
    let a ← match member.default with
      | some a => .ok a
      | none => .error (.wrongLength taken expected)
    let b ← rest.decodeItems src expected total (taken + 1) ending []
    return (a, b)

/-- Decode the members of an object. -/
def Fields.decodeMembers {φ : Type} (fields : Fields φ) (src : Source) (closed : Bool)
    (members : List (Except Fault String × Doc)) (ending : Option Ending) :
    Except DecodeError φ := do
  let slots := fields.fill src members
  slots.walk (if closed then some fields.names else none) [] members
  Wire.closed ending
  slots.collect

namespace Record

variable {α φ : Type}

/-- What an error message calls the record. -/
def title (r : Record α φ) : String := s!"struct {r.name}"

/-- What an error message expects of a list for the record. -/
def listTitle (r : Record α φ) : String :=
  if r.closed then r.title
  else r.title ++ " with " ++ counted r.fields.names.length "element"

/-- The format of a record. -/
def format (r : Record α φ) : Format α where
  encode a := .obj (r.fields.encode (r.write a))
  decode src
    | .obj members ending => do
      r.read (← r.fields.decodeMembers src r.closed members ending)
    | .arr items ending => do
      r.read (← r.fields.decodeItems src r.listTitle items.length 0 ending items)
    | doc => .error (mismatch r.title doc)

end Record

end NetworkSlice.Wire
