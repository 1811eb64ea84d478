import NetworkSlice.Slice.Link

/-
The link sets of a slice.

Where no links are given every two participants are linked. Given links are
used as they are, but must be a simple graph over the participants: no link
from a name to itself, no end that is not a participant, no pair twice. What
an empty list means is a matter of policy.
-/
namespace NetworkSlice

/-- What an empty list of links means. -/
inductive EmptyLinks where
  | fullMesh
  | noConnectivity
deriving DecidableEq, Repr, Inhabited

namespace Topology

/-- A link from each name to every later one. -/
def mesh : List String → List Link
  | [] => []
  | name :: rest => rest.map (Link.mk name) ++ mesh rest

/-- What is wrong with a link, where `seen` are the keys before it. -/
def offence? (names : List String) (seen : List (String × String)) (l : Link) :
    Option LinkError :=
  if l.isSelfLoop then some (.selfLoop l.endpointA)
  else if l.endpointA ∉ names then some (.unknownEnd l.endpointA)
  else if l.endpointB ∉ names then some (.unknownEnd l.endpointB)
  else if l.key ∈ seen then some (.duplicate l.endpointA l.endpointB)
  else none

/-- Check links in turn, where `seen` are the keys of those before. -/
def checkFrom (names : List String) (seen : List (String × String)) :
    List Link → Except LinkError Unit
  | [] => .ok ()
  | l :: rest =>
    match offence? names seen l with
    | some e => .error e
    | none => checkFrom names (l.key :: seen) rest

/-- Check that the links are a simple graph over the names. -/
def check (names : List String) (links : List Link) : Except SliceError Unit :=
  (checkFrom names [] links).mapError LinkError.toSliceError

/-- The links of a slice over the named participants. -/
def resolve (names : List String) (given : Option (List Link)) (policy : EmptyLinks) :
    Except SliceError (List Link) :=
  match given with
  | none => .ok (mesh names)
  | some [] =>
    match policy with
    | .fullMesh => .ok (mesh names)
    | .noConnectivity => .ok []
  | some links => do
    check names links
    return links

end Topology

end NetworkSlice
