import NetworkSlice.Address.Text
import NetworkSlice.Slice.Topology
import NetworkSlice.Text.Blank
import NetworkSlice.Text.Inspect

/-
What is asked for: a slice, the clusters that take part in it, and how each
of them is reached.

`Slice.validate` checks the structure of a slice on its own. It says nothing
about links, whose meaning depends on what is made of them.
-/
namespace NetworkSlice

/-- The kinds of network a segment may be. -/
inductive NetworkType where
  | vnet
  | extVnet
  | vlink
deriving DecidableEq, Repr, Inhabited

namespace NetworkType

/-- All kinds. -/
def all : List NetworkType := [.vnet, .extVnet, .vlink]

/-- The name of a kind. -/
def name : NetworkType → String
  | vnet => "vnet"
  | extVnet => "ext-vnet"
  | vlink => "vlink"

/-- The kind of a name. -/
def ofName (s : String) : Except SliceError NetworkType :=
  match all.find? fun t => t.name == s with
  | some t => .ok t
  | none => .error (.validation s!"unknown network type: {s}")

end NetworkType

/-- The ports of a provider, where they are given. -/
structure ProviderPorts where
  ofPort : Option String
  sdnPort : Option String
  dnsPort : Option String
  dnsGrpcPort : Option String
deriving DecidableEq, Repr

/-- No port is given. -/
def ProviderPorts.none : ProviderPorts := ⟨.none, .none, .none, .none⟩

/-- The provider a slice asks for; what is blank is left to the defaults. -/
structure Provider where
  name : String
  domain : String
  ports : ProviderPorts
deriving DecidableEq, Repr

/-- The node through which a cluster is reached. -/
structure Gateway where
  name : String
  address : String
deriving DecidableEq, Repr

/-- How to reach a cluster's object interface, and the token to show there. -/
structure Auth where
  endpoint : String
  token : String
deriving DecidableEq, Repr

/-- A cluster that takes part. -/
structure Participant where
  name : String
  auth : Option Auth
  gateway : Gateway
  /-- The nodes of the overlay inside the cluster; none means the gateway's
  alone. -/
  nodes : List String
  /-- The links between those nodes. -/
  overlayLinks : Option (List Link)
  /-- The range of the pods' addresses. -/
  podRange : Option Cidr
deriving DecidableEq, Repr

/-- A requested slice. -/
structure Slice where
  name : String
  networkType : Option NetworkType
  provider : Option Provider
  /-- The text of the address block. -/
  addressBlock : Option String
  /-- Whether each participant gets a part of the block of its own. -/
  partition : Bool
  participants : List Participant
  links : Option (List Link)
deriving DecidableEq, Repr

namespace Participant

/-- A participant with what every slice needs. -/
def named (name gatewayName gatewayAddress : String) : Participant :=
  ⟨name, none, ⟨gatewayName, gatewayAddress⟩, [], none, none⟩

end Participant

namespace Slice

/-- A slice with what every slice needs. -/
def named (name : String) (participants : List Participant) : Slice :=
  ⟨name, none, none, none, false, participants, none⟩

/-- The names of the participants, in the order of the request. -/
def names (s : Slice) : List String := s.participants.map Participant.name

/-- The first participant of a name. -/
def participant? (s : Slice) (name : String) : Option Participant :=
  s.participants.find? fun p => p.name = name

/-- Whether more than one cluster takes part. -/
def isMultiCluster (s : Slice) : Bool := 1 < s.participants.length

/-- The address block, if one is given. -/
def block (s : Slice) : Except SliceError (Option Cidr) :=
  match s.addressBlock with
  | none => .ok none
  | some text => (Cidr.parse text).map some

/-- Names must not be blank, nor repeat one of `seen`. -/
def checkNames (seen : List String) : List String → Except SliceError Unit
  | [] => .ok ()
  | name :: rest =>
    if Text.isBlankText name then .error (.validation "participant name cannot be empty")
    else if name ∈ seen then .error (.validation s!"duplicate participant: {name}")
    else checkNames (name :: seen) rest

/-- A block must have more than one address, and there must be one if it is
to be partitioned. -/
def checkBlock (partition : Bool) : Option Cidr → Except SliceError Unit
  | some block =>
    if block.width ≤ block.len then
      .error (.invalidCidr s!"{block.text}: prefix length must be below {block.width}")
    else .ok ()
  | none =>
    if partition then
      .error (.validation "address partitioning requested without an address block")
    else .ok ()

/-- Check the structure of the slice, first fault first. -/
def validate (s : Slice) : Except SliceError Unit := do
  if Text.isBlankText s.name then
    throw (.validation "slice name cannot be empty")
  if s.participants.isEmpty then
    throw (.validation "slice requires at least one participant")
  checkNames [] s.names
  checkBlock s.partition (← s.block)

end Slice

/-- A slice that is asked for in a namespace. -/
structure Request where
  /-- Blank for the default. -/
  namespaceName : String
  slice : Slice
deriving DecidableEq, Repr

-- ================================================= inspection

/-- What an inspection shows of the auth: not the token. -/
def Auth.inspect (a : Auth) : Text.Shape :=
  .record "ClusterAuth" [("endpoint", .quote a.endpoint), ("bearer_token", .quote Text.redacted)]

/-- What an inspection shows of a link. -/
def Link.inspect (l : Link) : Text.Shape :=
  .record "TopologyLink" [("endpoint_a", .quote l.endpointA), ("endpoint_b", .quote l.endpointB)]

/-- What an inspection shows of a participant. -/
def Participant.inspect (p : Participant) : Text.Shape :=
  .record "ClusterParticipant" [
    ("name", .quote p.name),
    ("auth", .optional Auth.inspect p.auth),
    ("gateway_node", .record "GatewayNode" [
      ("name", .quote p.gateway.name), ("address", .quote p.gateway.address)]),
    ("nodes", .items (p.nodes.map .quote)),
    ("overlay_links", .optional (fun links => .items (links.map Link.inspect)) p.overlayLinks),
    ("pod_cidr", .optional (fun c => .wrapped "Cidr" (.word c.text)) p.podRange)]

end NetworkSlice
