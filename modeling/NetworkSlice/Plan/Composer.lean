import NetworkSlice.Plan.Basic
import NetworkSlice.Settings.Basic

/-
Composing a plan from a slice.

Every participant gets a segment; on a slice of several clusters, planned in
full, also an edge device, which lists the participants across its links, and
an overlay over its own nodes. `plan` checks the slice and works out links
and addresses; `compose` turns them into objects and checks nothing that it
does not use.
-/
namespace NetworkSlice

/-- What composition depends on besides the slice. -/
structure Composer where
  defaults : Defaults
  emptyLinks : EmptyLinks
deriving DecidableEq, Repr

namespace Composer

/-- The composer of some settings. -/
def ofSettings (s : Settings) : Composer := ⟨s.defaults, s.emptyLinks⟩

/-- The provider of a slice: what it asks for, and the default for each part
that is blank. -/
def provider (c : Composer) (s : Slice) : ProviderEndpoint :=
  let asked := s.provider.getD ⟨"", "", ProviderPorts.none⟩
  { name := Text.orElse asked.name c.defaults.providerName
    domain := Text.orElse asked.domain c.defaults.providerDomain
    ofPort := Text.orElse (asked.ports.ofPort.getD "") c.defaults.ofPort
    sdnPort := Text.orElse (asked.ports.sdnPort.getD "") c.defaults.sdnPort
    dnsPort := Text.orElse (asked.ports.dnsPort.getD "") c.defaults.dnsPort
    dnsGrpcPort := Text.orElse (asked.ports.dnsGrpcPort.getD "") c.defaults.dnsGrpcPort }

/-- The addresses of the participant at `index`: its part where the block is
divided, and else the whole block. -/
def addresses (s : Slice) (assignment : Option Assignment) (index : Nat) (p : Participant) :
    Except SliceError (Option Cidr) :=
  match assignment with
  | some a =>
    match a.get? index with
    | some block => .ok (some block)
    | none => .error (.composition s!"no sub-block assigned to participant {p.name}")
  | none => s.block

/-- The segment of the participant at `index`. -/
def segment (c : Composer) (s : Slice) (assignment : Option Assignment) (index : Nat)
    (p : Participant) : Except SliceError Segment := do
  let addresses ← addresses s assignment index p
  return {
    metadata := ObjectMeta.forSlice s.name s.name
    spec := {
      networkType := s.networkType.getD c.defaults.networkType
      addresses := addresses
      podRange := p.podRange
      provider := (c.provider s).controllerRef } }

/-- The last participant of a name. -/
def lastNamed? (s : Slice) (name : String) : Option Participant :=
  s.participants.reverse.find? fun p => p.name = name

/-- The participant at the other end of a link as a neighbor. -/
def neighbor (s : Slice) (name : String) : Except SliceError Neighbor :=
  match lastNamed? s name with
  | some p => .ok ⟨p.name, p.gateway.address⟩
  | none => .error (LinkError.unknownEnd name).toSliceError

/-- The neighbors of the named ends, in turn. -/
def neighborsOf (s : Slice) : List String → Except SliceError (List Neighbor)
  | [] => .ok []
  | name :: rest => do
    let n ← neighbor s name
    let more ← neighborsOf s rest
    return n :: more

/-- The participants that links join to `name`, in the order of the links. -/
def neighbors (s : Slice) (links : List Link) (name : String) :
    Except SliceError (List Neighbor) :=
  neighborsOf s (links.filterMap fun l => l.otherEnd? name)

/-- The edge device of a participant. -/
def edgeDevice (c : Composer) (s : Slice) (neighbors : List Neighbor) (p : Participant) :
    EdgeDevice where
  metadata := ObjectMeta.forSlice (s.name ++ "-ned") s.name
  spec := {
    provider := c.provider s
    node := ⟨p.gateway.name, p.gateway.address⟩
    neighbors := neighbors
    switch := SwitchTemplate.edgeSwitch c.defaults.edgeSwitchImage }

/-- The nodes of a participant's overlay. -/
def overlayNodes (p : Participant) : List String :=
  if p.nodes.isEmpty then [p.gateway.name] else p.nodes

/-- The overlay of a participant. -/
def overlay (c : Composer) (s : Slice) (p : Participant) : Except SliceError Overlay := do
  let nodes := overlayNodes p
  let links ← (Topology.resolve nodes p.overlayLinks c.emptyLinks).mapError fun e =>
    .composition s!"overlay of {p.name}: {e.message}"
  return {
    metadata := ObjectMeta.forSlice (s.name ++ "-overlay") s.name
    spec := {
      controller := (c.provider s).controllerRef
      topology := ⟨nodes, links⟩
      switch := SwitchTemplate.overlaySwitch c.defaults.overlaySwitchImage } }

/-- Whether the participants of a slice are joined in a scope. -/
def joins (s : Slice) (scope : Scope) : Bool := scope = .slice && s.isMultiCluster

/-- The objects of the participant at `index`. -/
def participantPlan (c : Composer) (s : Slice) (links : List Link)
    (assignment : Option Assignment) (scope : Scope) (index : Nat) (p : Participant) :
    Except SliceError ParticipantPlan := do
  let segment ← c.segment s assignment index p
  if joins s scope then
    let neighbors ← neighbors s links p.name
    let overlay ← c.overlay s p
    return ⟨p.name,
      [.segment segment, .edgeDevice (c.edgeDevice s neighbors p), .overlay overlay]⟩
  else
    return ⟨p.name, [.segment segment]⟩

/-- The objects of participants, of which the first is at `index`. -/
def composeFrom (c : Composer) (s : Slice) (links : List Link) (assignment : Option Assignment)
    (scope : Scope) (index : Nat) :
    List Participant → Except SliceError (List ParticipantPlan)
  | [] => .ok []
  | p :: rest => do
    let plan ← c.participantPlan s links assignment scope index p
    let more ← c.composeFrom s links assignment scope (index + 1) rest
    return plan :: more

/-- The objects of all participants. -/
def compose (c : Composer) (s : Slice) (links : List Link) (assignment : Option Assignment)
    (scope : Scope) : Except SliceError (List ParticipantPlan) :=
  c.composeFrom s links assignment scope 0 s.participants

/-- Links that are given are checked even where they play no part. -/
def checkGiven (s : Slice) : Except SliceError Unit :=
  match s.links with
  | none => .ok ()
  | some links => Topology.check s.names links

/-- The parts of the block, if it is to be divided. -/
def assign (s : Slice) : Except SliceError (Option Assignment) := do
  match ← s.block with
  | some block =>
    if s.partition then
      return some (← Assignment.compute block s.participants.length)
    else return none
  | none => return none

/-- The links between the participants; none where they are not joined. -/
def links (c : Composer) (s : Slice) (scope : Scope) : Except SliceError (List Link) :=
  if joins s scope then Topology.resolve s.names s.links c.emptyLinks else .ok []

/-- The plan of a slice. -/
def plan (c : Composer) (s : Slice) (scope : Scope) : Except SliceError Plan := do
  s.validate
  checkGiven s
  let assignment ← assign s
  let links ← c.links s scope
  let participants ← c.compose s links assignment scope
  return ⟨s.name, links, assignment, participants⟩

end Composer

end NetworkSlice
