import NetworkSlice.Resource.Template
import NetworkSlice.Slice.Spec
import NetworkSlice.Table

/-
The objects that make up a slice on one cluster.

A segment is the participant's part of the network; on a slice of several
clusters an edge device joins it to the others and an overlay spans the nodes
inside. A `Descriptor` is one of the three, and what a cluster is sent is its
object.
-/
namespace NetworkSlice

/-- The name and labels of an object. -/
structure ObjectMeta where
  name : String
  labels : Table String
deriving DecidableEq

/-- The label that names the slice an object belongs to. -/
def sliceLabel : String := "l2sm/slice"

/-- The metadata of an object of a slice. -/
def ObjectMeta.forSlice (name sliceName : String) : ObjectMeta :=
  ⟨name, Table.empty.insert sliceLabel sliceName⟩

/-- A provider, by name and domain. -/
structure ControllerRef where
  name : String
  domain : String
deriving DecidableEq, Repr

/-- A provider with all its ports. -/
structure ProviderEndpoint where
  name : String
  domain : String
  ofPort : String
  sdnPort : String
  dnsPort : String
  dnsGrpcPort : String
deriving DecidableEq, Repr

/-- The provider by name and domain. -/
def ProviderEndpoint.controllerRef (p : ProviderEndpoint) : ControllerRef := ⟨p.name, p.domain⟩

/-- What a segment is to be. -/
structure SegmentSpec where
  networkType : NetworkType
  /-- The addresses of the segment. -/
  addresses : Option Cidr
  podRange : Option Cidr
  provider : ControllerRef
deriving DecidableEq, Repr

/-- A participant's part of the network. -/
structure Segment where
  metadata : ObjectMeta
  spec : SegmentSpec
deriving DecidableEq

/-- The node an edge device runs on. -/
structure NodeConfig where
  nodeName : String
  address : String
deriving DecidableEq, Repr

/-- Another participant an edge device is joined to. -/
structure Neighbor where
  node : String
  /-- The address of the other participant's gateway. -/
  domain : String
deriving DecidableEq, Repr

/-- What an edge device is to be. -/
structure EdgeDeviceSpec where
  provider : ProviderEndpoint
  node : NodeConfig
  neighbors : List Neighbor
  switch : SwitchTemplate
deriving DecidableEq, Repr

/-- What joins a participant to the others. -/
structure EdgeDevice where
  metadata : ObjectMeta
  spec : EdgeDeviceSpec
deriving DecidableEq

/-- The nodes of an overlay and the links between them. -/
structure OverlayTopology where
  nodes : List String
  links : List Link
deriving DecidableEq, Repr

/-- What an overlay is to be. -/
structure OverlaySpec where
  controller : ControllerRef
  topology : OverlayTopology
  switch : SwitchTemplate
deriving DecidableEq, Repr

/-- The network between the nodes of one participant. -/
structure Overlay where
  metadata : ObjectMeta
  spec : OverlaySpec
deriving DecidableEq

/-- The kinds of object. -/
inductive ObjectKind where
  | segment
  | edgeDevice
  | overlay
deriving DecidableEq, Repr

namespace ObjectKind

/-- All kinds. -/
def all : List ObjectKind := [segment, edgeDevice, overlay]

/-- The name of the kind in this library. -/
def name : ObjectKind → String
  | segment => "NetworkSegment"
  | edgeDevice => "EdgeDevice"
  | overlay => "Overlay"

/-- The name of the kind on a cluster. -/
def objectName : ObjectKind → String
  | segment => "L2Network"
  | edgeDevice => "NetworkEdgeDevice"
  | overlay => "Overlay"

/-- The name of the kind's collection on a cluster. -/
def plural : ObjectKind → String
  | segment => "l2networks"
  | edgeDevice => "networkedgedevices"
  | overlay => "overlays"

end ObjectKind

/-- The group and version of the kinds. -/
def apiVersion : String := "l2sm.l2sm.k8s.local/v1"

/-- One object of a slice. -/
inductive Descriptor where
  | segment (object : Segment)
  | edgeDevice (object : EdgeDevice)
  | overlay (object : Overlay)
deriving DecidableEq

namespace Descriptor

/-- The kind of the object. -/
def kind : Descriptor → ObjectKind
  | segment _ => .segment
  | edgeDevice _ => .edgeDevice
  | overlay _ => .overlay

/-- The object's name and labels. -/
def metadata : Descriptor → ObjectMeta
  | segment s => s.metadata
  | edgeDevice e => e.metadata
  | overlay o => o.metadata

/-- The object's name. -/
def name (d : Descriptor) : String := d.metadata.name

/-- The object, if it is a segment. -/
def segment? : Descriptor → Option Segment
  | segment s => some s
  | _ => none

/-- The object, if it is an edge device. -/
def edgeDevice? : Descriptor → Option EdgeDevice
  | edgeDevice e => some e
  | _ => none

/-- The object, if it is an overlay. -/
def overlay? : Descriptor → Option Overlay
  | overlay o => some o
  | _ => none

end Descriptor

end NetworkSlice
