import NetworkSlice.Resource.Basic
import NetworkSlice.Slice.Wire

/-
The formats of the objects and their parts, and the object a cluster is sent
for a descriptor.
-/
namespace NetworkSlice

open Wire

-- ================================================== templates

/-- The members of a field reference. -/
def FieldRef.record : Record FieldRef (String × Unit) where
  name := "FieldRef"
  fields := .cons (.required "fieldPath" .text) .nil
  closed := false
  write r := (r.path, ())
  read | (a, ()) => .ok ⟨a⟩

/-- The members of a variable's source. -/
def EnvSource.record : Record EnvSource (FieldRef × Unit) where
  name := "EnvVarSource"
  fields := .cons (.required "fieldRef" FieldRef.record.format) .nil
  closed := false
  write s := (s.fieldRef, ())
  read | (a, ()) => .ok ⟨a⟩

/-- The members of a variable. -/
def EnvVar.record : Record EnvVar (String × EnvSource × Unit) where
  name := "EnvVar"
  fields :=
    .cons (.required "name" .text) <| .cons (.required "valueFrom" EnvSource.record.format) .nil
  closed := false
  write v := (v.name, v.source, ())
  read | (a, b, ()) => .ok ⟨a, b⟩

/-- The members of capabilities. -/
def Capabilities.record : Record Capabilities (List String × Unit) where
  name := "Capabilities"
  fields := .cons (.required "add" Format.text.list) .nil
  closed := false
  write c := (c.add, ())
  read | (a, ()) => .ok ⟨a⟩

/-- The members of a security context. -/
def SecurityContext.record : Record SecurityContext (Capabilities × Unit) where
  name := "SecurityContext"
  fields := .cons (.required "capabilities" Capabilities.record.format) .nil
  closed := false
  write c := (c.capabilities, ())
  read | (a, ()) => .ok ⟨a⟩

/-- The members of a container. -/
def Container.record :
    Record Container
      (String × String × List String × List EnvVar × Option String × SecurityContext × Unit) where
  name := "ContainerTemplate"
  fields :=
    .cons (.required "name" .text) <| .cons (.required "image" .text) <|
    .cons (.listed "command" .text) <| .cons (.listed "env" EnvVar.record.format) <|
    .cons (.optional "imagePullPolicy" .text) <|
    .cons (.required "securityContext" SecurityContext.record.format) .nil
  closed := false
  write c := (c.name, c.image, c.command, c.env, c.imagePullPolicy, c.securityContext, ())
  read | (a, b, c, d, e, f, ()) => .ok ⟨a, b, c, d, e, f⟩

/-- The members of a pod. -/
def SwitchPod.record : Record SwitchPod (Bool × List Container × Unit) where
  name := "SwitchPodSpec"
  fields :=
    .cons ⟨"hostNetwork", .flag, some false, not⟩ <|
    .cons (.required "containers" Container.record.format.list) .nil
  closed := false
  write p := (p.hostNetwork, p.containers, ())
  read | (a, b, ()) => .ok ⟨a, b⟩

/-- The members of a switch template. -/
def SwitchTemplate.record : Record SwitchTemplate (SwitchPod × Unit) where
  name := "SwitchTemplate"
  fields := .cons (.required "spec" SwitchPod.record.format) .nil
  closed := false
  write t := (t.pod, ())
  read | (a, ()) => .ok ⟨a⟩

/-- The format of switch templates. -/
def SwitchTemplate.format : Format SwitchTemplate := SwitchTemplate.record.format

-- ==================================================== objects

/-- The format of kinds, by their names in this library. -/
def ObjectKind.format : Format ObjectKind := Format.variants all name

/-- The members of metadata. -/
def ObjectMeta.record : Record ObjectMeta (String × Table String × Unit) where
  name := "ObjectMeta"
  fields :=
    .cons (.required "name" .text) <|
    .cons ⟨"labels", Format.text.table, some Table.empty, fun t => t.entries.isEmpty⟩ .nil
  closed := false
  write m := (m.name, m.labels, ())
  read | (a, b, ()) => .ok ⟨a, b⟩

/-- The format of metadata. -/
def ObjectMeta.format : Format ObjectMeta := ObjectMeta.record.format

/-- The members of a provider by name and domain. -/
def ControllerRef.record : Record ControllerRef (String × String × Unit) where
  name := "ControllerRef"
  fields := .cons (.required "name" .text) <| .cons (.required "domain" .text) .nil
  closed := false
  write c := (c.name, c.domain, ())
  read | (a, b, ()) => .ok ⟨a, b⟩

/-- The format of providers by name and domain. -/
def ControllerRef.format : Format ControllerRef := ControllerRef.record.format

/-- The members of a provider with its ports. -/
def ProviderEndpoint.record :
    Record ProviderEndpoint (String × String × String × String × String × String × Unit) where
  name := "ProviderEndpoint"
  fields :=
    .cons (.required "name" .text) <| .cons (.required "domain" .text) <|
    .cons (.required "ofPort" .text) <| .cons (.required "sdnPort" .text) <|
    .cons (.required "dnsPort" .text) <| .cons (.required "dnsGrpcPort" .text) .nil
  closed := false
  write p := (p.name, p.domain, p.ofPort, p.sdnPort, p.dnsPort, p.dnsGrpcPort, ())
  read | (a, b, c, d, e, f, ()) => .ok ⟨a, b, c, d, e, f⟩

/-- The format of providers with their ports. -/
def ProviderEndpoint.format : Format ProviderEndpoint := ProviderEndpoint.record.format

/-- The members of what a segment is to be. -/
def SegmentSpec.record :
    Record SegmentSpec (NetworkType × Option Cidr × Option Cidr × ControllerRef × Unit) where
  name := "NetworkSegmentSpec"
  fields :=
    .cons (.required "type" NetworkType.format) <| .cons (.optional "networkCIDR" .cidr) <|
    .cons (.optional "podAddressRange" .cidr) <|
    .cons (.required "provider" ControllerRef.format) .nil
  closed := false
  write s := (s.networkType, s.addresses, s.podRange, s.provider, ())
  read | (a, b, c, d, ()) => .ok ⟨a, b, c, d⟩

/-- The format of what a segment is to be. -/
def SegmentSpec.format : Format SegmentSpec := SegmentSpec.record.format

/-- The members of a segment. -/
def Segment.record : Record Segment (ObjectMeta × SegmentSpec × Unit) where
  name := "NetworkSegment"
  fields :=
    .cons (.required "metadata" ObjectMeta.format) <|
    .cons (.required "spec" SegmentSpec.format) .nil
  closed := false
  write s := (s.metadata, s.spec, ())
  read | (a, b, ()) => .ok ⟨a, b⟩

/-- The format of segments. -/
def Segment.format : Format Segment := Segment.record.format

/-- The members of the node an edge device runs on. -/
def NodeConfig.record : Record NodeConfig (String × String × Unit) where
  name := "NodeConfig"
  fields := .cons (.required "nodeName" .text) <| .cons (.required "ipAddress" .text) .nil
  closed := false
  write n := (n.nodeName, n.address, ())
  read | (a, b, ()) => .ok ⟨a, b⟩

/-- The members of a neighbor. -/
def Neighbor.record : Record Neighbor (String × String × Unit) where
  name := "Neighbor"
  fields := .cons (.required "node" .text) <| .cons (.required "domain" .text) .nil
  closed := false
  write n := (n.node, n.domain, ())
  read | (a, b, ()) => .ok ⟨a, b⟩

/-- The format of neighbors. -/
def Neighbor.format : Format Neighbor := Neighbor.record.format

/-- The members of what an edge device is to be. -/
def EdgeDeviceSpec.record :
    Record EdgeDeviceSpec (ProviderEndpoint × NodeConfig × List Neighbor × SwitchTemplate × Unit)
    where
  name := "EdgeDeviceSpec"
  fields :=
    .cons (.required "provider" ProviderEndpoint.format) <|
    .cons (.required "nodeConfig" NodeConfig.record.format) <|
    .cons (.required "neighbors" Neighbor.format.list) <|
    .cons (.required "switchTemplate" SwitchTemplate.format) .nil
  closed := false
  write e := (e.provider, e.node, e.neighbors, e.switch, ())
  read | (a, b, c, d, ()) => .ok ⟨a, b, c, d⟩

/-- The format of what an edge device is to be. -/
def EdgeDeviceSpec.format : Format EdgeDeviceSpec := EdgeDeviceSpec.record.format

/-- The members of an edge device. -/
def EdgeDevice.record : Record EdgeDevice (ObjectMeta × EdgeDeviceSpec × Unit) where
  name := "EdgeDevice"
  fields :=
    .cons (.required "metadata" ObjectMeta.format) <|
    .cons (.required "spec" EdgeDeviceSpec.format) .nil
  closed := false
  write e := (e.metadata, e.spec, ())
  read | (a, b, ()) => .ok ⟨a, b⟩

/-- The format of edge devices. -/
def EdgeDevice.format : Format EdgeDevice := EdgeDevice.record.format

/-- The members of an overlay's topology. -/
def OverlayTopology.record : Record OverlayTopology (List String × List Link × Unit) where
  name := "OverlayTopology"
  fields :=
    .cons (.required "nodes" Format.text.list) <| .cons (.required "links" Link.format.list) .nil
  closed := false
  write t := (t.nodes, t.links, ())
  read | (a, b, ()) => .ok ⟨a, b⟩

/-- The format of overlay topologies. -/
def OverlayTopology.format : Format OverlayTopology := OverlayTopology.record.format

/-- The members of what an overlay is to be. -/
def OverlaySpec.record :
    Record OverlaySpec (ControllerRef × OverlayTopology × SwitchTemplate × Unit) where
  name := "OverlaySpec"
  fields :=
    .cons (.required "networkController" ControllerRef.format) <|
    .cons (.required "topology" OverlayTopology.format) <|
    .cons (.required "switchTemplate" SwitchTemplate.format) .nil
  closed := false
  write o := (o.controller, o.topology, o.switch, ())
  read | (a, b, c, ()) => .ok ⟨a, b, c⟩

/-- The format of what an overlay is to be. -/
def OverlaySpec.format : Format OverlaySpec := OverlaySpec.record.format

/-- The members of an overlay. -/
def Overlay.record : Record Overlay (ObjectMeta × OverlaySpec × Unit) where
  name := "Overlay"
  fields :=
    .cons (.required "metadata" ObjectMeta.format) <|
    .cons (.required "spec" OverlaySpec.format) .nil
  closed := false
  write o := (o.metadata, o.spec, ())
  read | (a, b, ()) => .ok ⟨a, b⟩

/-- The format of overlays. -/
def Overlay.format : Format Overlay := Overlay.record.format

namespace Descriptor

/-- What the object is to be, as a value. -/
def specJson : Descriptor → Json
  | segment s => SegmentSpec.format.encode s.spec
  | edgeDevice e => EdgeDeviceSpec.format.encode e.spec
  | overlay o => OverlaySpec.format.encode o.spec

/-- The object a cluster is sent. It can always be written: an encoder fails on
a member whose name is no text and on a value that refuses to be written, and
metadata and specs are records, lists, texts and numbers all the way down. So
there is no error of serialization to report, and this has no other result. -/
def toObject (d : Descriptor) : Json :=
  .obj [
    ("apiVersion", .str apiVersion),
    ("kind", .str d.kind.objectName),
    ("metadata", (ObjectMeta.format.encode d.metadata).sorted),
    ("spec", d.specJson.sorted)]

end Descriptor

end NetworkSlice
