import NetworkSlice.Address.Partition
import NetworkSlice.Slice.Spec
import NetworkSlice.Wire.Record

/-
The formats of requests and their parts.

A request is a slice with a namespace among its members. Its namespace is
decoded while the members are read, the others are kept aside whole and then
decoded as a slice.
-/
namespace NetworkSlice

open Wire

/-- The format of kinds of network. -/
def NetworkType.format : Format NetworkType := Format.variants all name

namespace EmptyLinks

/-- The name of a policy. -/
def name : EmptyLinks → String
  | fullMesh => "full-mesh"
  | noConnectivity => "no-connectivity"

/-- The format of policies. -/
def format : Format EmptyLinks := Format.variants [fullMesh, noConnectivity] name

end EmptyLinks

/-- The members of a link. -/
def Link.record : Record Link (String × String × Unit) where
  name := "TopologyLink"
  fields := .cons (.required "endpointA" .text) <| .cons (.required "endpointB" .text) .nil
  closed := false
  write l := (l.endpointA, l.endpointB, ())
  read | (a, b, ()) => .ok ⟨a, b⟩

/-- The format of links. -/
def Link.format : Format Link := Link.record.format

/-- The members of a provider's ports. -/
def ProviderPorts.record :
    Record ProviderPorts
      (Option String × Option String × Option String × Option String × Unit) where
  name := "ProviderPorts"
  fields :=
    .cons (.optional "ofPort" .text) <| .cons (.optional "sdnPort" .text) <|
    .cons (.optional "dnsPort" .text) <| .cons (.optional "dnsGrpcPort" .text) .nil
  closed := false
  write p := (p.ofPort, p.sdnPort, p.dnsPort, p.dnsGrpcPort, ())
  read | (a, b, c, d, ()) => .ok ⟨a, b, c, d⟩

/-- The format of a provider's ports. -/
def ProviderPorts.format : Format ProviderPorts := ProviderPorts.record.format

/-- The members of a requested provider. -/
def Provider.record : Record Provider (String × String × ProviderPorts × Unit) where
  name := "ProviderSpec"
  fields :=
    .cons (.defaulted "name" .text "") <| .cons (.defaulted "domain" .text "") <|
    .cons (.defaulted "ports" ProviderPorts.format ProviderPorts.none) .nil
  closed := false
  write p := (p.name, p.domain, p.ports, ())
  read | (a, b, c, ()) => .ok ⟨a, b, c⟩

/-- The format of requested providers. -/
def Provider.format : Format Provider := Provider.record.format

/-- The members of a gateway. -/
def Gateway.record : Record Gateway (String × String × Unit) where
  name := "GatewayNode"
  fields := .cons (.required "name" .text) <| .cons (.required "address" .text) .nil
  closed := false
  write g := (g.name, g.address, ())
  read | (a, b, ()) => .ok ⟨a, b⟩

/-- The format of gateways. -/
def Gateway.format : Format Gateway := Gateway.record.format

/-- The members of an auth. -/
def Auth.record : Record Auth (String × String × Unit) where
  name := "ClusterAuth"
  fields := .cons (.required "endpoint" .text) <| .cons (.required "bearerToken" .text) .nil
  closed := false
  write a := (a.endpoint, a.token, ())
  read | (a, b, ()) => .ok ⟨a, b⟩

/-- The format of auths. -/
def Auth.format : Format Auth := Auth.record.format

/-- The members of a participant. -/
def Participant.record :
    Record Participant
      (String × Option Auth × Gateway × List String × Option (List Link) × Option Cidr × Unit)
    where
  name := "ClusterParticipant"
  fields :=
    .cons (.required "name" .text) <| .cons (.optional "auth" Auth.format) <|
    .cons (.required "gatewayNode" Gateway.format) <| .cons (.listed "nodes" .text) <|
    .cons (.optional "overlayLinks" Link.format.list) <|
    .cons (.optional "podCidr" .cidr) .nil
  closed := false
  write p := (p.name, p.auth, p.gateway, p.nodes, p.overlayLinks, p.podRange, ())
  read | (a, b, c, d, e, f, ()) => .ok ⟨a, b, c, d, e, f⟩

/-- The format of participants. -/
def Participant.format : Format Participant := Participant.record.format

/-- The members of a slice. -/
def Slice.record :
    Record Slice
      (String × Option NetworkType × Option Provider × Option String × Bool ×
        List Participant × Option (List Link) × Unit) where
  name := "SliceSpec"
  fields :=
    .cons (.required "name" .text) <| .cons (.optional "networkType" NetworkType.format) <|
    .cons (.optional "provider" Provider.format) <| .cons (.optional "addressBlock" .text) <|
    .cons (.defaulted "partition" .flag false) <|
    .cons (.required "participants" Participant.format.list) <|
    .cons (.optional "links" Link.format.list) .nil
  closed := false
  write s :=
    (s.name, s.networkType, s.provider, s.addressBlock, s.partition, s.participants, s.links, ())
  read | (a, b, c, d, e, f, g, ()) => .ok ⟨a, b, c, d, e, f, g⟩

/-- The format of slices. -/
def Slice.format : Format Slice := Slice.record.format

/-- The members of an assignment. -/
def Assignment.record : Record Assignment (List Cidr × Unit) where
  name := "SubnetAssignment"
  fields := .cons (.required "blocks" Format.cidr.list) .nil
  closed := false
  write a := (a.blocks, ())
  read | (blocks, ()) => .ok ⟨blocks⟩

/-- The format of assignments. -/
def Assignment.format : Format Assignment := Assignment.record.format

namespace Request

/-- How many lists and objects may stand inside each other in a member that
is kept aside. -/
def keepLimit : Nat := Doc.depthLimit - 1

/-- A member to keep aside. A text must be read to the member's end; the parts
of a value are there already. -/
def keep (src : Source) (doc : Doc) : Except DecodeError Doc :=
  match src with
  | .text => ((doc.settle keepLimit).map Doc.ofJson).mapError .grammar
  | _ => .ok doc

/-- The namespace of a request, if `found` or the members name one, and the
other members, last one first. -/
def split (src : Source) (found : Option String)
    (kept : List (Except Fault String × Doc)) :
    List (Except Fault String × Doc) →
      Except DecodeError (Option String × List (Except Fault String × Doc))
  | [] => .ok (found, kept.reverse)
  | (name, doc) :: rest => do
    let name ← name.mapError .grammar
    if name = "namespace" then
      if found.isSome then throw (.repeatedMember name)
      let text ← Format.text.decode src doc
      split src (some text) kept rest
    else
      let doc ← keep src doc
      split src found ((.ok name, doc) :: kept) rest

/-- The format of requests. -/
def format : Format Request where
  encode r :=
    .obj (("namespace", .str r.namespaceName) ::
      Slice.record.fields.encode (Slice.record.write r.slice))
  decode src
    | .obj members ending => do
      let (found, kept) ← split src none [] members
      Wire.closed ending
      let slice ← Slice.record.read
        (← Slice.record.fields.decodeMembers .buffered false kept none)
      return ⟨found.getD "", slice⟩
    | doc => .error (mismatch "struct SliceRequest" doc)

end Request

end NetworkSlice
