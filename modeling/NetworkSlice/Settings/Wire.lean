import NetworkSlice.Settings.Basic
import NetworkSlice.Slice.Wire

/-
The formats of settings.
-/
namespace NetworkSlice

open Wire

namespace Duration

/-- The duration of a number of seconds and nanoseconds; whole seconds in the
latter are carried over. -/
def carry (secs : UInt64) (nanos : UInt32) : Except DecodeError Duration :=
  let total := secs.toNat + nanos.toNat / perSecond
  if total < UInt64.size then
    .ok ⟨UInt64.ofNat total, nanos.toNat % perSecond, Nat.mod_lt _ (by decide)⟩
  else .error (.refused "overflow deserializing Duration")

/-- The members of a duration; it admits no others. -/
def record : Record Duration (UInt64 × UInt32 × Unit) where
  name := "Duration"
  fields := .cons (.required "secs" .u64) <| .cons (.required "nanos" .u32) .nil
  closed := true
  write d := (d.secs, UInt32.ofNat d.nanos, ())
  read | (secs, nanos, ()) => carry secs nanos

/-- The format of durations. -/
def format : Format Duration := record.format

end Duration

/-- The members of the defaults. -/
def Defaults.record :
    Record Defaults
      (NetworkType × String × String × String × String × String × String × String × String ×
        Unit) where
  name := "CompositionDefaults"
  fields :=
    .cons (.defaulted "network_type" NetworkType.format standard.networkType) <|
    .cons (.defaulted "provider_name" .text standard.providerName) <|
    .cons (.defaulted "provider_domain" .text standard.providerDomain) <|
    .cons (.defaulted "of_port" .text standard.ofPort) <|
    .cons (.defaulted "sdn_port" .text standard.sdnPort) <|
    .cons (.defaulted "dns_port" .text standard.dnsPort) <|
    .cons (.defaulted "dns_grpc_port" .text standard.dnsGrpcPort) <|
    .cons (.defaulted "overlay_switch_image" .text standard.overlaySwitchImage) <|
    .cons (.defaulted "edge_switch_image" .text standard.edgeSwitchImage) .nil
  closed := false
  write d :=
    (d.networkType, d.providerName, d.providerDomain, d.ofPort, d.sdnPort, d.dnsPort,
      d.dnsGrpcPort, d.overlaySwitchImage, d.edgeSwitchImage, ())
  read | (a, b, c, d, e, f, g, h, i, ()) => .ok ⟨a, b, c, d, e, f, g, h, i⟩

/-- The format of defaults. -/
def Defaults.format : Format Defaults := Defaults.record.format

/-- The members of settings. -/
def Settings.record :
    Record Settings
      (Defaults × String × String × String × Option Duration × EmptyLinks × Unit) where
  name := "OrchestratorConfig"
  fields :=
    .cons (.defaulted "defaults" Defaults.format standard.defaults) <|
    .cons (.defaulted "default_namespace" .text standard.defaultNamespace) <|
    .cons (.defaulted "credential_selector" .text standard.credentialSelector) <|
    .cons (.defaulted "credential_data_key" .text standard.credentialDataKey) <|
    .cons (.defaulted "operation_timeout" Duration.format.option standard.operationTimeout) <|
    .cons (.defaulted "empty_links" EmptyLinks.format standard.emptyLinks) .nil
  closed := false
  write s :=
    (s.defaults, s.defaultNamespace, s.credentialSelector, s.credentialDataKey,
      s.operationTimeout, s.emptyLinks, ())
  read | (a, b, c, d, e, f, ()) => .ok ⟨a, b, c, d, e, f⟩

/-- The format of settings. -/
def Settings.format : Format Settings := Settings.record.format

end NetworkSlice
