import NetworkSlice.Clock
import NetworkSlice.Slice.Spec

/-
Settings: what a slice's objects take where the request says nothing, and how
operations are run.

Settings come from a document or from an environment of named texts;
`Settings.ofEnvironment` reads the second and starts from the defaults.
-/
namespace NetworkSlice

/-- What the objects of a slice take where the request says nothing. -/
structure Defaults where
  networkType : NetworkType
  providerName : String
  providerDomain : String
  ofPort : String
  sdnPort : String
  dnsPort : String
  dnsGrpcPort : String
  overlaySwitchImage : String
  edgeSwitchImage : String
deriving DecidableEq, Repr

/-- The defaults that hold unless others are set. -/
def Defaults.standard : Defaults where
  networkType := .vnet
  providerName := "l2sm-sdn"
  providerDomain := "l2sm-controller-service.l2sm-system.svc"
  ofPort := "6633"
  sdnPort := "30808"
  dnsPort := "30053"
  dnsGrpcPort := "30818"
  overlaySwitchImage := "alexdecb/l2sm-switch:2.7"
  edgeSwitchImage := "alexdecb/l2sm-switch:1.2.9"

/-- How operations are run. -/
structure Settings where
  defaults : Defaults
  /-- The namespace of requests that name none. -/
  defaultNamespace : String
  /-- The label that marks a secret as a cluster's, with the cluster's name as
  its value. -/
  credentialSelector : String
  /-- The key of the CA inside such a secret. -/
  credentialDataKey : String
  /-- How long an operation may take. -/
  operationTimeout : Option Duration
  emptyLinks : EmptyLinks
deriving DecidableEq, Repr

namespace Settings

/-- The settings that hold unless others are set. -/
def standard : Settings where
  defaults := Defaults.standard
  defaultNamespace := "default"
  credentialSelector := "l2sm-cert"
  credentialDataKey := "cert-value"
  operationTimeout := some (Duration.ofSecs 60)
  emptyLinks := .fullMesh

/-- The namespace of a request: the requested one unless it is blank. -/
def namespaceOrDefault (s : Settings) (requested : String) : String :=
  Text.orElse requested s.defaultNamespace

/-- A number of seconds: digits, with a plus sign before them or without. -/
def readSeconds (raw : String) : Option UInt64 :=
  let digits := match raw.toList with
    | '+' :: rest => rest
    | cs => cs
  if digits.isEmpty || !digits.all Char.isDigit then none
  else
    let n := digits.foldl (fun n c => n * 10 + (c.toNat - '0'.toNat)) 0
    if n < UInt64.size then some (UInt64.ofNat n) else none

/-- The timeout of a text; zero seconds mean none. -/
def readTimeout (raw : String) : Except SliceError (Option Duration) :=
  match readSeconds raw with
  | none => .error (.configuration s!"SLICE_OPERATION_TIMEOUT_SECS: not a number: {raw}")
  | some secs => .ok (if secs = 0 then none else some (Duration.ofSecs secs))

/-- The policy of a text. -/
def readEmptyLinks (raw : String) : Except SliceError EmptyLinks :=
  if raw = "mesh" then .ok .fullMesh
  else if raw = "none" then .ok .noConnectivity
  else .error (.configuration s!"SLICE_EMPTY_LINKS: expected mesh or none, got {raw}")

/-- The standard settings with those changed that the environment names. -/
def ofEnvironment (lookup : String → Option String) : Except SliceError Settings := do
  let timeout ← match lookup "SLICE_OPERATION_TIMEOUT_SECS" with
    | some raw => readTimeout raw
    | none => .ok standard.operationTimeout
  let emptyLinks ← match lookup "SLICE_EMPTY_LINKS" with
    | some raw => readEmptyLinks raw
    | none => .ok standard.emptyLinks
  return { standard with
    defaultNamespace := (lookup "SLICE_DEFAULT_NAMESPACE").getD standard.defaultNamespace
    credentialSelector := (lookup "SLICE_CREDENTIAL_SELECTOR").getD standard.credentialSelector
    operationTimeout := timeout
    emptyLinks := emptyLinks }

end Settings

end NetworkSlice
