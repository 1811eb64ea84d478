/-
What can go wrong, as causes, and the one wording of each.

`ObjectError` is what a cluster's object interface answers to a create or a
delete it does not carry out. `SliceError` is everything else together with
that: a fault of the request, which stops an operation before any cluster is
contacted, or a failure that belongs to one cluster. `isRequestError` tells
the two classes apart.
-/
namespace NetworkSlice

/-- Why a cluster did not carry out a create or a delete. -/
inductive ObjectError where
  /-- There is no such object. -/
  | notFound (name : String)
  /-- An object of that name is there already. -/
  | alreadyExists (name : String)
  /-- The request arrived and was refused. -/
  | rejected (status : Nat) (message : String)
  /-- The request was never answered. -/
  | transport (reason : String)
deriving DecidableEq, Repr

namespace ObjectError

/-- The wording of the error. -/
def message : ObjectError → String
  | .notFound name => s!"not found: {name}"
  | .alreadyExists name => s!"already exists: {name}"
  | .rejected status text => s!"rejected ({status}): {text}"
  | .transport reason => s!"transport error: {reason}"

/-- Whether the object was missing. -/
def isNotFound : ObjectError → Bool
  | .notFound _ => true
  | _ => false

end ObjectError

/-- What can stop the planning of a slice or its work on one cluster. -/
inductive SliceError where
  /-- The text is no address block, or not one that may be used. -/
  | invalidCidr (text : String)
  /-- The sub-blocks would be longer than an address, or shorter than the
  block. -/
  | addressSpaceExhausted (newLength width : Nat)
  /-- The request breaks a rule of its own structure. -/
  | validation (text : String)
  /-- The objects cannot be composed. -/
  | composition (text : String)
  /-- There are no credentials for a participant. -/
  | credentialNotFound (participant reason : String)
  /-- A cluster could not be reached. -/
  | clusterUnreachable (participant reason : String)
  /-- A cluster refused a create or a delete. -/
  | objectApi (participant : String) (source : ObjectError)
  /-- The deadline passed first. -/
  | timeout (text : String)
  /-- A setting is unusable. -/
  | configuration (text : String)
  /-- A document does not have the expected form. -/
  | serialization (text : String)
deriving DecidableEq, Repr

namespace SliceError

/-- The wording of the error. -/
def message : SliceError → String
  | .invalidCidr text => s!"Invalid CIDR: {text}"
  | .addressSpaceExhausted newLength width => s!"new prefix length {newLength} exceeds {width}"
  | .validation text => s!"Validation error: {text}"
  | .composition text => s!"Composition error: {text}"
  | .credentialNotFound participant reason =>
    s!"Credential not found for cluster {participant}: {reason}"
  | .clusterUnreachable participant reason => s!"Cluster {participant} unreachable: {reason}"
  | .objectApi participant source =>
    s!"Object API error on cluster {participant}: {source.message}"
  | .timeout text => s!"Operation timed out: {text}"
  | .configuration text => s!"Configuration error: {text}"
  | .serialization text => s!"Serialization error: {text}"

/-- Whether the error lies in the request, so that no cluster was contacted. -/
def isRequestError : SliceError → Bool
  | .invalidCidr _ | .addressSpaceExhausted .. | .validation _ | .composition _
  | .configuration _ | .serialization _ => true
  | .credentialNotFound .. | .clusterUnreachable .. | .objectApi .. | .timeout _ => false

/-- How an object error on a participant's cluster is reported: an unanswered
request means the cluster is out of reach, anything else is its refusal. -/
def ofObjectError (participant : String) : ObjectError → SliceError
  | .transport reason => .clusterUnreachable participant reason
  | source => .objectApi participant source

end SliceError

end NetworkSlice
