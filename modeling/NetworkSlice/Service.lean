import NetworkSlice.Cluster.Basic
import NetworkSlice.Operation.Report
import NetworkSlice.Plan.Composer
import NetworkSlice.Slice.Wire

/-
The service: requests in, responses out.

A request that cannot be planned is an error and nobody is asked anything.
Otherwise secrets are listed once, credentials are put together, and all
clusters are worked on; whatever goes wrong then is part of the response. One
deadline covers the listing and the clusters. It is an instant, and needs one
that the clock can still read; all other times are counted in nanoseconds from
the moment the plan is there.
-/
namespace NetworkSlice

-- ============================================= workload patches

/-- A change that attaches a workload to a network: where, and to what. -/
structure WorkloadPatch where
  path : String
  value : String
deriving DecidableEq, Repr

/-- What stands for the workload's name, which the user fills in. -/
def workloadPlaceholder : String := "<workload-name>"

/-- The changes that attach a workload to a network. -/
def workloadPatches (network : String) : List WorkloadPatch := [
  ⟨"spec.template.metadata.labels.l2sm", "true"⟩,
  ⟨"spec.template.metadata.labels.l2sm/app", workloadPlaceholder⟩,
  ⟨"spec.template.metadata.annotations.l2sm/networks", network⟩,
  ⟨"spec.template.spec.containers[0].env[0].name", "DNS_NAME"⟩,
  ⟨"spec.template.spec.containers[0].env[0].value",
    workloadPlaceholder ++ "." ++ network ++ ".inter.l2sm"⟩]

/-- The members of a workload patch. -/
def WorkloadPatch.record : Wire.Record WorkloadPatch (String × String × Unit) where
  name := "WorkloadPatch"
  fields := .cons (.required "path" .text) <| .cons (.required "value" .text) .nil
  closed := false
  write p := (p.path, p.value, ())
  read | (a, b, ()) => .ok ⟨a, b⟩

/-- The format of workload patches. -/
def WorkloadPatch.format : Wire.Format WorkloadPatch := WorkloadPatch.record.format

-- ==================================================== methods

/-- What a request may ask for. -/
inductive Method where
  | createNetwork
  | deleteNetwork
  | createSlice
  | deleteSlice
deriving DecidableEq, Repr

namespace Method

/-- How much is planned. -/
def scope : Method → Scope
  | createNetwork | deleteNetwork => .network
  | createSlice | deleteSlice => .slice

/-- What is done with the plan. -/
def action : Method → Action
  | createNetwork | createSlice => .apply
  | deleteNetwork | deleteSlice => .delete

/-- What the message calls the thing. -/
def subject : Method → String
  | createNetwork | deleteNetwork => "Network"
  | createSlice | deleteSlice => "Slice"

/-- What the message says was done to it. -/
def verb : Method → String
  | createNetwork | createSlice => "created"
  | deleteNetwork | deleteSlice => "deleted"

/-- The changes a response offers. -/
def patches (m : Method) (sliceName : String) : List WorkloadPatch :=
  match m with
  | createNetwork => workloadPatches sliceName
  | _ => []

end Method

-- ================================================== responses

/-- The answer to a request. -/
structure Response where
  message : String
  outcomes : List Outcome
  patches : List WorkloadPatch
deriving DecidableEq, Repr

/-- Whether no participant failed. -/
def Response.allSucceeded (r : Response) : Bool := r.outcomes.all Outcome.isSuccess

/-- The message for a report. -/
def summarize (m : Method) (r : Report) : String :=
  if r.succeeded.length = r.outcomes.length then s!"{m.subject} {m.verb} successfully"
  else
    let failed := ", ".intercalate (r.failed.map Outcome.participant)
    s!"{m.subject} {m.verb} on {r.succeeded.length} of {r.outcomes.length} clusters; failed: {failed}"

/-- A response as a value, under the id of its operation. -/
def Response.toJson (id : String) (r : Response) : Json :=
  .obj ([("operationId", .str id), ("message", .str r.message),
      ("outcomes", .arr (r.outcomes.map Outcome.toJson))] ++
    if r.patches.isEmpty then []
    else [("patches", WorkloadPatch.format.list.encode r.patches)])

-- ==================================================== service

/-- How the listing of secrets is answered. -/
structure ListingReply where
  /-- How long it takes, in nanoseconds; nothing if it never ends. -/
  after : Option Nat
  listing : Listing

/-- What lists secrets, by their label and the key inside them. -/
abbrev Lister := (selector dataKey : String) → ListingReply

/-- A listing that was asked for, with its times. -/
structure ListingAsk where
  selector : String
  dataKey : String
  asked : Nat
  /-- When the answer came, if it was not given up. -/
  answered : Option Nat
deriving DecidableEq, Repr

/-- How carrying out a request ends. -/
inductive Service.Ending where
  /-- The request cannot be planned. -/
  | refused (error : SliceError)
  /-- There is no instant at which the operation would be out of time. -/
  | noInstant
  /-- Something is never answered and nothing ends the wait. -/
  | endless
  | answered (response : Response)
deriving DecidableEq, Repr

/-- What carrying out a request comes to, and all that was asked on the way. -/
structure Service.Result (σ : Type) where
  ending : Service.Ending
  /-- The listings of secrets that were asked for. -/
  listings : List ListingAsk
  /-- The work on the clusters, if it came to that. -/
  operation : Option (Operation σ)

namespace Service

/-- Nobody is asked anything. -/
def Result.uninvolved {σ : Type} (ending : Ending) : Result σ := ⟨ending, [], none⟩

/-- The runs of the participants, by name. -/
def Result.runs {σ : Type} (r : Result σ) : List (String × Run σ) :=
  (r.operation.map Operation.runs).getD []

/-- What a participant is told when the listing came too late. -/
def listingTimeout : SliceError :=
  .timeout "secret listing did not finish before the deadline"

/-- When an operation is out of time, counted from the time its plan is
there. -/
def deadline (s : Settings) : Option Nat := s.operationTimeout.map Duration.toNanos

/-- Whether the clock, which reads `start` then, goes up to the deadline. -/
def hasInstant (s : Settings) (start : Instant) : Bool :=
  s.operationTimeout.all fun d => (start.after? d).isSome

/-- The wait for the listing. -/
def listingWait (s : Settings) (list : Lister) : Wait :=
  Wait.until (deadline s) 0 (list s.credentialSelector s.credentialDataKey).after

/-- The listing that a request asks for. -/
def listingAsk (s : Settings) (list : Lister) : ListingAsk :=
  ⟨s.credentialSelector, s.credentialDataKey, 0, (listingWait s list).ready?⟩

/-- The vault of a request and when it is there, if it ever is. -/
def vault? (s : Settings) (r : Request) (list : Lister) : Option (Vault × Nat) :=
  match listingWait s list with
  | .ready time =>
    some (.load s.credentialSelector (list s.credentialSelector s.credentialDataKey).listing
      r.slice.participants, time)
  | .expired time => some (.unavailable listingTimeout, time)
  | .endless => none

/-- Work on the clusters of a plan. -/
def operate {σ : Type} (s : Settings) (m : Method) (r : Request) (plan : Plan)
    (clusters : String → Cluster σ) (states : String → σ) (vault : Vault) (now : Nat) :
    Operation σ :=
  Operation.run (fun p => (clusters p).site vault p) states (deadline s) now m.action
    (s.namespaceOrDefault r.namespaceName) plan

/-- The response to a request, once all clusters are done. -/
def conclude {σ : Type} (m : Method) (r : Request) (operation : Operation σ) : Ending :=
  match operation.report? with
  | none => .endless
  | some report => .answered ⟨summarize m report, report.outcomes, m.patches r.slice.name⟩

/-- Carry out a planned request. -/
def carryOut {σ : Type} (s : Settings) (m : Method) (r : Request) (plan : Plan)
    (list : Lister) (clusters : String → Cluster σ) (states : String → σ) : Result σ :=
  match vault? s r list with
  | none => ⟨.endless, [listingAsk s list], none⟩
  | some (vault, now) =>
    let operation := operate s m r plan clusters states vault now
    ⟨conclude m r operation, [listingAsk s list], some operation⟩

/-- Carry out a request. Once its plan is there, the clock reads `start`. -/
def execute {σ : Type} (s : Settings) (m : Method) (r : Request) (start : Instant) (list : Lister)
    (clusters : String → Cluster σ) (states : String → σ) : Result σ :=
  match (Composer.ofSettings s).plan r.slice m.scope with
  | .error e => .uninvolved (.refused e)
  | .ok plan =>
    if hasInstant s start then carryOut s m r plan list clusters states
    else .uninvolved .noInstant

end Service

end NetworkSlice
