import NetworkSlice.Operation.Run
import NetworkSlice.Wire.Record

/-
Reports: one outcome for every participant of an operation.

Participants share nothing but the deadline, so each is run by itself and the
outcomes are listed in the order of the plan. A failure is an outcome like
any other.
-/
namespace NetworkSlice

/-- What became of a participant. -/
inductive OutcomeStatus where
  | created
  | deleted
  | failed
deriving DecidableEq, Repr

/-- The name of a status. -/
def OutcomeStatus.name : OutcomeStatus → String
  | created => "created"
  | deleted => "deleted"
  | failed => "failed"

/-- The status of a participant whose work is done. -/
def Action.status : Action → OutcomeStatus
  | apply => .created
  | delete => .deleted

/-- The outcome of one participant. -/
structure Outcome where
  participant : String
  status : OutcomeStatus
  message : String
  error : Option SliceError
  /-- The phase that the failure interrupted. -/
  failedAt : Option Phase
deriving DecidableEq, Repr

/-- Whether the participant did not fail. -/
def Outcome.isSuccess (o : Outcome) : Bool := o.status ≠ .failed

namespace Run

variable {σ : Type}

/-- The result of a run that ends; one that is cut off names its phase. -/
def result? (r : Run σ) (participant : String) : Option (Except SliceError String) :=
  match r.ending with
  | .finished result => some result
  | .expired =>
    some (.error (.timeout s!"{participant} did not finish in phase {r.machine.phase.name}"))
  | .endless => none

/-- The outcome of a result, and the machine after it. -/
def conclude (action : Action) (participant : String) (m : Machine) :
    Except SliceError String → Outcome × Machine
  | .ok message =>
    (⟨participant, action.status, message, none, none⟩, (m.advance .completed).1)
  | .error e =>
    let (m, interrupted) := m.advance .fail
    (⟨participant, .failed, e.message, some e, interrupted⟩, m)

/-- The outcome of a run that ends. -/
def outcome? (r : Run σ) (action : Action) (participant : String) : Option Outcome :=
  (r.result? participant).map fun result => (conclude action participant r.machine result).1

end Run

/-- The outcomes of an operation. -/
structure Report where
  action : Action
  sliceName : String
  started : Nat
  finished : Nat
  /-- In the order of the plan. -/
  outcomes : List Outcome
deriving DecidableEq, Repr

namespace Report

/-- The outcomes of participants that did not fail. -/
def succeeded (r : Report) : List Outcome := r.outcomes.filter Outcome.isSuccess

/-- The outcomes of participants that failed. -/
def failed (r : Report) : List Outcome := r.outcomes.filter fun o => !o.isSuccess

/-- Whether no participant failed. -/
def allSucceeded (r : Report) : Bool := r.outcomes.all Outcome.isSuccess

/-- The outcome of the first participant of a name. -/
def outcome? (r : Report) (participant : String) : Option Outcome :=
  r.outcomes.find? fun o => o.participant = participant

end Report

/-- The runs of a plan's participants, by name. -/
structure Operation (σ : Type) where
  action : Action
  sliceName : String
  started : Nat
  runs : List (String × Run σ)

namespace Operation

variable {σ : Type}

/-- Run every participant of a plan. -/
def run (sites : String → Site σ) (states : String → σ) (deadline : Option Nat) (now : Nat)
    (action : Action) (namespaceName : String) (plan : Plan) : Operation σ where
  action := action
  sliceName := plan.sliceName
  started := now
  runs := plan.participants.map fun p =>
    (p.participant,
      Run.ofPlan (sites p.participant) deadline now (states p.participant) action
        namespaceName p)

/-- When the last participant is done. -/
def finished (o : Operation σ) : Nat := o.runs.foldl (fun t r => max t r.2.time) o.started

/-- The report, if every participant's run ends. -/
def report? (o : Operation σ) : Option Report := do
  let outcomes ← o.runs.mapM fun r => r.2.outcome? o.action r.1
  return ⟨o.action, o.sliceName, o.started, o.finished, outcomes⟩

/-- The state of a participant's site afterwards. -/
def state (o : Operation σ) (before : String → σ) (participant : String) : σ :=
  match o.runs.lookup participant with
  | some r => r.state
  | none => before participant

end Operation

-- ==================================================== formats

open Wire

/-- The format of actions. -/
def Action.format : Format Action := Format.variants [apply, delete] name

/-- The format of statuses. -/
def OutcomeStatus.format : Format OutcomeStatus := Format.variants [created, deleted, failed] name

/-- The format of phases. -/
def Phase.format : Format Phase := Format.variants all name

/-- The format of what happens to participants. -/
def PhaseInput.format : Format PhaseInput := Format.variants all name

/-- An outcome as a value; the error shows in its message alone. -/
def Outcome.toJson (o : Outcome) : Json :=
  .obj ([("participant", .str o.participant), ("status", OutcomeStatus.format.encode o.status),
      ("message", .str o.message)] ++
    match o.failedAt with
    | some phase => [("failedAt", Phase.format.encode phase)]
    | none => [])

end NetworkSlice
