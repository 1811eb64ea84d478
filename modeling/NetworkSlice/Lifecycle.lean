/-
The lifecycle of one participant in an operation.

A participant waits, authenticates, executes, and then has succeeded or
failed. Failing is possible in every phase but the last two, and says which
phase it interrupted. A `Machine` is a phase with the log of the inputs that
led to it.
-/
namespace NetworkSlice

/-- Where a participant is in an operation. -/
inductive Phase where
  | pending
  | authenticating
  | executing
  | succeeded
  | failed
deriving DecidableEq, Repr, Inhabited

/-- What happens to a participant. -/
inductive PhaseInput where
  | authenticate
  | connected
  | completed
  | fail
deriving DecidableEq, Repr

namespace PhaseInput

/-- All inputs. -/
def all : List PhaseInput := [authenticate, connected, completed, fail]

/-- The name of an input. -/
def name : PhaseInput → String
  | authenticate => "Authenticate"
  | connected => "Connected"
  | completed => "Completed"
  | fail => "Fail"

end PhaseInput

/-- Why an input is not possible. -/
inductive PhaseError where
  /-- Nothing happens any more in this phase. -/
  | terminal (phase : Phase)
  | invalid (phase : Phase) (input : PhaseInput)
deriving DecidableEq, Repr

namespace Phase

/-- All phases. -/
def all : List Phase := [pending, authenticating, executing, succeeded, failed]

/-- The name of a phase. -/
def name : Phase → String
  | pending => "pending"
  | authenticating => "authenticating"
  | executing => "executing"
  | succeeded => "succeeded"
  | failed => "failed"

/-- Whether the operation is over for the participant. -/
def isTerminal : Phase → Bool
  | succeeded | failed => true
  | _ => false

/-- The phase after an input, and the phase that a failure interrupted. -/
def step : Phase → PhaseInput → Except PhaseError (Phase × Option Phase)
  | succeeded, _ => .error (.terminal succeeded)
  | failed, _ => .error (.terminal failed)
  | pending, .authenticate => .ok (authenticating, none)
  | authenticating, .connected => .ok (executing, none)
  | executing, .completed => .ok (succeeded, none)
  | phase, .fail => .ok (failed, some phase)
  | phase, input => .error (.invalid phase input)

/-- Whether an input is possible. -/
def accepts (p : Phase) (input : PhaseInput) : Bool := (p.step input).isOk

/-- The inputs that are possible. -/
def inputs : Phase → List PhaseInput
  | pending => [.authenticate, .fail]
  | authenticating => [.connected, .fail]
  | executing => [.completed, .fail]
  | succeeded | failed => []

end Phase

/-- The wording of the error. -/
def PhaseError.message : PhaseError → String
  | terminal phase => s!"State {phase.name} is terminal"
  | invalid phase input => s!"Invalid transition from {phase.name} on {input.name}"

/-- One accepted input. -/
structure PhaseChange where
  source : Phase
  input : PhaseInput
  target : Phase
deriving DecidableEq, Repr

/-- A phase with the accepted inputs that led to it, in order. -/
structure Machine where
  phase : Phase
  history : List PhaseChange
deriving DecidableEq, Repr

namespace Machine

/-- A machine that nothing has happened to. -/
def start (phase : Phase) : Machine := ⟨phase, []⟩

/-- The machine after an input, and the phase a failure interrupted. -/
def feed (m : Machine) (input : PhaseInput) : Except PhaseError (Machine × Option Phase) := do
  let (target, interrupted) ← m.phase.step input
  return (⟨target, m.history ++ [⟨m.phase, input, target⟩]⟩, interrupted)

/-- The machine after an input that is passed over if it is not possible. -/
def advance (m : Machine) (input : PhaseInput) : Machine × Option Phase :=
  match m.feed input with
  | .ok result => result
  | .error _ => (m, none)

end Machine

end NetworkSlice
