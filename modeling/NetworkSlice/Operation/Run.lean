import NetworkSlice.Operation.Work

/-
Carrying out the work of one participant against time.

What answers is a `Site`: for every request it says after how long the answer
comes, if it ever does, and what it is. A run keeps the time, the machine of the
participant with all that it was told, and the requests it made. With a deadline
a request that would be answered later is given up when the deadline comes. What
needs no waiting is never too late, and an answer that comes exactly at the
deadline still counts. All times are in nanoseconds.
-/
namespace NetworkSlice

/-- How a request is answered. -/
structure Reply (σ α : Type) where
  /-- How long the answer takes; nothing if there is none. -/
  after : Option Nat
  answer : α
  /-- The site once it has answered. -/
  state : σ
  /-- The site if the request is given up. -/
  abandoned : σ

/-- What answers the requests of one participant. -/
structure Site (σ : Type) where
  resolve : σ → Reply σ (Except SliceError Credential)
  connect : σ → Credential → Reply σ (Except SliceError Unit)
  call : σ → Call → Reply σ (Except ObjectError Unit)

/-- What was asked. -/
inductive Ask where
  | resolve
  | connect (credential : Credential)
  | call (request : Call)

/-- A request with its times. -/
structure Exchange where
  ask : Ask
  /-- The phase of the participant meanwhile. -/
  phase : Phase
  asked : Nat
  /-- When the answer came, if it was not given up. -/
  answered : Option Nat

/-- How a wait ends. -/
inductive Wait where
  | ready (time : Nat)
  | expired (time : Nat)
  | endless

/-- Wait from `now` for an answer. -/
def Wait.until (deadline : Option Nat) (now : Nat) (after : Option Nat) : Wait :=
  match after, deadline with
  | some d, none => ready (now + d)
  | some d, some limit =>
    if d = 0 ∨ now + d ≤ limit then ready (now + d) else expired (max now limit)
  | none, some limit => expired (max now limit)
  | none, none => endless

/-- The time of the answer, if a wait ends with one. -/
def Wait.ready? : Wait → Option Nat
  | ready time => some time
  | expired _ | endless => none

/-- How a run ends. -/
inductive RunEnding where
  | finished (result : Except SliceError String)
  | expired
  | endless

/-- A run: how and when it ends, and what came of it. -/
structure Run (σ : Type) where
  ending : RunEnding
  time : Nat
  machine : Machine
  /-- All that the machine was told, what it did not accept included. -/
  inputs : List PhaseInput
  state : σ
  trace : List Exchange

namespace Run

variable {σ : Type}

/-- The same run after one more request. -/
def after (r : Run σ) (e : Exchange) : Run σ := { r with trace := e :: r.trace }

/-- The same run, with the machine told something before. -/
def told (r : Run σ) (input : PhaseInput) : Run σ := { r with inputs := input :: r.inputs }

/-- The run that consists of one request and what follows its answer. -/
def ask {α : Type} (deadline : Option Nat) (now : Nat) (machine : Machine) (ask : Ask)
    (reply : Reply σ α) (go : Nat → σ → α → Run σ) : Run σ :=
  match Wait.until deadline now reply.after with
  | .ready time => (go time reply.state reply.answer).after ⟨ask, machine.phase, now, some time⟩
  | .expired time =>
    ⟨.expired, time, machine, [], reply.abandoned, [⟨ask, machine.phase, now, none⟩]⟩
  | .endless => ⟨.endless, now, machine, [], reply.abandoned, [⟨ask, machine.phase, now, none⟩]⟩

/-- Carry out work from the time `now`. -/
def work (site : Site σ) (deadline : Option Nat) (now : Nat) (machine : Machine) (state : σ) :
    Work → Run σ
  | .done result => ⟨.finished result, now, machine, [], state, []⟩
  | .enter input rest => (work site deadline now (machine.advance input).1 state rest).told input
  | .resolve next =>
    ask deadline now machine .resolve (site.resolve state) fun time state answer =>
      work site deadline time machine state (next answer)
  | .connect credential next =>
    ask deadline now machine (.connect credential) (site.connect state credential)
      fun time state answer => work site deadline time machine state (next answer)
  | .call request next =>
    ask deadline now machine (.call request) (site.call state request)
      fun time state answer => work site deadline time machine state (next answer)

/-- The run of a participant's plan. -/
def ofPlan (site : Site σ) (deadline : Option Nat) (now : Nat) (state : σ) (action : Action)
    (namespaceName : String) (p : ParticipantPlan) : Run σ :=
  work site deadline now (.start .pending) state (.ofPlan action namespaceName p)

end Run

end NetworkSlice
