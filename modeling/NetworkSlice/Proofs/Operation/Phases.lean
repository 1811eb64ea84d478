import NetworkSlice.Operation.Report
import NetworkSlice.Proofs.Operation.Conduct

/-
Phases of a participant at work.

Each kind of request belongs to a phase: credentials and connections to
authenticating, calls to executing. `Work.InPhase` says that some work, begun
in a phase, makes all its requests where they belong, feeds the participant's
machine only inputs that it accepts, and comes to its result where the result
is possible. The work for a participant is so, from the beginning
(`ofPlan_inPhase`), and a run of it shows the phases it should
(`phase_of_inPhase`).
-/
namespace NetworkSlice

/-- The phase that a request belongs to. -/
def Ask.phase : Ask → Phase
  | .resolve | .connect _ => .authenticating
  | .call _ => .executing

/-- What a result is to the participant's machine. -/
def finalInput : Except SliceError String → PhaseInput
  | .ok _ => .completed
  | .error _ => .fail

/-- All branches of the work keep to the phases, if it begins in this one. -/
def Work.InPhase (phase : Phase) : Work → Prop
  | .done result => phase.accepts (finalInput result) = true
  | .enter input rest => ∃ next, phase.step input = .ok (next, none) ∧ rest.InPhase next
  | .resolve next => phase = Ask.resolve.phase ∧ ∀ a, (next a).InPhase phase
  | .connect c next => phase = (Ask.connect c).phase ∧ ∀ a, (next a).InPhase phase
  | .call r next => phase = (Ask.call r).phase ∧ ∀ a, (next a).InPhase phase

namespace Work

/-- With the cluster reached, the work only calls, which is executing. -/
theorem submit_inPhase (action : Action) (ns : String) (p : ParticipantPlan) :
    (submit action ns p).InPhase .executing :=
  submit_closed (fun _ _ _ hnext => ⟨rfl, hnext⟩) (fun _ => rfl) fun _ => rfl

/-- The work for a participant keeps to the phases from the beginning. -/
theorem ofPlan_inPhase (action : Action) (ns : String) (p : ParticipantPlan) :
    (ofPlan action ns p).InPhase .pending := by
  refine ⟨.authenticating, rfl, rfl, ?_⟩
  intro found
  cases found with
  | error e => rfl
  | ok c =>
      refine ⟨rfl, ?_⟩
      intro reached
      cases reached with
      | error e => rfl
      | ok u => exact ⟨.executing, rfl, submit_inPhase action ns p⟩

end Work

variable {σ : Type} {site : Site σ} {state : σ} {work : Work}

/-- An input that is accepted takes the machine to the next phase. -/
theorem Machine.advance_of_step {m : Machine} {input : PhaseInput} {next : Phase}
    {interrupted : Option Phase} (h : m.phase.step input = .ok (next, interrupted)) :
    m.advance input = (⟨next, m.history ++ [⟨m.phase, input, next⟩]⟩, interrupted) := by
  unfold Machine.advance Machine.feed
  rw [h]
  rfl

/-- The next request is made in its phase, and so is the work that is left. -/
theorem Work.InPhase.turn {phase : Phase} {t : Turn σ} (h : work.InPhase phase)
    (ht : site.turn? state work = some t) : phase = t.ask.phase ∧ t.rest.InPhase phase := by
  rcases Site.turn?_cases ht with ⟨next, rfl, rfl⟩ | ⟨c, next, rfl, rfl⟩ | ⟨r, next, rfl, rfl⟩
  · exact ⟨h.1, h.2 _⟩
  · exact ⟨h.1, h.2 _⟩
  · exact ⟨h.1, h.2 _⟩

/-- A run makes its requests in the phases they belong to. -/
theorem Run.phase_of_inPhase (deadline : Option Nat) (work : Work) (state : σ) (now : Nat)
    (m : Machine) (h : work.InPhase m.phase) :
    ∀ x ∈ (Run.work site deadline now m state work).trace, x.phase = x.ask.phase := by
  induction work, state using turns site generalizing now m with
  | done result state => intro x hx; cases hx
  | enter input rest state ih =>
      obtain ⟨next, hstep, hrest⟩ := h
      apply ih now (m.advance input).1
      rw [Machine.advance_of_step hstep]
      exact hrest
  | turn work state t ht ih =>
      obtain ⟨hphase, hrest⟩ := h.turn ht
      intro x hx
      rcases mem_trace_of_turn ht hx with ⟨hask, hx, -⟩ | ⟨time, -, hx⟩
      · rw [hask, hx]
        exact hphase
      · exact ih time m hrest x hx

/-- No request is made before a participant has begun or after it is done. -/
theorem Ask.isTerminal_phase (a : Ask) : a.phase.isTerminal = false := by
  cases a <;> rfl

/-- Failing is possible until the operation is over. -/
theorem Phase.step_fail {p : Phase} (h : p.isTerminal = false) :
    p.step .fail = .ok (.failed, some p) := by
  cases p with
  | succeeded => cases h
  | failed => cases h
  | _ => rfl

/-- A participant that is cut off at work has failed in the phase it was in. -/
theorem Run.outcome?_of_expired {r : Run σ} (hend : r.ending = .expired)
    (hphase : r.machine.phase.isTerminal = false) (action : Action) (p : String) :
    ∃ o, r.outcome? action p = some o ∧ o.participant = p ∧ o.status = .failed
      ∧ o.error = some (.timeout s!"{p} did not finish in phase {r.machine.phase.name}")
      ∧ o.failedAt = some r.machine.phase := by
  unfold Run.outcome? Run.result?
  rw [hend]
  refine ⟨_, rfl, rfl, rfl, rfl, ?_⟩
  show (r.machine.advance .fail).2 = _
  rw [Machine.advance_of_step (Phase.step_fail hphase)]

end NetworkSlice
