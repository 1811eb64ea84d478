import NetworkSlice.Proofs.Operation.Phases

/-
A run with a deadline and the same run without.

Up to the deadline the two are the same. If the run without is done by then
(`InTime`), the deadline makes no difference at all. If it is not, there is
one request that it waits for at the deadline, made by then and not answered
by then, and the run with the deadline is the other up to this request, which
it gives up (`CutOff`). `deadline_cases` says that there is no third case.

The proof goes along the work. A request that is answered by the deadline is
answered alike in both runs, so the rest decides. The first that is not is the
one that is given up; all that the run without deadline does later, it does
after the answer, which is after the deadline (`le_asked`).
-/
namespace NetworkSlice

/-- The request is made by a time, and not answered yet. -/
def Exchange.PendingAt (x : Exchange) (time : Nat) : Prop :=
  x.asked ≤ time ∧ ∀ t, x.answered = some t → time < t

/-- The request without its answer. -/
def Exchange.givenUp (x : Exchange) : Exchange := { x with answered := none }

namespace Run

variable {σ : Type} {limit : Nat}

/-- The run is done by a time. -/
def InTime (r : Run σ) (time : Nat) : Prop :=
  (∃ result, r.ending = .finished result) ∧ r.time ≤ time

/-- `r` is the run `a` up to the request `x`, which is pending at the limit. -/
structure CutOff (limit : Nat) (x : Exchange) (a r : Run σ) : Prop where
  pending : x.PendingAt limit
  /-- What was asked by the limit, and then given up. -/
  trace : ∃ before after, a.trace = before ++ x :: after ∧ r.trace = before ++ [x.givenUp]
    ∧ (∀ e ∈ before, e.asked ≤ limit) ∧ ∀ e ∈ after, limit < e.asked
  ending : r.ending = .expired
  time : r.time = limit
  phase : r.machine.phase = x.phase

/-- A run ends no earlier than it begins. -/
theorem le_time (site : Site σ) (deadline : Option Nat) (work : Work) (state : σ) (now : Nat)
    (m : Machine) : now ≤ (Run.work site deadline now m state work).time := by
  induction work, state using turns site generalizing now m with
  | done result state => exact Nat.le_refl now
  | enter input rest state ih => exact ih now (m.advance input).1
  | turn work state t ht ih =>
      rw [work_of_turn ht]
      split
      · next time hwait =>
          obtain ⟨d, -, rfl⟩ := Wait.until_ready hwait
          exact Nat.le_trans (Nat.le_add_right now d) (ih _ m)
      · next time hwait =>
          obtain ⟨limit, -, rfl⟩ := Wait.until_expired hwait
          exact Nat.le_max_left now limit
      · exact Nat.le_refl now

/-- Two runs that are cut off are still so after the same request. -/
theorem CutOff.after {x : Exchange} {a r : Run σ} (h : CutOff limit x a r) {e : Exchange}
    (he : e.asked ≤ limit) : CutOff limit x (a.after e) (r.after e) := by
  obtain ⟨before, after, hsplit, htrace, hbefore, hafter⟩ := h.trace
  refine ⟨h.pending, ⟨e :: before, after, ?_, ?_, ?_, hafter⟩, h.ending, h.time, h.phase⟩
  · exact congrArg (List.cons e) hsplit
  · exact congrArg (List.cons e) htrace
  · intro e' he'
    rcases List.mem_cons.mp he' with rfl | he'
    · exact he
    · exact hbefore e' he'

/-- What the machine is told before makes no difference to that. -/
theorem CutOff.told {x : Exchange} {a r : Run σ} (h : CutOff limit x a r) (input : PhaseInput) :
    CutOff limit x (a.told input) (r.told input) :=
  ⟨h.pending, h.trace, h.ending, h.time, h.phase⟩

/-- A run with a deadline is the run without, if that is done by then, and
else it is cut off. -/
theorem deadline_cases (site : Site σ) (work : Work) (state : σ) (now : Nat) (m : Machine)
    (hnow : now ≤ limit) :
    (InTime (Run.work site none now m state work) limit
        ∧ Run.work site (some limit) now m state work = Run.work site none now m state work)
      ∨ (¬InTime (Run.work site none now m state work) limit
        ∧ ∃ x, CutOff limit x (Run.work site none now m state work)
          (Run.work site (some limit) now m state work)) := by
  induction work, state using turns site generalizing now m with
  | done result state => exact Or.inl ⟨⟨⟨result, rfl⟩, hnow⟩, rfl⟩
  | enter input rest state ih =>
      rcases ih now (m.advance input).1 hnow with ⟨hin, heq⟩ | ⟨hout, x, hcut⟩
      · exact Or.inl ⟨hin, congrArg (fun r => told r input) heq⟩
      · exact Or.inr ⟨hout, x, hcut.told input⟩
  | turn work state t ht ih =>
      by_cases hby : ∃ d, t.after = some d ∧ now + d ≤ limit
      · -- answered by the deadline: the rest decides
        obtain ⟨d, hd, hle⟩ := hby
        rw [work_of_turn ht, work_of_turn ht, hd, Wait.until_of_le hle]
        dsimp only [Wait.until]
        rcases ih (now + d) m hle with ⟨hin, heq⟩ | ⟨hout, x, hcut⟩
        · exact Or.inl ⟨hin, congrArg (fun r => after r _) heq⟩
        · exact Or.inr ⟨hout, x, hcut.after hnow⟩
      · -- not answered by the deadline: this is the request that is given up
        have hlate : ∀ d, t.after = some d → limit < now + d := by
          intro d hd
          exact Nat.lt_of_not_le fun h => hby ⟨d, hd, h⟩
        right
        rw [show Run.work site (some limit) now m state work = _ from work_of_turn ht,
          Wait.until_of_lt hnow hlate, work_of_turn ht]
        cases hd : t.after with
        | none =>
            refine ⟨?_, _, ⟨hnow, ?_⟩, ⟨[], [], rfl, rfl, ?_, ?_⟩, rfl, rfl, rfl⟩
            · rintro ⟨⟨result, h⟩, -⟩; cases h
            · intro time h; cases h
            · intro e he; cases he
            · intro e he; cases he
        | some d =>
            have hlt := hlate d hd
            refine ⟨?_, _, ⟨hnow, ?_⟩, ⟨[], _, rfl, rfl, ?_, ?_⟩, rfl, rfl, rfl⟩
            · rintro ⟨-, h⟩
              have hge := le_time site none t.rest t.state (now + d) m
              exact absurd (Nat.le_trans hge h) (Nat.not_le.mpr hlt)
            · intro time h
              injection h with h
              exact h ▸ hlt
            · intro e he; cases he
            · intro e he
              exact Nat.lt_of_lt_of_le hlt (le_asked site none t.rest t.state (now + d) m e he)

/-- What a deadline makes of the work for a participant: nothing, if it would
be done by then, and else a failure in the phase of the request that would be
pending. -/
theorem ofPlan_deadline (site : Site σ) (state : σ) {now : Nat} (action : Action) (ns : String)
    (q : ParticipantPlan) (hnow : now ≤ limit) {a r : Run σ}
    (ha : a = ofPlan site none now state action ns q)
    (hr : r = ofPlan site (some limit) now state action ns q) :
    (InTime a limit → r = a)
      ∧ (¬InTime a limit → ∃ x o, CutOff limit x a r ∧ x.phase = x.ask.phase
        ∧ r.outcome? action q.participant = some o ∧ o.status = .failed
        ∧ o.error = some (.timeout s!"{q.participant} did not finish in phase {x.phase.name}")
        ∧ o.failedAt = some x.phase) := by
  subst ha hr
  have hcases := deadline_cases site (.ofPlan action ns q) state now (.start .pending) hnow
  constructor
  · intro hin
    rcases hcases with ⟨-, heq⟩ | ⟨hout, -⟩
    · exact heq
    · exact absurd hin hout
  · intro hout
    rcases hcases with ⟨hin, -⟩ | ⟨-, x, hcut⟩
    · exact absurd hin hout
    · have hask : x.phase = x.ask.phase := by
        obtain ⟨before, after, hsplit, -⟩ := hcut.trace
        apply phase_of_inPhase none _ state now (.start .pending) (Work.ofPlan_inPhase action ns q)
        rw [hsplit]
        exact List.mem_append_right before List.mem_cons_self
      have hterminal : x.phase.isTerminal = false := by
        rw [hask]
        exact Ask.isTerminal_phase x.ask
      rw [← hcut.phase] at hterminal
      obtain ⟨o, ho, -, hstatus, herror, hfailedAt⟩ :=
        outcome?_of_expired hcut.ending hterminal action q.participant
      rw [hcut.phase] at herror hfailedAt
      exact ⟨x, o, hcut, hask, ho, hstatus, herror, hfailedAt⟩

end Run

end NetworkSlice
