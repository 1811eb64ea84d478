import NetworkSlice.Operation.Report
import NetworkSlice.Proofs.Attempt

/-
What a report says of the runs it is about.

Every run that ends has one outcome, which names the participant, and only a
run that never ends has none. So there is a report exactly when all runs end,
and its outcomes are those of the runs, in the order of the plan.
-/
namespace NetworkSlice

variable {σ : Type} {action : Action} {p : String} {o : Outcome}

namespace Run

variable {r : Run σ}

/-- The outcome of a run names the participant. -/
theorem participant_of_outcome? (h : r.outcome? action p = some o) : o.participant = p := by
  obtain ⟨result, -, rfl⟩ := Option.map_eq_some_iff.mp h
  cases result with
  | ok message => rfl
  | error e => rfl

/-- Only a run that never ends has no outcome. -/
theorem outcome?_eq_none_iff : r.outcome? action p = none ↔ r.ending = .endless := by
  unfold outcome? result?
  cases r.ending with
  | finished result => simp
  | expired => simp
  | endless => simp

/-- The error of an outcome is what the run came to, or that it was cut
off. -/
theorem error_of_outcome? {e : SliceError} (h : r.outcome? action p = some o)
    (he : o.error = some e) :
    r.ending = .finished (.error e) ∨ ∃ text, e = .timeout text := by
  obtain ⟨result, hresult, rfl⟩ := Option.map_eq_some_iff.mp h
  cases result with
  | ok message => cases he
  | error e' =>
      injection he with he
      subst he
      unfold result? at hresult
      split at hresult
      · next result hending =>
          injection hresult with hresult
          exact Or.inl (hresult ▸ hending)
      · injection hresult with hresult
        injection hresult with hresult
        exact Or.inr ⟨_, hresult.symm⟩
      · cases hresult

end Run

namespace Operation

variable {op : Operation σ} {outcomes : List Outcome}

/-- There is a report of these outcomes when the runs end with them. -/
theorem report?_outcomes_iff :
    op.report?.map Report.outcomes = some outcomes
      ↔ (op.runs.map fun r => r.2.outcome? op.action r.1) = outcomes.map some := by
  rw [← mapM_eq_some_iff]
  unfold report?
  cases h : op.runs.mapM fun r => r.2.outcome? op.action r.1 with
  | none => exact Iff.rfl
  | some outcomes' => exact Iff.rfl

/-- The outcomes that runs end with have the names of the runs. -/
theorem names_of_outcomes {runs : List (String × Run σ)}
    (h : (runs.map fun r => r.2.outcome? action r.1) = outcomes.map some) :
    outcomes.map Outcome.participant = runs.map Prod.fst := by
  apply List.ext_getElem?
  intro i
  have hi := congrArg (fun l => l[i]?) h
  simp only [List.getElem?_map] at hi ⊢
  cases hr : runs[i]? with
  | none =>
      rw [hr] at hi
      rw [Option.map_eq_none_iff.mp hi.symm]
      rfl
  | some r =>
      rw [hr] at hi
      obtain ⟨o, hget, ho⟩ := Option.map_eq_some_iff.mp hi.symm
      rw [hget]
      exact congrArg some (Run.participant_of_outcome? ho.symm)

/-- There is no report when one of the runs never ends. -/
theorem report?_eq_none_iff :
    op.report? = none ↔ ∃ r ∈ op.runs, r.2.ending = .endless := by
  have hnone : op.report? = none ↔ (op.runs.mapM fun r => r.2.outcome? op.action r.1) = none := by
    unfold report?
    cases h : op.runs.mapM fun r => r.2.outcome? op.action r.1 with
    | none => exact ⟨fun _ => rfl, fun _ => rfl⟩
    | some outcomes' => exact ⟨(fun h => nomatch h), (fun h => nomatch h)⟩
  rw [hnone, mapM_eq_none_iff]
  simp only [Run.outcome?_eq_none_iff]

/-- The outcomes of a report are those of the runs. -/
theorem outcomes_of_report? {report : Report} (h : op.report? = some report) :
    (op.runs.map fun r => r.2.outcome? op.action r.1) = report.outcomes.map some :=
  report?_outcomes_iff.mp (by rw [h]; rfl)

/-- Every outcome that runs end with is that of one of them. -/
theorem exists_run_of_outcomes {runs : List (String × Run σ)}
    (h : (runs.map fun r => r.2.outcome? action r.1) = outcomes.map some) (ho : o ∈ outcomes) :
    ∃ r ∈ runs, r.2.outcome? action r.1 = some o := by
  have hmem : some o ∈ outcomes.map some := List.mem_map_of_mem ho
  rw [← h] at hmem
  exact List.mem_map.mp hmem

end Operation

end NetworkSlice
