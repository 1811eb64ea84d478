import NetworkSlice.Service
import NetworkSlice.Proofs.Clock
import NetworkSlice.Proofs.Operation.Report
import NetworkSlice.Proofs.Operation.Turns
import NetworkSlice.Proofs.Plan.Steps

/-
What carrying out a request comes to, step by step.

A request is refused, or its timeout outlasts the clock, or its plan is carried
out (`execute_cases`); and then the wait for the listing decides. The lemmas here
say what the result is in each case and are the only ones that open
`Service.execute` and `Service.carryOut`. After them everything is a matter of
the runs: which work each is of (`run_of_carryOut`), and whether all of them end
(`carryOut_endless_iff`). Runs count their time from the start, and so does their
deadline; on the clock it is the instant that was asked for (`deadline_of_after?`).
-/
namespace NetworkSlice.Service

variable {σ : Type} {s : Settings} {m : Method} {r : Request} {plan : Plan} {start : Instant}
  {list : Lister} {clusters : String → Cluster σ} {states : String → σ}

-- ============================================================ requests

/-- The clock goes up to the deadline unless the timeout outlasts it. -/
theorem hasInstant_eq_false_iff : hasInstant s start = false ↔ s.OutlastsClock start := by
  unfold hasInstant Settings.OutlastsClock
  cases s.operationTimeout with
  | none => simp
  | some d => simp [Instant.after?_eq_none_iff]

/-- The deadline is as long after the start as the instant that the clock reads
then. -/
theorem deadline_of_after? {d : Duration} {u : Instant} (htimeout : s.operationTimeout = some d)
    (hu : start.after? d = some u) : deadline s = some (u.toNanos - start.toNanos) := by
  rw [Instant.after?_eq_some_iff] at hu
  rw [deadline, htimeout, hu, Nat.add_sub_cancel_left]
  rfl

/-- A request that cannot be planned is refused. -/
theorem execute_of_error {e : SliceError}
    (h : (Composer.ofSettings s).plan r.slice m.scope = .error e) :
    execute s m r start list clusters states = .uninvolved (.refused e) := by
  unfold execute
  rw [h]

/-- A request that can be planned is carried out, if the clock can keep its
timeout. -/
theorem execute_of_ok (h : (Composer.ofSettings s).plan r.slice m.scope = .ok plan)
    (hclock : ¬s.OutlastsClock start) :
    execute s m r start list clusters states = carryOut s m r plan list clusters states := by
  have hinstant : hasInstant s start = true := by
    rw [← hasInstant_eq_false_iff, Bool.not_eq_false] at hclock
    exact hclock
  unfold execute
  rw [h]
  exact if_pos hinstant

/-- And if it cannot, that is the end of it. -/
theorem execute_of_outlastsClock (h : (Composer.ofSettings s).plan r.slice m.scope = .ok plan)
    (hclock : s.OutlastsClock start) :
    execute s m r start list clusters states = .uninvolved .noInstant := by
  have hinstant : hasInstant s start = false := hasInstant_eq_false_iff.mpr hclock
  unfold execute
  rw [h]
  exact if_neg (Bool.eq_false_iff.mp hinstant)

/-- So what can be planned is carried out or has no instant. -/
theorem execute_of_plan (h : (Composer.ofSettings s).plan r.slice m.scope = .ok plan)
    (start : Instant) (list : Lister) (clusters : String → Cluster σ) (states : String → σ) :
    execute s m r start list clusters states = .uninvolved .noInstant
      ∨ execute s m r start list clusters states = carryOut s m r plan list clusters states := by
  by_cases hclock : s.OutlastsClock start
  · exact Or.inl (execute_of_outlastsClock h hclock)
  · exact Or.inr (execute_of_ok h hclock)

/-- There is no fourth case. -/
theorem execute_cases (s : Settings) (m : Method) (r : Request) (start : Instant) (list : Lister)
    (clusters : String → Cluster σ) (states : String → σ) :
    (∃ e, (Composer.ofSettings s).plan r.slice m.scope = .error e
        ∧ execute s m r start list clusters states = .uninvolved (.refused e))
      ∨ ∃ plan, (Composer.ofSettings s).plan r.slice m.scope = .ok plan
        ∧ ((s.OutlastsClock start
            ∧ execute s m r start list clusters states = .uninvolved .noInstant)
          ∨ (¬s.OutlastsClock start
            ∧ execute s m r start list clusters states
              = carryOut s m r plan list clusters states)) := by
  cases hplan : (Composer.ofSettings s).plan r.slice m.scope with
  | error e => exact Or.inl ⟨e, rfl, execute_of_error hplan⟩
  | ok plan =>
      refine Or.inr ⟨plan, rfl, ?_⟩
      by_cases hclock : s.OutlastsClock start
      · exact Or.inl ⟨hclock, execute_of_outlastsClock hplan hclock⟩
      · exact Or.inr ⟨hclock, execute_of_ok hplan hclock⟩

/-- So wherever there are runs, a plan is carried out. -/
theorem run_of_execute {p : String} {run : Run σ}
    (h : (p, run) ∈ (execute s m r start list clusters states).runs) :
    ∃ plan, (Composer.ofSettings s).plan r.slice m.scope = .ok plan
      ∧ (p, run) ∈ (carryOut s m r plan list clusters states).runs := by
  obtain ⟨e, -, hresult⟩ | ⟨plan, hplan, ⟨-, hresult⟩ | ⟨-, hresult⟩⟩ :=
    execute_cases s m r start list clusters states
  · rw [hresult] at h
    cases h
  · rw [hresult] at h
    cases h
  · rw [hresult] at h
    exact ⟨plan, hplan, h⟩

-- ======================================================== after the listing

theorem carryOut_of_none (h : vault? s r list = none) :
    carryOut s m r plan list clusters states = ⟨.endless, [listingAsk s list], none⟩ := by
  unfold carryOut
  rw [h]

theorem carryOut_of_some {v : Vault} {now : Nat} (h : vault? s r list = some (v, now)) :
    carryOut s m r plan list clusters states
      = ⟨conclude m r (operate s m r plan clusters states v now), [listingAsk s list],
          some (operate s m r plan clusters states v now)⟩ := by
  unfold carryOut
  rw [h]

/-- A vault is what the listing loads, when it is there; if it does not come in
time, it is a vault without credentials. -/
theorem vault?_eq_some {v : Vault} {now : Nat} (h : vault? s r list = some (v, now)) :
    (listingWait s list = .ready now
        ∧ v = .load s.credentialSelector
          (list s.credentialSelector s.credentialDataKey).listing r.slice.participants)
      ∨ (listingWait s list = .expired now ∧ v = .unavailable listingTimeout) := by
  unfold vault? at h
  split at h
  · next time hwait =>
      injection h with h
      injection h with hv hnow
      subst hnow
      exact Or.inl ⟨hwait, hv.symm⟩
  · next time hwait =>
      injection h with h
      injection h with hv hnow
      subst hnow
      exact Or.inr ⟨hwait, hv.symm⟩
  · cases h

/-- There is a vault unless the wait for the listing is endless. -/
theorem vault?_eq_none_iff :
    vault? s r list = none ↔ s.operationTimeout = none ∧ (listingAsk s list).answered = none := by
  unfold vault? listingAsk
  dsimp only
  cases hwait : listingWait s list with
  | ready time =>
      constructor
      · intro h; cases h
      · rintro ⟨-, h⟩; cases h
  | expired time =>
      constructor
      · intro h; cases h
      · rintro ⟨h, -⟩
        obtain ⟨limit, hlimit, -⟩ := Wait.until_expired hwait
        unfold deadline at hlimit
        rw [h] at hlimit
        cases hlimit
  | endless =>
      refine ⟨fun _ => ⟨?_, rfl⟩, fun _ => rfl⟩
      exact Option.map_eq_none_iff.mp (Wait.until_endless hwait).1

/-- One listing is asked for, at once. -/
theorem carryOut_listings :
    (carryOut s m r plan list clusters states).listings = [listingAsk s list] := by
  cases h : vault? s r list with
  | none => rw [carryOut_of_none h]
  | some v => rw [carryOut_of_some h]

-- ================================================================= runs

theorem run_of_operate {v : Vault} {now : Nat} {p : String} {run : Run σ}
    (h : (p, run) ∈ (operate s m r plan clusters states v now).runs) :
    ∃ q ∈ plan.participants, q.participant = p
      ∧ run = Run.ofPlan ((clusters p).site v p) (deadline s) now (states p) m.action
          (s.namespaceOrDefault r.namespaceName) q := by
  obtain ⟨q, hq, heq⟩ := List.mem_map.mp h
  injection heq with hp hrun
  subst hp
  exact ⟨q, hq, rfl, hrun.symm⟩

/-- Every run is of the work for a participant of the plan, with the vault of
the request. -/
theorem run_of_carryOut {p : String} {run : Run σ}
    (h : (p, run) ∈ (carryOut s m r plan list clusters states).runs) :
    ∃ v now, vault? s r list = some (v, now) ∧ ∃ q ∈ plan.participants, q.participant = p
      ∧ run = Run.ofPlan ((clusters p).site v p) (deadline s) now (states p) m.action
          (s.namespaceOrDefault r.namespaceName) q := by
  cases hv : vault? s r list with
  | none =>
      rw [carryOut_of_none hv] at h
      cases h
  | some v =>
      rw [carryOut_of_some hv] at h
      exact ⟨v.1, v.2, rfl, run_of_operate h⟩

/-- Something is asked for and never answered. -/
def Result.Unanswered (result : Result σ) : Prop :=
  (∃ l ∈ result.listings, l.answered = none)
    ∨ ∃ p run x, (p, run) ∈ result.runs ∧ x ∈ run.trace ∧ x.answered = none

/-- Where nobody is asked anything, nothing is waited for. -/
theorem not_unanswered_uninvolved (e : Ending) : ¬(Result.uninvolved e : Result σ).Unanswered := by
  rintro (⟨l, hl, -⟩ | ⟨p, run, x, hrun, -, -⟩)
  · cases hl
  · cases hrun

/-- There is no response when there is no report. -/
theorem conclude_eq_endless_iff {op : Operation σ} :
    conclude m r op = .endless ↔ op.report? = none := by
  unfold conclude
  split
  · next h => exact ⟨fun _ => h, fun _ => rfl⟩
  · next report h =>
      rw [h]
      exact ⟨(fun h => nomatch h), (fun h => nomatch h)⟩

/-- A planned request has a response unless something is never answered and
there is no deadline. -/
theorem carryOut_endless_iff :
    (carryOut s m r plan list clusters states).ending = .endless
      ↔ s.operationTimeout = none ∧ (carryOut s m r plan list clusters states).Unanswered := by
  cases hv : vault? s r list with
  | none =>
      obtain ⟨htimeout, hanswered⟩ := vault?_eq_none_iff.mp hv
      rw [carryOut_of_none hv]
      exact ⟨fun _ => ⟨htimeout, Or.inl ⟨_, List.mem_singleton_self _, hanswered⟩⟩, fun _ => rfl⟩
  | some v =>
      obtain ⟨v, now⟩ := v
      have hvault : ¬(s.operationTimeout = none ∧ (listingAsk s list).answered = none) := by
        rw [← vault?_eq_none_iff (r := r), hv]
        exact Option.some_ne_none _
      unfold Result.Unanswered
      rw [carryOut_listings, carryOut_of_some hv]
      rw [show conclude m r _ = _ ↔ _ from conclude_eq_endless_iff, Operation.report?_eq_none_iff]
      constructor
      · rintro ⟨⟨p, run⟩, hrun, hend⟩
        obtain ⟨q, -, -, rfl⟩ := run_of_operate hrun
        obtain ⟨hdeadline, x, hx, hnone⟩ := (Run.endless_iff _ _ _ _ _ _).mp hend
        exact ⟨Option.map_eq_none_iff.mp hdeadline, Or.inr ⟨p, _, x, hrun, hx, hnone⟩⟩
      · rintro ⟨htimeout, ⟨l, hl, hnone⟩ | ⟨p, run, x, hrun, hx, hnone⟩⟩
        · rw [List.mem_singleton.mp hl] at hnone
          exact absurd ⟨htimeout, hnone⟩ hvault
        · refine ⟨(p, run), hrun, ?_⟩
          obtain ⟨q, -, -, rfl⟩ := run_of_operate hrun
          refine (Run.endless_iff _ _ _ _ _ _).mpr ⟨?_, x, hx, hnone⟩
          rw [deadline, htimeout]
          rfl

/-- A planned request is not refused. -/
theorem ending_of_carryOut (s : Settings) (m : Method) (r : Request) (plan : Plan)
    (list : Lister) (clusters : String → Cluster σ) (states : String → σ) :
    (carryOut s m r plan list clusters states).ending = .endless
      ∨ ∃ response, (carryOut s m r plan list clusters states).ending = .answered response := by
  cases hv : vault? s r list with
  | none =>
      rw [carryOut_of_none hv]
      exact Or.inl rfl
  | some v =>
      obtain ⟨v, now⟩ := v
      rw [carryOut_of_some hv]
      show conclude m r _ = _ ∨ ∃ response, conclude m r _ = _
      unfold conclude
      split
      · exact Or.inl rfl
      · exact Or.inr ⟨_, rfl⟩

/-- The response to a planned request tells the outcomes of the runs. -/
theorem report_of_answered {response : Response}
    (h : (carryOut s m r plan list clusters states).ending = .answered response) :
    ∃ report, response = ⟨summarize m report, report.outcomes, m.patches r.slice.name⟩
      ∧ ((carryOut s m r plan list clusters states).runs.map fun x =>
          x.2.outcome? m.action x.1) = report.outcomes.map some
      ∧ (carryOut s m r plan list clusters states).runs.map Prod.fst
        = plan.participants.map ParticipantPlan.participant := by
  cases hv : vault? s r list with
  | none =>
      rw [carryOut_of_none hv] at h
      cases h
  | some v =>
      obtain ⟨v, now⟩ := v
      rw [carryOut_of_some hv] at h ⊢
      replace h : conclude m r (operate s m r plan clusters states v now) = _ := h
      unfold conclude at h
      split at h
      · cases h
      · next report hreport =>
          injection h with h
          exact ⟨report, h.symm, Operation.outcomes_of_report? hreport, List.map_map⟩

end NetworkSlice.Service
