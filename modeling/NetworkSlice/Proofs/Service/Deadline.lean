import NetworkSlice.Cluster.Rehearsal
import NetworkSlice.Proofs.Operation.Deadline
import NetworkSlice.Proofs.Service.Steps

/-
The deadline of a request.

There is one deadline, counted from the time the plan is there, and it is for
the listing and the clusters alike. If the listing is late, nobody has
credentials, so all participants fail while authenticating
(`ofPlan_of_resolve_error`). If it is not, the clusters begin when it is there,
with the deadline and without, and what is left of the deadline is theirs: the
rest is the comparison of two runs (`Run.ofPlan_deadline`).
-/
namespace NetworkSlice

/-- The settings without a deadline. -/
def Settings.unlimited (s : Settings) : Settings := { s with operationTimeout := none }

namespace Service

variable {σ : Type} {s : Settings} {m : Method} {r : Request} {plan : Plan} {start : Instant}
  {list : Lister} {clusters : String → Cluster σ} {states : String → σ} {d : Duration}

-- ============================================================ a late listing

/-- A listing that comes after the deadline is not waited for. -/
theorem vault?_of_late (htimeout : s.operationTimeout = some d)
    (hlate : ∀ t, (list s.credentialSelector s.credentialDataKey).after = some t → d.toNanos < t) :
    vault? s r list = some (.unavailable listingTimeout, d.toNanos) := by
  have hwait : listingWait s list = .expired d.toNanos := by
    unfold listingWait deadline
    rw [htimeout]
    refine Wait.until_of_lt (Nat.zero_le _) ?_
    intro t ht
    rw [Nat.zero_add]
    exact hlate t ht
  unfold vault?
  rw [hwait]

/-- Half a millisecond is over before a listing that takes a whole one. -/
example (r : Request) (listing : Listing) :
    vault? { Settings.standard with operationTimeout := some ⟨0, 500000, by decide⟩ } r
      (fun _ _ => ⟨some 1000000, listing⟩) = some (.unavailable listingTimeout, 500000) := by
  cbv

/-- A participant without credentials fails while authenticating, for that
reason or because finding out took too long, and does not connect. It may have
to wait for ever only where there is no deadline and no end to the lookup. -/
theorem ofPlan_of_resolve_error (c : Cluster σ) {v : Vault} {p : String} {e : SliceError}
    (hv : v.resolve p = .error e) (deadline : Option Nat) (now : Nat) (state : σ)
    (action : Action) (ns : String) (q : ParticipantPlan) {run : Run σ}
    (hrun : run = Run.ofPlan (c.site v p) deadline now state action ns q) :
    (∀ o, run.outcome? action p = some o →
        o.status = .failed ∧ (o.error = some e ∨ ∃ text, o.error = some (.timeout text))
          ∧ o.failedAt = some .authenticating)
      ∧ (∀ x ∈ run.trace, x.ask = .resolve)
      ∧ (run.ending = .endless → c.lookup state = none) := by
  obtain ⟨work, hplan, hturn⟩ : ∃ work, Work.ofPlan action ns q = .enter .authenticate work
      ∧ (c.site v p).turn? state work
        = some ⟨.resolve, c.lookup state, state, state, .done (.error e)⟩ := by
    refine ⟨_, rfl, ?_⟩
    simp only [Site.turn?, Cluster.site, hv]
  rw [Run.ofPlan, hplan, Run.work, Run.work_of_turn hturn] at hrun
  split at hrun
  · -- the lookup ends, and finds why there are no credentials
    subst hrun
    refine ⟨?_, ?_, fun h => nomatch h⟩
    · intro o ho
      injection ho with ho
      subst ho
      exact ⟨rfl, Or.inl rfl, rfl⟩
    · intro x hx
      rw [List.mem_singleton.mp hx]
  · -- the lookup does not end in time
    subst hrun
    refine ⟨?_, ?_, fun h => nomatch h⟩
    · intro o ho
      injection ho with ho
      subst ho
      exact ⟨rfl, Or.inr ⟨_, rfl⟩, rfl⟩
    · intro x hx
      rw [List.mem_singleton.mp hx]
  · -- the lookup never ends
    next hwait =>
      subst hrun
      refine ⟨(fun o ho => nomatch ho), ?_, fun _ => (Wait.until_endless hwait).2⟩
      intro x hx
      rw [List.mem_singleton.mp hx]

/-- So every participant runs out of time after a late listing. -/
theorem run_of_late (htimeout : s.operationTimeout = some d)
    (hlate : ∀ t, (list s.credentialSelector s.credentialDataKey).after = some t → d.toNanos < t)
    {p : String} {run : Run σ} (h : (p, run) ∈ (carryOut s m r plan list clusters states).runs) :
    (∀ o, run.outcome? m.action p = some o →
        o.status = .failed ∧ (∃ text, o.error = some (.timeout text))
          ∧ o.failedAt = some .authenticating)
      ∧ ∀ x ∈ run.trace, x.ask = .resolve := by
  obtain ⟨v, now, hv, q, -, rfl, hrun⟩ := run_of_carryOut h
  rw [vault?_of_late htimeout hlate] at hv
  injection hv with hv
  injection hv with hv hnow
  subst hv hnow
  have hnone : (Vault.unavailable listingTimeout).resolve q.participant = .error listingTimeout :=
    rfl
  obtain ⟨houtcome, htrace, -⟩ := ofPlan_of_resolve_error _ hnone _ _ _ _ _ q hrun
  refine ⟨?_, htrace⟩
  intro o ho
  obtain ⟨hstatus, herror | herror, hfailedAt⟩ := houtcome o ho
  · exact ⟨hstatus, ⟨_, herror⟩, hfailedAt⟩
  · exact ⟨hstatus, herror, hfailedAt⟩

-- ========================================================= a listing in time

/-- A listing that comes by the deadline is waited for. -/
theorem vault?_of_le {t : Nat} (htimeout : s.operationTimeout = some d)
    (ht : (list s.credentialSelector s.credentialDataKey).after = some t) (hle : t ≤ d.toNanos) :
    vault? s r list = some (.load s.credentialSelector
      (list s.credentialSelector s.credentialDataKey).listing r.slice.participants, t) := by
  have hwait : listingWait s list = .ready t := by
    unfold listingWait deadline
    rw [htimeout, ht]
    refine (Wait.until_of_le ?_).trans (congrArg Wait.ready (Nat.zero_add t))
    rw [Nat.zero_add]
    exact hle
  unfold vault?
  rw [hwait]

/-- Without a deadline every listing that comes is waited for. -/
theorem vault?_unlimited {t : Nat}
    (ht : (list s.credentialSelector s.credentialDataKey).after = some t) :
    vault? s.unlimited r list = some (.load s.credentialSelector
      (list s.credentialSelector s.credentialDataKey).listing r.slice.participants, t) := by
  have hwait : listingWait s.unlimited list = .ready t := by
    show Wait.until none 0 (list s.credentialSelector s.credentialDataKey).after = _
    rw [ht]
    exact congrArg Wait.ready (Nat.zero_add t)
  unfold vault?
  rw [hwait]
  rfl

-- ================================================================ both

/-- The run of a participant at its place. -/
theorem getElem?_runs (m : Method) (clusters : String → Cluster σ) (states : String → σ)
    {v : Vault} {now : Nat} (h : vault? s r list = some (v, now)) {i : Nat}
    {q : ParticipantPlan} (hq : plan.participants[i]? = some q) :
    (carryOut s m r plan list clusters states).runs[i]?
      = some (q.participant, Run.ofPlan ((clusters q.participant).site v q.participant)
          (deadline s) now (states q.participant) m.action
          (s.namespaceOrDefault r.namespaceName) q) := by
  rw [carryOut_of_some h]
  show (plan.participants.map _)[i]? = _
  rw [List.getElem?_map, hq]
  rfl

/-- After a listing in time a participant has the run it would have without a
deadline, up to the deadline. -/
theorem runs_of_le (m : Method) (r : Request) (clusters : String → Cluster σ)
    (states : String → σ) {t : Nat} (htimeout : s.operationTimeout = some d)
    (ht : (list s.credentialSelector s.credentialDataKey).after = some t) (hle : t ≤ d.toNanos)
    {i : Nat} {q : ParticipantPlan} (hq : plan.participants[i]? = some q) :
    ∃ a run,
      (carryOut s.unlimited m r plan list clusters states).runs[i]? = some (q.participant, a)
      ∧ (carryOut s m r plan list clusters states).runs[i]? = some (q.participant, run)
      ∧ (a.InTime d.toNanos → run = a)
      ∧ (¬a.InTime d.toNanos → ∃ x o, Run.CutOff d.toNanos x a run ∧ x.phase = x.ask.phase
        ∧ run.outcome? m.action q.participant = some o ∧ o.status = .failed
        ∧ o.error = some (.timeout s!"{q.participant} did not finish in phase {x.phase.name}")
        ∧ o.failedAt = some x.phase) := by
  have hdeadline : deadline s = some d.toNanos := by
    unfold deadline
    rw [htimeout]
    rfl
  have hrun := getElem?_runs m clusters states (vault?_of_le (r := r) htimeout ht hle) hq
  have hfree := getElem?_runs m clusters states (vault?_unlimited (s := s) (r := r) ht) hq
  rw [hdeadline] at hrun
  exact ⟨_, _, hfree, hrun, Run.ofPlan_deadline _ _ _ _ _ hle rfl rfl⟩

/-- The listing and the clusters share one deadline. If the listing is late,
all participants are out of time while authenticating and none connects. If it
is not, then a participant that would be done by the deadline without one has
the very same run; and one that would not is cut off, at the request that
would be pending, and told the phase it was in. -/
theorem execute_deadline {result free : Result σ}
    (hplan : (Composer.ofSettings s).plan r.slice m.scope = .ok plan)
    (htimeout : s.operationTimeout = some d) (hclock : ¬s.OutlastsClock start)
    (hresult : execute s m r start list clusters states = result)
    (hfree : execute s.unlimited m r start list clusters states = free) :
    ∃ response, result.ending = .answered response
      ∧ response.outcomes.map Outcome.participant = r.slice.names
      ∧ ((∀ t, (list s.credentialSelector s.credentialDataKey).after = some t → d.toNanos < t) →
          (∀ o ∈ response.outcomes, o.status = .failed ∧ (∃ text, o.error = some (.timeout text))
            ∧ o.failedAt = some .authenticating)
          ∧ ∀ p run x, (p, run) ∈ result.runs → x ∈ run.trace → x.ask = .resolve)
      ∧ ∀ t, (list s.credentialSelector s.credentialDataKey).after = some t → t ≤ d.toNanos →
          ∀ (i : Nat) (q : ParticipantPlan), plan.participants[i]? = some q →
            ∃ a run o, free.runs[i]? = some (q.participant, a)
              ∧ result.runs[i]? = some (q.participant, run) ∧ response.outcomes[i]? = some o
              ∧ (a.InTime d.toNanos → run = a ∧ a.outcome? m.action q.participant = some o)
              ∧ (¬a.InTime d.toNanos → ∃ x, Run.CutOff d.toNanos x a run ∧ x.phase = x.ask.phase
                ∧ o.status = .failed
                ∧ o.error
                  = some (.timeout s!"{q.participant} did not finish in phase {x.phase.name}")
                ∧ o.failedAt = some x.phase) := by
  have hunlimited : ¬s.unlimited.OutlastsClock start := Settings.not_outlastsClock_of_none rfl start
  rw [execute_of_ok hplan hclock] at hresult
  rw [execute_of_ok (s := s.unlimited) hplan hunlimited] at hfree
  subst hresult hfree
  obtain ⟨response, hend⟩ : ∃ response,
      (carryOut s m r plan list clusters states).ending = .answered response := by
    rcases ending_of_carryOut s m r plan list clusters states with hend | hend
    · rw [carryOut_endless_iff, htimeout] at hend
      cases hend.1
    · exact hend
  obtain ⟨report, rfl, houtcomes, hnames⟩ := report_of_answered hend
  refine ⟨_, hend, ?_, ?_, ?_⟩
  · exact ((Operation.names_of_outcomes houtcomes).trans hnames).trans (Composer.plan_names hplan)
  · intro hlate
    constructor
    · intro o ho
      obtain ⟨⟨p, run⟩, hrun, houtcome⟩ := Operation.exists_run_of_outcomes houtcomes ho
      exact (run_of_late htimeout hlate hrun).1 o houtcome
    · intro p run x hrun hx
      exact (run_of_late htimeout hlate hrun).2 x hx
  · intro t ht hle i q hq
    obtain ⟨a, run, hfree, hrun, hin, hout⟩ :=
      runs_of_le m r clusters states htimeout ht hle hq
    have ho := congrArg (fun l => l[i]?) houtcomes
    simp only [List.getElem?_map, hrun, Option.map_some] at ho
    obtain ⟨o, hget, ho⟩ := Option.map_eq_some_iff.mp ho.symm
    refine ⟨a, run, o, hfree, hrun, hget, ?_, ?_⟩
    · intro h
      exact ⟨hin h, hin h ▸ ho.symm⟩
    · intro h
      obtain ⟨x, o', hcut, hask, ho', hrest⟩ := hout h
      rw [← ho] at ho'
      injection ho' with ho'
      exact ⟨x, hcut, hask, ho' ▸ hrest⟩

/-- A request for one cluster, with what it takes to reach it. -/
def soleRequest : Request :=
  ⟨"", Slice.named "blue" [
    { Participant.named "north" "north-gate" "10.0.0.1" with
      auth := some ⟨"https://north", "token"⟩ }]⟩

/-- The secrets it needs, after a while. -/
def slowSecrets : Lister := fun _ _ => ⟨some 10, .ok (Table.ofList [("north", [])])⟩

/-- A cluster that is reached, and then never answers. -/
def silent (_ : String) : Cluster Rehearsal.Memory :=
  Rehearsal.cluster { Behaviour.accepting with connectDelay := some 20, callDelay := none }

/-- What the clock reads after an hour and a half second. -/
def anHourIn : Instant := ⟨3600, 500000000, by decide, by decide⟩

/-- The request fails on its cluster, in the phase it waits in after a
minute. -/
theorem execute_deadline_soleRequest :
    ∃ (response : Response) (o : Outcome) (x : Exchange),
      (execute .standard .createNetwork soleRequest anHourIn slowSecrets silent
          fun _ => none).ending = .answered response
        ∧ response.outcomes[0]? = some o ∧ o.status = .failed ∧ o.failedAt = some x.phase
        ∧ x.PendingAt (Duration.ofSecs 60).toNanos := by
  have hok : ((Composer.ofSettings .standard).plan soleRequest.slice .network).isOk = true := by
    rfl
  cases hplan : (Composer.ofSettings .standard).plan soleRequest.slice .network with
  | error e => rw [hplan] at hok; cases hok
  | ok plan =>
      have hclock : ¬Settings.standard.OutlastsClock anHourIn :=
        Settings.not_outlastsClock_of_lt rfl (by decide +kernel)
      have hle : 10 ≤ (Duration.ofSecs 60).toNanos := by decide +kernel
      obtain ⟨response, hend, -, -, hintime⟩ := execute_deadline hplan rfl hclock
        (rfl : execute .standard .createNetwork soleRequest anHourIn slowSecrets silent
          (fun _ => none) = _)
        rfl
      have hlt : 0 < plan.participants.length := by
        rw [Composer.length_plan hplan]
        decide
      obtain ⟨a, run, o, hfree, -, ho, -, hout⟩ :=
        hintime 10 rfl hle 0 _ (List.getElem?_eq_getElem hlt)
      have hnever : ¬a.InTime (Duration.ofSecs 60).toNanos := by
        have hends : ((execute Settings.standard.unlimited .createNetwork soleRequest anHourIn
            slowSecrets silent fun _ => none).runs[0]?.map fun r => r.2.ending)
              = some .endless := by
          rfl
        rw [hfree] at hends
        replace hends : a.ending = .endless := Option.some.inj hends
        rintro ⟨⟨result, h⟩, -⟩
        rw [hends] at h
        cases h
      obtain ⟨x, hcut, -, hstatus, -, hfailedAt⟩ := hout hnever
      exact ⟨response, o, x, hend, ho, hstatus, hfailedAt, hcut.pending⟩

end Service

end NetworkSlice
