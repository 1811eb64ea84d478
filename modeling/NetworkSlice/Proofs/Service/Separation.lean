import NetworkSlice.Cluster.Rehearsal
import NetworkSlice.Proofs.Credential.Vault
import NetworkSlice.Proofs.Operation.Conduct
import NetworkSlice.Proofs.Plan.Errors
import NetworkSlice.Proofs.Service.Steps

/-
Errors of a request and errors of a cluster.

The two never mix. Planning fails with errors of the request alone
(`plan_failsOnly`), and then nobody is asked anything. Work on a cluster ends
with errors of the cluster alone: `Allowed` and `ClusterFault` are the promise
that the work for a participant keeps whatever its cluster does, and so no
outcome holds an error of the request (`run_of_carryOut_keeps`). Connects need
credentials, and credentials need the listing, so none comes before it.

`execute_separates` puts the two sides together and adds what the response
says: one outcome for every participant, and a message that counts them.
-/
namespace NetworkSlice

-- ============================================================= the message

namespace Response

/-- The message when all goes well. -/
def success (m : Method) : String := s!"{m.subject} {m.verb} successfully"

/-- The message when something fails: how many did not, of how many, and the
names of those that did. -/
def tally (m : Method) (outcomes : List Outcome) : String :=
  let good := (outcomes.filter fun o => o.status ≠ .failed).length
  let bad := outcomes.filter fun o => o.status = .failed
  let names := ", ".intercalate (bad.map Outcome.participant)
  s!"{m.subject} {m.verb} on {good} of {outcomes.length} clusters; failed: {names}"

/-- The message says of the outcomes what they are. -/
structure Accurate (m : Method) (r : Response) : Prop where
  success_iff : r.message = success m ↔ ∀ o ∈ r.outcomes, o.status ≠ .failed
  tally_of_failed : (∃ o ∈ r.outcomes, o.status = .failed) → r.message = tally m r.outcomes

/-- The two are different texts. -/
theorem tally_ne_success (m : Method) (outcomes : List Outcome) :
    tally m outcomes ≠ success m := by
  intro h
  have hchars := congrArg String.toList h
  cases m <;> simp [tally, success, Method.subject, Method.verb, toString] at hchars

end Response

namespace Service

/-- The message for a report is the one or the other. -/
theorem summarize_accurate (m : Method) (report : Report) (patches : List WorkloadPatch) :
    Response.Accurate m ⟨summarize m report, report.outcomes, patches⟩ := by
  have hall : report.succeeded.length = report.outcomes.length
      ↔ ∀ o ∈ report.outcomes, o.status ≠ .failed := by
    unfold Report.succeeded
    rw [List.length_filter_eq_length_iff]
    simp [Outcome.isSuccess]
  have hsummary : summarize m report
      = if report.succeeded.length = report.outcomes.length then Response.success m
        else Response.tally m report.outcomes := by
    have hbad : (report.outcomes.filter fun o => o.status = .failed) = report.failed := by
      unfold Report.failed
      congr 1
      funext o
      simp [Outcome.isSuccess]
    unfold Response.tally
    rw [hbad]
    rfl
  by_cases hgood : report.succeeded.length = report.outcomes.length
  · rw [if_pos hgood] at hsummary
    refine ⟨⟨fun _ => hall.mp hgood, fun _ => hsummary⟩, ?_⟩
    rintro ⟨o, ho, hstatus⟩
    exact absurd hstatus (hall.mp hgood o ho)
  · rw [if_neg hgood] at hsummary
    refine ⟨⟨?_, fun h => absurd (hall.mpr h) hgood⟩, fun _ => hsummary⟩
    intro h
    exact absurd (hsummary.symm.trans h) (Response.tally_ne_success m report.outcomes)

-- ========================================================== the clusters

/-- An error that is not the request's. -/
abbrev ClusterFault (e : SliceError) : Prop := e.isRequestError = false

/-- What a participant may ask for: a connection with its own credentials, and
calls in the one namespace. -/
def Allowed (v : Vault) (participant namespaceName : String) : Ask → Prop
  | .resolve => True
  | .connect c => v.resolve participant = .ok c
  | .call r => r.namespaceName = namespaceName

end Service

/-- Connecting to the cluster fails only when it is out of reach. -/
def Cluster.FailsUnreachable {σ : Type} (c : Cluster σ) : Prop :=
  ∀ state credential,
    FailsOnly (fun e => ∃ p reason, e = .clusterUnreachable p reason)
      (c.connect state credential).answer

namespace Service

variable {σ : Type} {s : Settings} {m : Method} {r : Request} {plan : Plan} {start : Instant}
  {list : Lister} {clusters : String → Cluster σ} {states : String → σ}

/-- What a cluster answers to a call is no error of the request. -/
theorem clusterFault_ofObjectError (participant : String) (e : ObjectError) :
    ClusterFault (.ofObjectError participant e) := by
  cases e <;> rfl

/-- The work for a participant keeps to what is allowed and ends with errors
of its cluster, whatever the cluster does. -/
theorem run_keeps {c : Cluster σ} {v : Vault} (hvault : ∀ p, FailsOnly ClusterFault (v.resolve p))
    (hcluster : c.FailsUnreachable) (q : ParticipantPlan) (deadline : Option Nat) (now : Nat)
    (state : σ) (action : Action) (ns : String) :
    (∀ x ∈ (Run.ofPlan (c.site v q.participant) deadline now state action ns q).trace,
        Allowed v q.participant ns x.ask)
      ∧ ∀ e, (Run.ofPlan (c.site v q.participant) deadline now state action ns q).ending
          = .finished (.error e) → ClusterFault e := by
  let rely : Rely :=
    ⟨fun a => a = v.resolve q.participant,
      FailsOnly (fun e => ∃ p reason, e = .clusterUnreachable p reason), fun _ => True⟩
  have hmeets : (c.site v q.participant).Meets rely :=
    ⟨fun _ => rfl, hcluster, fun _ _ => trivial⟩
  have hwork : (Work.ofPlan action ns q).Ensures rely (Allowed v q.participant ns)
      (FailsOnly ClusterFault) := by
    apply Work.ofPlan_ensures
    · exact trivial
    · intro credential h; exact h.symm
    · intro d _; cases action <;> rfl
    · intro e h; exact failsOnly_error (hvault _ e h.symm)
    · intro e h
      obtain ⟨p, reason, rfl⟩ := h e rfl
      exact failsOnly_error rfl
    · intro e; exact failsOnly_error (clusterFault_ofObjectError _ e)
    · intro text; exact failsOnly_ok text
  obtain ⟨htrace, hend⟩ := Run.keeps hmeets deadline _ state now (.start .pending) hwork
  exact ⟨htrace, fun e h => hend _ h e rfl⟩

/-- A vault gives credentials only once the listing is there, and its errors
are no errors of the request. -/
theorem vault_failsOnly {v : Vault} {now : Nat} (h : vault? s r list = some (v, now)) (p : String) :
    FailsOnly ClusterFault (v.resolve p)
      ∧ ∀ c, v.resolve p = .ok c → (listingAsk s list).answered = some now := by
  rcases vault?_eq_some h with ⟨hwait, rfl⟩ | ⟨-, rfl⟩
  · constructor
    · intro e he
      obtain ⟨reason, rfl⟩ := Vault.resolve_load_failsOnly _ e he
      rfl
    · intro c _
      unfold listingAsk
      rw [hwait]
      rfl
  · constructor
    · exact failsOnly_error rfl
    · intro c hc; cases hc

/-- A run of a planned request keeps to what is allowed, connects after the
listing, and ends with errors of its cluster. -/
theorem run_of_carryOut_keeps (hclusters : ∀ p, (clusters p).FailsUnreachable) {p : String}
    {run : Run σ} (h : (p, run) ∈ (carryOut s m r plan list clusters states).runs) :
    (∀ x ∈ run.trace,
        (∀ c, x.ask = .connect c → ∃ t, (listingAsk s list).answered = some t ∧ t ≤ x.asked)
        ∧ ∀ call, x.ask = .call call → call.namespaceName = s.namespaceOrDefault r.namespaceName)
      ∧ ∀ e, run.ending = .finished (.error e) → ClusterFault e := by
  obtain ⟨v, now, hv, q, -, rfl, rfl⟩ := run_of_carryOut h
  obtain ⟨htrace, hend⟩ := run_keeps (fun p => (vault_failsOnly hv p).1) (hclusters q.participant)
    q (deadline s) now (states q.participant) m.action (s.namespaceOrDefault r.namespaceName)
  refine ⟨?_, hend⟩
  intro x hx
  have hallowed := htrace x hx
  constructor
  · intro c hc
    rw [hc] at hallowed
    exact ⟨now, (vault_failsOnly hv _).2 c hallowed, Run.le_asked _ _ _ _ _ _ x hx⟩
  · intro call hcall
    rw [hcall] at hallowed
    exact hallowed

/-- A response has an outcome for every participant, none of them for an error
of the request, and a message that says what they are. -/
theorem response_of_answered (hclusters : ∀ p, (clusters p).FailsUnreachable)
    {response : Response}
    (h : (carryOut s m r plan list clusters states).ending = .answered response) :
    response.outcomes.map Outcome.participant
        = plan.participants.map ParticipantPlan.participant
      ∧ (∀ o ∈ response.outcomes, ∀ e, o.error = some e → ClusterFault e)
      ∧ response.Accurate m := by
  obtain ⟨report, rfl, houtcomes, hnames⟩ := report_of_answered h
  refine ⟨?_, ?_, summarize_accurate m report _⟩
  · rw [← hnames]
    exact Operation.names_of_outcomes houtcomes
  · intro o ho e he
    obtain ⟨⟨p, run⟩, hrun, houtcome⟩ := Operation.exists_run_of_outcomes houtcomes ho
    rcases Run.error_of_outcome? houtcome he with hend | ⟨text, rfl⟩
    · exact (run_of_carryOut_keeps hclusters hrun).2 e hend
    · rfl

-- ======================================================= the whole request

/-- A request is refused exactly when it cannot be planned, and then it is to
blame and nobody was asked anything. Otherwise there is one listing, at once
and before any connection, and all calls are in one namespace; there is a
response, unless something is never answered and no deadline ends the wait,
and the response has one outcome for every participant, none of them for an
error of the request, and says what they are. -/
theorem execute_separates {result : Result σ}
    (hclock : ¬s.OutlastsClock start) (hclusters : ∀ p, (clusters p).FailsUnreachable)
    (hresult : execute s m r start list clusters states = result) :
    (∀ e, result.ending = .refused e ↔ (Composer.ofSettings s).plan r.slice m.scope = .error e)
      ∧ (∀ e, (Composer.ofSettings s).plan r.slice m.scope = .error e →
          e.isRequestError = true ∧ result.listings = [] ∧ result.runs = [])
      ∧ ∀ plan, (Composer.ofSettings s).plan r.slice m.scope = .ok plan →
          (∃ l, result.listings = [l]
            ∧ l.selector = s.credentialSelector ∧ l.dataKey = s.credentialDataKey
            ∧ ∀ p run x c, (p, run) ∈ result.runs → x ∈ run.trace → x.ask = .connect c →
                ∃ t, l.answered = some t ∧ t ≤ x.asked)
          ∧ (∀ p run x call, (p, run) ∈ result.runs → x ∈ run.trace → x.ask = .call call →
              call.namespaceName = s.namespaceOrDefault r.namespaceName)
          ∧ (result.ending = .endless ∧ s.operationTimeout = none ∧ result.Unanswered
            ∨ ∃ response, result.ending = .answered response
              ∧ ¬(s.operationTimeout = none ∧ result.Unanswered)
              ∧ response.outcomes.map Outcome.participant = r.slice.names
              ∧ (∀ o ∈ response.outcomes, ∀ e, o.error = some e → e.isRequestError = false)
              ∧ response.Accurate m) := by
  subst hresult
  cases hplan : (Composer.ofSettings s).plan r.slice m.scope with
  | error e =>
      rw [execute_of_error hplan]
      refine ⟨?_, ?_, ?_⟩
      · intro e'
        constructor
        · intro h; injection h with h; rw [h]
        · intro h; injection h with h; rw [← h]; rfl
      · intro e' h
        injection h with h
        exact ⟨h ▸ Composer.plan_failsOnly e hplan, rfl, rfl⟩
      · intro plan h; cases h
  | ok plan =>
      rw [execute_of_ok hplan hclock]
      refine ⟨?_, (fun e h => nomatch h), ?_⟩
      · intro e
        constructor
        · intro h
          rcases ending_of_carryOut s m r plan list clusters states with hend | ⟨response, hend⟩
          · rw [hend] at h; cases h
          · rw [hend] at h; cases h
        · intro h; cases h
      · intro plan' h
        injection h with h
        subst h
        refine ⟨⟨listingAsk s list, carryOut_listings, rfl, rfl, ?_⟩, ?_, ?_⟩
        · intro p run x c hrun hx hc
          exact ((run_of_carryOut_keeps hclusters hrun).1 x hx).1 c hc
        · intro p run x call hrun hx hcall
          exact ((run_of_carryOut_keeps hclusters hrun).1 x hx).2 call hcall
        · rcases ending_of_carryOut s m r plan list clusters states with hend | ⟨response, hend⟩
          · exact Or.inl ⟨hend, carryOut_endless_iff.mp hend⟩
          · obtain ⟨hnames, herrors, haccurate⟩ := response_of_answered hclusters hend
            refine Or.inr ⟨response, hend, ?_, hnames.trans (Composer.plan_names hplan), herrors,
              haccurate⟩
            intro h
            rw [carryOut_endless_iff.mpr h] at hend
            cases hend

/-- Two clusters, of which only the first can be reached. -/
def halfReachable (participant : String) : Cluster Rehearsal.Memory :=
  Rehearsal.cluster { Behaviour.accepting with
    connectError :=
      if participant = "north" then none else some (.clusterUnreachable participant "refused") }

theorem halfReachable_failsUnreachable (p : String) : (halfReachable p).FailsUnreachable := by
  intro state credential e h
  by_cases hp : p = "north"
  · subst hp
    cases h
  · have hanswer : ((halfReachable p).connect state credential).answer
        = .error (.clusterUnreachable p "refused") := by
      simp [halfReachable, Rehearsal.cluster, hp]
    rw [hanswer] at h
    injection h with h
    exact ⟨p, "refused", h.symm⟩

/-- A request for two clusters. -/
def pairRequest : Request :=
  ⟨" ", Slice.named "blue" [
    Participant.named "north" "north-gate" "10.0.0.1",
    Participant.named "south" "south-gate" "10.0.0.2"]⟩

/-- Secrets that hold nothing for anybody. -/
def noSecrets : Lister := fun _ _ => ⟨some 0, .ok .empty⟩

/-- The service answers the request, whatever becomes of the clusters. -/
theorem execute_separates_pairRequest :
    ∃ response,
      (execute .standard .createSlice pairRequest (.ofNanos 0) noSecrets halfReachable
          fun _ => none).ending = .answered response
        ∧ response.outcomes.map Outcome.participant = ["north", "south"]
        ∧ (∀ o ∈ response.outcomes, ∀ e, o.error = some e → e.isRequestError = false)
        ∧ response.Accurate .createSlice := by
  have hok : ((Composer.ofSettings .standard).plan pairRequest.slice .slice).isOk = true := by rfl
  cases hplan : (Composer.ofSettings .standard).plan pairRequest.slice .slice with
  | error e => rw [hplan] at hok; cases hok
  | ok plan =>
      have hclock : ¬Settings.standard.OutlastsClock (.ofNanos 0) :=
        Settings.not_outlastsClock_of_lt rfl (by decide +kernel)
      obtain ⟨-, -, haccepted⟩ := execute_separates hclock halfReachable_failsUnreachable
        (rfl : execute .standard .createSlice pairRequest (.ofNanos 0) noSecrets halfReachable
          (fun _ => none) = _)
      obtain ⟨-, -, ⟨-, htimeout, -⟩ | ⟨response, hend, -, hrest⟩⟩ := haccepted plan hplan
      · cases htimeout
      · exact ⟨response, hend, hrest⟩

end Service

end NetworkSlice
