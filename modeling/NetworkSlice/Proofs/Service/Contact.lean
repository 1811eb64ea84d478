import NetworkSlice.Proofs.Credential.Vault
import NetworkSlice.Proofs.Operation.Contact
import NetworkSlice.Proofs.Service.Deadline

/-
Who may be connected to, and with what.

A participant is `Entitled` to one credential at most: the endpoint and token
of its own entry in the request with the certificates listed under its own
name. The vault of a request gives out nothing else (`entitled_of_resolve`),
and what a participant asks of its cluster is a `Contact` with what the vault
gave it, in a run against time and in any schedule of all the participants.

So nobody is connected to where the listing failed or came too late, and then
all participants fail while authenticating (`response_of_unlisted`).
-/
namespace NetworkSlice.Service

variable {σ : Type} {s : Settings} {m : Method} {r : Request} {plan : Plan} {start : Instant}
  {list : Lister} {clusters : String → Cluster σ} {states : String → σ} {v : Vault} {now : Nat} {p : String}
  {c : Credential}

-- ============================================================ credentials

/-- The listing came in time, and the credential is put together from the one
entry of the participant's name and the secret of that name. -/
def Entitled (s : Settings) (r : Request) (list : Lister) (p : String) (c : Credential) : Prop :=
  ∃ secrets entry auth ca,
    (list s.credentialSelector s.credentialDataKey).listing = .ok secrets
      ∧ (listingAsk s list).answered.isSome
      ∧ (r.slice.participants.filter fun e => e.name = p) = [entry]
      ∧ entry.auth = some auth ∧ secrets.get? p = some ca
      ∧ c = ⟨auth.endpoint, auth.token, some ca⟩

/-- The listing failed, or was not there in time. -/
def Unlisted (s : Settings) (list : Lister) : Prop :=
  (∀ secrets, (list s.credentialSelector s.credentialDataKey).listing ≠ .ok secrets)
    ∨ (listingAsk s list).answered = none

/-- A vault has credentials only from a listing that came in time. -/
theorem vault?_of_ok (h : vault? s r list = some (v, now)) (hc : v.resolve p = .ok c) :
    ∃ secrets, (list s.credentialSelector s.credentialDataKey).listing = .ok secrets
      ∧ (listingAsk s list).answered = some now
      ∧ v = .load s.credentialSelector (.ok secrets) r.slice.participants := by
  rcases vault?_eq_some h with ⟨hwait, rfl⟩ | ⟨-, rfl⟩
  · cases hlisting : (list s.credentialSelector s.credentialDataKey).listing with
    | error e =>
        rw [hlisting] at hc
        obtain ⟨reason, hnone⟩ :=
          Vault.resolve_load_of_error s.credentialSelector r.slice.participants p e
        rw [hnone] at hc
        cases hc
    | ok secrets =>
        refine ⟨secrets, rfl, ?_, rfl⟩
        rw [listingAsk, hwait]
        rfl
  · cases hc

/-- What a vault gives to a participant is what it is entitled to. -/
theorem entitled_of_resolve (hnames : r.slice.names.Nodup) (h : vault? s r list = some (v, now))
    (hp : p ∈ r.slice.names) (hc : v.resolve p = .ok c) : Entitled s r list p c := by
  obtain ⟨secrets, hlisting, hanswered, rfl⟩ := vault?_of_ok h hc
  obtain ⟨entry, hentry, rfl⟩ := List.mem_map.mp hp
  rw [Vault.resolve_load_of_mem hnames hentry] at hc
  have hassemble : Vault.assemble s.credentialSelector secrets entry = .ok c := by
    cases ha : Vault.assemble s.credentialSelector secrets entry with
    | error reason => rw [ha] at hc; cases hc
    | ok c' => rw [ha] at hc; injection hc with hc; rw [hc]
  obtain ⟨auth, ca, hauth, hca, rfl⟩ := Vault.assemble_eq_ok_iff.mp hassemble
  exact ⟨secrets, entry, auth, ca, hlisting, by rw [hanswered]; rfl,
    filter_eq_singleton_of_nodup hnames hentry, hauth, hca, rfl⟩

/-- And it gives all of that. -/
theorem resolve_of_entitled (hnames : r.slice.names.Nodup) (h : vault? s r list = some (v, now))
    (hc : Entitled s r list p c) : v.resolve p = .ok c := by
  obtain ⟨secrets, entry, auth, ca, hlisting, hanswered, hentry, hauth, hca, rfl⟩ := hc
  rcases vault?_eq_some h with ⟨-, rfl⟩ | ⟨hwait, -⟩
  · obtain ⟨hmem, hname⟩ : entry ∈ r.slice.participants ∧ entry.name = p := by
      have hmem : entry ∈ r.slice.participants.filter fun e => e.name = p :=
        hentry ▸ List.mem_cons_self
      simpa using List.mem_filter.mp hmem
    subst hname
    rw [hlisting, Vault.resolve_load_of_mem hnames hmem,
      Vault.assemble_eq_ok_iff.mpr ⟨auth, ca, hauth, hca, rfl⟩]
    rfl
  · rw [listingAsk, hwait] at hanswered
    cases hanswered

/-- Without a listing it gives nothing. -/
theorem resolve_of_unlisted (h : vault? s r list = some (v, now)) (hlist : Unlisted s list)
    (p : String) : ∃ e, v.resolve p = .error e := by
  cases hc : v.resolve p with
  | error e => exact ⟨e, rfl⟩
  | ok c =>
      obtain ⟨secrets, hlisting, hanswered, -⟩ := vault?_of_ok h hc
      rcases hlist with hfailed | hlate
      · exact absurd hlisting (hfailed secrets)
      · rw [hanswered] at hlate
        cases hlate

-- ==================================================================== runs

/-- A cluster with a vault finds what the vault says, at no cost to itself. -/
theorem site_finds (c : Cluster σ) (v : Vault) (p : String) :
    (c.site v p).Finds (v.resolve p) :=
  fun _ => ⟨rfl, rfl⟩

/-- A run of a planned request is a contact with what its participant is
entitled to, and connects after the listing. -/
theorem contact_of_carryOut (hplan : (Composer.ofSettings s).plan r.slice m.scope = .ok plan)
    {run : Run σ} (h : (p, run) ∈ (carryOut s m r plan list clusters states).runs) :
    Contact (Entitled s r list p) (fun c => ((clusters p).connect (states p) c).answer = .ok ())
        (run.trace.map Exchange.ask)
      ∧ (run.trace.Pairwise fun x y => ∃ t, x.answered = some t ∧ t ≤ y.asked)
      ∧ ∀ x ∈ run.trace, ∀ c, x.ask = .connect c →
          ∃ t, (listingAsk s list).answered = some t ∧ t ≤ x.asked := by
  have hnames : r.slice.names.Nodup :=
    Composer.plan_names hplan ▸ Composer.nodup_names_of_plan hplan
  obtain ⟨v, now, hv, q, hq, rfl, rfl⟩ := run_of_carryOut h
  have hp : q.participant ∈ r.slice.names := by
    rw [← Composer.plan_names hplan]
    exact List.mem_map_of_mem hq
  have hcontact := Run.ofPlan_contact (site_finds (clusters q.participant) v q.participant)
    (deadline s) now (states q.participant) m.action (s.namespaceOrDefault r.namespaceName) q
  refine ⟨hcontact.imp (fun c hc => entitled_of_resolve hnames hv hp hc) fun c hc => hc,
    Run.pairwise_trace _ _ _ _ _ _, ?_⟩
  intro x hx c hc
  have hgiven : v.resolve q.participant = .ok c :=
    hcontact.given_of_mem (hc ▸ List.mem_map_of_mem hx)
  obtain ⟨-, -, hanswered, -⟩ := vault?_of_ok hv hgiven
  exact ⟨now, hanswered, Run.le_asked _ _ _ _ _ _ x hx⟩

/-- Nobody is worked for twice. -/
theorem nodup_runs_of_carryOut (hplan : (Composer.ofSettings s).plan r.slice m.scope = .ok plan) :
    ((carryOut s m r plan list clusters states).runs.map Prod.fst).Nodup := by
  cases hv : vault? s r list with
  | none =>
      rw [carryOut_of_none hv]
      exact List.Pairwise.nil
  | some v =>
      rw [carryOut_of_some hv]
      have hnames : (operate s m r plan clusters states v.1 v.2).runs.map Prod.fst
          = plan.participants.map ParticipantPlan.participant := List.map_map
      show ((operate s m r plan clusters states v.1 v.2).runs.map Prod.fst).Nodup
      rw [hnames]
      exact Composer.nodup_names_of_plan hplan

/-- No participant has two runs, whether the clock holds the deadline or not. -/
theorem nodup_runs_of_execute (hplan : (Composer.ofSettings s).plan r.slice m.scope = .ok plan) :
    ((execute s m r start list clusters states).runs.map Prod.fst).Nodup := by
  obtain hresult | hresult := execute_of_plan hplan start list clusters states
  · rw [hresult]
    exact List.Pairwise.nil
  · rw [hresult]
    exact nodup_runs_of_carryOut hplan

/-- Without a listing every participant fails while authenticating, and the
response says so; there is one unless something that is waited for has no end
and no deadline. -/
theorem response_of_unlisted (hplan : (Composer.ofSettings s).plan r.slice m.scope = .ok plan)
    (hlist : Unlisted s list)
    (hends : s.operationTimeout = none →
      (listingAsk s list).answered ≠ none ∧ ∀ p, (clusters p).lookup (states p) ≠ none) :
    ∃ response, (carryOut s m r plan list clusters states).ending = .answered response
      ∧ response.outcomes.map Outcome.participant = r.slice.names
      ∧ ∀ o ∈ response.outcomes, o.status = .failed ∧ o.failedAt = some .authenticating := by
  have hrun : ∀ p run, (p, run) ∈ (carryOut s m r plan list clusters states).runs →
      (∀ o, run.outcome? m.action p = some o →
          o.status = .failed ∧ o.failedAt = some .authenticating)
        ∧ (run.ending = .endless → (clusters p).lookup (states p) = none) := by
    intro p run h
    obtain ⟨v, now, hv, q, -, rfl, hrun⟩ := run_of_carryOut h
    obtain ⟨e, he⟩ := resolve_of_unlisted hv hlist q.participant
    obtain ⟨houtcome, -, hendless⟩ := ofPlan_of_resolve_error _ he _ _ _ _ _ q hrun
    exact ⟨fun o ho => ⟨(houtcome o ho).1, (houtcome o ho).2.2⟩, hendless⟩
  rcases ending_of_carryOut s m r plan list clusters states with hend | ⟨response, hend⟩
  · -- what has no end would be the listing or a lookup
    obtain ⟨htimeout, hunanswered⟩ := carryOut_endless_iff.mp hend
    obtain ⟨hlisting, hlookup⟩ := hends htimeout
    rcases hunanswered with ⟨l, hl, hnone⟩ | ⟨p, run, x, h, hx, hnone⟩
    · rw [carryOut_listings] at hl
      rw [List.mem_singleton.mp hl] at hnone
      exact absurd hnone hlisting
    · refine absurd ((hrun p run h).2 ?_) (hlookup p)
      obtain ⟨v, now, -, q, -, rfl, rfl⟩ := run_of_carryOut h
      refine (Run.endless_iff _ _ _ _ _ _).mpr ⟨?_, x, hx, hnone⟩
      rw [deadline, htimeout]
      rfl
  · obtain ⟨report, rfl, houtcomes, hnames⟩ := report_of_answered hend
    refine ⟨_, hend, ?_, ?_⟩
    · exact ((Operation.names_of_outcomes houtcomes).trans hnames).trans (Composer.plan_names hplan)
    · intro o ho
      obtain ⟨⟨p, run⟩, h, houtcome⟩ := Operation.exists_run_of_outcomes houtcomes ho
      exact (hrun p run h).1 o houtcome

-- ====================================================== the whole request

/-- No cluster is contacted without its own credentials. Whatever the clusters
answer and however long they take, a participant is worked for once, connects
once at most, after the listing and with the credential it is entitled to, and
makes calls only once its cluster took the connection. The same holds at any
time of any schedule of the participants with the vault of the request. Without
a listing nobody connects; and if the clock can keep the timeout, all
participants fail while authenticating. -/
theorem execute_contacts {result : Result σ}
    (hplan : (Composer.ofSettings s).plan r.slice m.scope = .ok plan)
    (hresult : execute s m r start list clusters states = result) :
    ((result.runs.map Prod.fst).Nodup ∧ ∀ p run, (p, run) ∈ result.runs →
        Contact (Entitled s r list p)
            (fun c => ((clusters p).connect (states p) c).answer = .ok ())
            (run.trace.map Exchange.ask)
          ∧ (run.trace.Pairwise fun x y => ∃ t, x.answered = some t ∧ t ≤ y.asked)
          ∧ ∀ x ∈ run.trace, ∀ c, x.ask = .connect c →
              ∃ t, (listingAsk s list).answered = some t ∧ t ≤ x.asked)
      ∧ (∀ (v : Vault) (now : Nat) (w : Interleaving.World) (schedule : List Nat)
            (state : Interleaving.State),
          vault? s r list = some (v, now) → (∀ log p, w.resolve log p = v.resolve p) →
          (Interleaving.State.start m.action (s.namespaceOrDefault r.namespaceName) plan).run w
            schedule = some state →
          ∀ p, Contact (Entitled s r list p) (w.Made p state.log)
            (Interleaving.own p state.log))
      ∧ (Unlisted s list →
          (∀ p run x, (p, run) ∈ result.runs → x ∈ run.trace → x.ask = .resolve)
          ∧ (¬s.OutlastsClock start →
              (s.operationTimeout = none →
                (listingAsk s list).answered ≠ none ∧ ∀ p, (clusters p).lookup (states p) ≠ none) →
              ∃ response, result.ending = .answered response
                ∧ response.outcomes.map Outcome.participant = r.slice.names
                ∧ ∀ o ∈ response.outcomes,
                    o.status = .failed ∧ o.failedAt = some .authenticating)) := by
  subst hresult
  -- where there are runs, they are those of the plan
  have hruns : ∀ p run, (p, run) ∈ (execute s m r start list clusters states).runs →
      (p, run) ∈ (carryOut s m r plan list clusters states).runs := by
    intro p run h
    obtain ⟨plan', hplan', h⟩ := run_of_execute h
    obtain rfl : plan = plan' := Except.ok.inj (hplan.symm.trans hplan')
    exact h
  refine ⟨⟨nodup_runs_of_execute hplan, fun p run h => contact_of_carryOut hplan (hruns p run h)⟩,
    ?_, ?_⟩
  · intro v now w schedule state hv hw hrun p
    have hnames := Composer.nodup_names_of_plan hplan
    obtain ⟨hcontact, hstranger⟩ := Interleaving.contact_of_run hw hnames hrun p
    rw [Composer.plan_names hplan] at hnames hstranger
    by_cases hp : p ∈ r.slice.names
    · exact hcontact.imp (fun c hc => entitled_of_resolve hnames hv hp hc) fun c hc => hc
    · rw [hstranger hp]
      exact .idle
  · intro hlist
    constructor
    · intro p run x h hx
      have hcontact := (contact_of_carryOut hplan (hruns p run h)).1
      refine hcontact.resolves ?_ x.ask (List.mem_map_of_mem hx)
      rintro c ⟨secrets, entry, auth, ca, hlisting, hanswered, -⟩
      rcases hlist with hfailed | hlate
      · exact hfailed secrets hlisting
      · rw [hlate] at hanswered
        cases hanswered
    · intro hclock hends
      rw [execute_of_ok hplan hclock]
      exact response_of_unlisted hplan hlist hends

/-- A request for two clusters, with tokens for both. -/
def tokenRequest : Request :=
  ⟨"", Slice.named "blue" [
    { Participant.named "north" "north-gate" "10.0.0.1" with
      auth := some ⟨"https://north", "north-token"⟩ },
    { Participant.named "south" "south-gate" "10.0.0.2" with
      auth := some ⟨"https://south", "south-token"⟩ }]⟩

/-- A secret for one of them. -/
def northSecret : Lister := fun _ _ => ⟨some 10, .ok (Table.ofList [("north", [1])])⟩

/-- The one with a secret is connected to with its own token and certificates,
the other is not. -/
theorem execute_contacts_tokenRequest :
    ∃ plan, (Composer.ofSettings .standard).plan tokenRequest.slice .network = .ok plan
      ∧ ((execute .standard .createNetwork tokenRequest anHourIn northSecret silent
          fun _ => none).runs.map
            fun r => (r.1, r.2.trace.filterMap fun x => x.ask.credential?))
        = [("north", [⟨"https://north", "north-token", some [1]⟩]), ("south", [])]
      ∧ Entitled .standard tokenRequest northSecret "north"
        ⟨"https://north", "north-token", some [1]⟩ := by
  have hok : ((Composer.ofSettings .standard).plan tokenRequest.slice .network).isOk = true := by
    rfl
  cases hplan : (Composer.ofSettings .standard).plan tokenRequest.slice .network with
  | error e => rw [hplan] at hok; cases hok
  | ok plan =>
      obtain ⟨⟨-, hcontact⟩, -, -⟩ := execute_contacts (m := .createNetwork) hplan
        (rfl : execute .standard .createNetwork tokenRequest anHourIn northSecret silent
          (fun _ => none) = _)
      have hruns : ((execute .standard .createNetwork tokenRequest anHourIn northSecret silent
            fun _ => none).runs.map fun r => (r.1, r.2.trace.filterMap fun x => x.ask.credential?))
          = [("north", [⟨"https://north", "north-token", some [1]⟩]), ("south", [])] := by
        rfl
      refine ⟨plan, rfl, hruns, ?_⟩
      have hnorth : ("north", [⟨"https://north", "north-token", some [1]⟩])
          ∈ [("north", [(⟨"https://north", "north-token", some [1]⟩ : Credential)]),
            ("south", [])] :=
        List.mem_cons_self
      rw [← hruns] at hnorth
      obtain ⟨⟨p, run⟩, hrun, heq⟩ := List.mem_map.mp hnorth
      injection heq with hp hasked
      subst hp
      have hcredential : (⟨"https://north", "north-token", some [1]⟩ : Credential)
          ∈ run.trace.filterMap fun x => x.ask.credential? := hasked ▸ List.mem_cons_self
      obtain ⟨x, hx, hc⟩ := List.mem_filterMap.mp hcredential
      exact (hcontact _ run hrun).1.given_of_mem
        (Ask.credential?_eq_some_iff.mp hc ▸ List.mem_map_of_mem hx)

end NetworkSlice.Service
