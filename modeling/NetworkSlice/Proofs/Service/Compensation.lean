import NetworkSlice.Proofs.Operation.Store
import NetworkSlice.Proofs.Service.Contact
import NetworkSlice.Proofs.Service.Separation

/-
Taking back what was created.

A create may fail anywhere and leave some of its objects on some clusters. A
delete of the same request is planned alike, so it is about the same objects,
and where nothing stands in its way (`InOrder`) it takes away just these:
each cluster is left with what it holds of others (`state_of_delete`). The
create has not touched that (`state_of_create`), so the two together leave a
cluster as it was, and a second delete finds nothing (`execute_undoes`).
-/
namespace NetworkSlice.Service

variable {σ β : Type} {s : Settings} {m m' : Method} {r : Request} {plan : Plan}
  {start start' start'' : Instant} {list list' list'' : Lister} {clusters clusters' clusters'' : String → Cluster σ}
  {states : String → σ} {view : σ → Inventory β} {v : Vault} {now : Nat} {p : String}
  {result : Result σ}

-- ============================================================= afterwards

/-- The state of a participant's cluster afterwards. -/
def Result.state (result : Result σ) (before : String → σ) (p : String) : σ :=
  match result.operation with
  | some operation => operation.state before p
  | none => before p

/-- A participant's cluster is left by its run. -/
theorem state_of_operate (hnames : (plan.participants.map ParticipantPlan.participant).Nodup)
    {q : ParticipantPlan} (hq : q ∈ plan.participants) :
    (operate s m r plan clusters states v now).state states q.participant
      = (Run.ofPlan ((clusters q.participant).site v q.participant) (deadline s) now
          (states q.participant) m.action (s.namespaceOrDefault r.namespaceName) q).state := by
  unfold Operation.state
  rw [show (operate s m r plan clusters states v now).runs.lookup q.participant = some _ from
    lookup_map_of_nodup hnames hq]

/-- Others' clusters are left alone. -/
theorem state_of_operate_of_not_mem
    (hp : p ∉ plan.participants.map ParticipantPlan.participant) :
    (operate s m r plan clusters states v now).state states p = states p := by
  unfold Operation.state
  rw [show (operate s m r plan clusters states v now).runs.lookup p = none from
    lookup_map_eq_none hp]

/-- The objects of a participant of the plan are those of its name. -/
theorem keysOf_of_mem (hplan : (Composer.ofSettings s).plan r.slice m.scope = .ok plan)
    {q : ParticipantPlan} (hq : q ∈ plan.participants) (ns : String) :
    plan.keysOf ns q.participant = q.keys ns := by
  rw [Plan.keysOf, Composer.participant?_of_plan hplan hq]
  rfl

/-- Nobody else has any. -/
theorem keysOf_of_not_mem (hp : p ∉ plan.participants.map ParticipantPlan.participant)
    (ns : String) : plan.keysOf ns p = [] := by
  have hnone : plan.participant? p = none := by
    refine List.find?_eq_none.mpr fun q hq => ?_
    rw [decide_eq_true_eq]
    exact fun heq => hp (heq ▸ List.mem_map_of_mem hq)
  rw [Plan.keysOf, hnone]
  rfl

-- =============================================================== creating

/-- Whatever becomes of a create, what a cluster holds of others is as it was
before. -/
theorem state_of_create (hm : m.action = .apply)
    (hplan : (Composer.ofSettings s).plan r.slice m.scope = .ok plan)
    (hclusters : ∀ p, (clusters p).Confined view)
    (hresult : execute s m r start list clusters states = result) (p : String) :
    (view (result.state states p)).without
        (plan.keysOf (s.namespaceOrDefault r.namespaceName) p)
      = (view (states p)).without (plan.keysOf (s.namespaceOrDefault r.namespaceName) p) := by
  subst hresult
  obtain hresult | hresult := execute_of_plan hplan start list clusters states
  · rw [hresult]
    rfl
  rw [hresult]
  cases hv : vault? s r list with
  | none => rw [carryOut_of_none hv]; rfl
  | some v =>
      rw [carryOut_of_some hv]
      show (view ((operate s m r plan clusters states v.1 v.2).state states p)).without _ = _
      by_cases hp : p ∈ plan.participants.map ParticipantPlan.participant
      · obtain ⟨q, hq, rfl⟩ := List.mem_map.mp hp
        rw [state_of_operate (Composer.nodup_names_of_plan hplan) hq, keysOf_of_mem hplan hq, hm]
        exact Run.ofPlan_confined (hclusters q.participant) _ _ _ _ _ _ q
      · rw [state_of_operate_of_not_mem hp]

-- =============================================================== deleting

/-- There are credentials for all participants, their clusters are healthy, and
answer all they are asked. -/
structure InOrder (s : Settings) (r : Request) (list : Lister) (clusters : String → Cluster σ)
    (view : σ → Inventory β) (result : Result σ) : Prop where
  entitled : ∀ p ∈ r.slice.names, ∃ c, Entitled s r list p c
  healthy : ∀ p, (clusters p).Healthy view
  answered : ¬ result.Unanswered

/-- With credentials for all, a request on healthy clusters that are prompt is
in order. -/
theorem inOrder_of_prompt (hplan : (Composer.ofSettings s).plan r.slice m.scope = .ok plan)
    (hentitled : ∀ p ∈ r.slice.names, ∃ c, Entitled s r list p c)
    (hhealthy : ∀ p, (clusters p).Healthy view) (hprompt : ∀ p, (clusters p).Prompt) :
    InOrder s r list clusters view (execute s m r start list clusters states) := by
  refine ⟨hentitled, hhealthy, ?_⟩
  obtain hresult | hresult := execute_of_plan hplan start list clusters states
  · rw [hresult]
    exact not_unanswered_uninvolved _
  rw [hresult]
  rintro (⟨l, hl, hnone⟩ | ⟨p, run, x, hrun, hx, hnone⟩)
  · -- somebody takes part, and is entitled by a listing that came
    obtain ⟨hvalid, -⟩ := Composer.plan_eq_ok_iff.mp hplan
    obtain ⟨-, hsome, -⟩ := Slice.validate_eq_ok_iff.mp hvalid
    obtain ⟨entry, hentry⟩ := List.exists_mem_of_ne_nil _ hsome
    obtain ⟨c, secrets, -, -, -, -, hanswered, -⟩ :=
      hentitled entry.name (List.mem_map_of_mem hentry)
    rw [carryOut_listings] at hl
    rw [List.mem_singleton.mp hl] at hnone
    rw [hnone] at hanswered
    cases hanswered
  · obtain ⟨v, now, -, q, -, -, rfl⟩ := run_of_carryOut hrun
    exact Run.answered_of_prompt (hprompt p) _ _ _ _ _ _ _ x hx hnone

/-- The runs of a delete in order take away the objects of their participants,
and say how many were there. -/
theorem run_of_delete (hm : m.action = .delete)
    (hplan : (Composer.ofSettings s).plan r.slice m.scope = .ok plan)
    (h : InOrder s r list clusters view (carryOut s m r plan list clusters states))
    (hv : vault? s r list = some (v, now)) {q : ParticipantPlan} (hq : q ∈ plan.participants) :
    let run := Run.ofPlan ((clusters q.participant).site v q.participant) (deadline s) now
      (states q.participant) m.action (s.namespaceOrDefault r.namespaceName) q
    view run.state
        = (view (states q.participant)).without (q.keys (s.namespaceOrDefault r.namespaceName))
      ∧ run.outcome? m.action q.participant
        = some (.deletion q.participant
          ((view (states q.participant)).count (q.keys (s.namespaceOrDefault r.namespaceName)))
          q.descriptors.length) := by
  have hnames : r.slice.names.Nodup :=
    Composer.plan_names hplan ▸ Composer.nodup_names_of_plan hplan
  have hp : q.participant ∈ r.slice.names := by
    rw [← Composer.plan_names hplan]
    exact List.mem_map_of_mem hq
  obtain ⟨c, hc⟩ := h.entitled q.participant hp
  intro run
  have hmem : (q.participant, run) ∈ (carryOut s m r plan list clusters states).runs := by
    rw [carryOut_of_some hv]
    exact List.mem_map_of_mem hq
  rw [hm]
  refine Run.ofPlan_healthy (h.healthy q.participant) (resolve_of_entitled hnames hv hc)
    (Composer.nodup_keys_of_plan hplan hq _) (by rw [← hm]) ?_
  intro x hx hnone
  exact h.answered (Or.inr ⟨q.participant, run, x, hmem, hx, hnone⟩)

/-- A delete in order takes away the participants' objects and nothing else,
and the response counts them. -/
theorem state_of_delete (hm : m.action = .delete)
    (hplan : (Composer.ofSettings s).plan r.slice m.scope = .ok plan)
    (hclock : ¬s.OutlastsClock start)
    (hresult : execute s m r start list clusters states = result)
    (h : InOrder s r list clusters view result) :
    (∀ p, view (result.state states p)
        = (view (states p)).without (plan.keysOf (s.namespaceOrDefault r.namespaceName) p))
      ∧ ∃ response, result.ending = .answered response
        ∧ response.message = Response.success m
        ∧ response.outcomes = plan.participants.map fun q =>
            .deletion q.participant
              ((view (states q.participant)).count
                (q.keys (s.namespaceOrDefault r.namespaceName)))
              q.descriptors.length := by
  rw [execute_of_ok hplan hclock] at hresult
  subst hresult
  obtain ⟨v, now, hv⟩ : ∃ v now, vault? s r list = some (v, now) := by
    cases hv : vault? s r list with
    | some v => exact ⟨v.1, v.2, rfl⟩
    | none =>
        obtain ⟨-, hnone⟩ := vault?_eq_none_iff.mp hv
        refine absurd (Or.inl ⟨listingAsk s list, ?_, hnone⟩) h.answered
        rw [carryOut_listings]
        exact List.mem_singleton_self _
  have hrun := fun q (hq : q ∈ plan.participants) => run_of_delete hm hplan h hv hq
  constructor
  · intro p
    rw [carryOut_of_some hv]
    show view ((operate s m r plan clusters states v now).state states p) = _
    by_cases hp : p ∈ plan.participants.map ParticipantPlan.participant
    · obtain ⟨q, hq, rfl⟩ := List.mem_map.mp hp
      rw [state_of_operate (Composer.nodup_names_of_plan hplan) hq, keysOf_of_mem hplan hq]
      exact (hrun q hq).1
    · rw [state_of_operate_of_not_mem hp, keysOf_of_not_mem hp]
      exact (Inventory.without_eq_self fun k hk => absurd hk List.not_mem_nil).symm
  · rcases ending_of_carryOut s m r plan list clusters states with hend | ⟨response, hend⟩
    · exact absurd (carryOut_endless_iff.mp hend).2 h.answered
    · obtain ⟨report, rfl, houtcomes, -⟩ := report_of_answered hend
      have hreport : report.outcomes = plan.participants.map fun q =>
          .deletion q.participant
            ((view (states q.participant)).count (q.keys (s.namespaceOrDefault r.namespaceName)))
            q.descriptors.length := by
        have hmap : report.outcomes.map some = (plan.participants.map fun q =>
            Outcome.deletion q.participant
              ((view (states q.participant)).count (q.keys (s.namespaceOrDefault r.namespaceName)))
              q.descriptors.length).map some := by
          rw [← houtcomes, carryOut_of_some hv, List.map_map]
          show ((plan.participants.map _).map _) = _
          rw [List.map_map]
          exact List.map_congr_left fun q hq => (hrun q hq).2
        exact (List.map_inj_right fun _ _ => Option.some.inj).mp hmap
      refine ⟨_, hend, ?_, hreport⟩
      apply (summarize_accurate m report (m.patches r.slice.name)).success_iff.mpr
      rw [hreport]
      intro o ho
      obtain ⟨q, -, rfl⟩ := List.mem_map.mp ho
      exact fun hfailed => nomatch hfailed

-- ====================================================== the whole request

/-- A delete takes back whatever a create of the same request has come to,
with whatever failures, a timeout that outlasts the clock among them. Every
cluster is left as it was before the create, the objects of others included; all
participants are told that theirs are deleted, and how many were there. A second
delete changes nothing and finds nothing. -/
theorem execute_undoes (hm : m.action = .apply) (hm' : m'.action = .delete)
    (hscope : m'.scope = m.scope)
    (hplan : (Composer.ofSettings s).plan r.slice m.scope = .ok plan)
    (hclock : ¬s.OutlastsClock start') (hclock' : ¬s.OutlastsClock start'')
    (habsent : ∀ q ∈ plan.participants, ∀ k ∈ q.keys (s.namespaceOrDefault r.namespaceName),
      view (states q.participant) k = none)
    {created deleted again : Result σ} (hclusters : ∀ p, (clusters p).Confined view)
    (hcreated : execute s m r start list clusters states = created)
    (hdeleted : execute s m' r start' list' clusters' (created.state states) = deleted)
    (horder : InOrder s r list' clusters' view deleted)
    (hagain : execute s m' r start'' list'' clusters'' (deleted.state (created.state states))
      = again)
    (horder' : InOrder s r list'' clusters'' view again) :
    (∀ p, view (deleted.state (created.state states) p) = view (states p))
      ∧ (∃ response, deleted.ending = .answered response
        ∧ response.message = Response.success m'
        ∧ response.outcomes = plan.participants.map fun q =>
            .deletion q.participant
              ((view (created.state states q.participant)).count
                (q.keys (s.namespaceOrDefault r.namespaceName)))
              q.descriptors.length)
      ∧ (∀ p, view (again.state (deleted.state (created.state states)) p) = view (states p))
      ∧ ∃ response, again.ending = .answered response
        ∧ response.message = Response.success m'
        ∧ response.outcomes = plan.participants.map fun q =>
            .deletion q.participant 0 q.descriptors.length := by
  have hplan' : (Composer.ofSettings s).plan r.slice m'.scope = .ok plan := by rw [hscope, hplan]
  have hkept := state_of_create hm hplan hclusters hcreated
  obtain ⟨hdeleted, hresponse⟩ := state_of_delete hm' hplan' hclock hdeleted horder
  obtain ⟨hagain, hresponse'⟩ := state_of_delete hm' hplan' hclock' hagain horder'
  -- none of the participants' objects were there in the beginning
  have hnone : ∀ p, (view (states p)).without
      (plan.keysOf (s.namespaceOrDefault r.namespaceName) p) = view (states p) := by
    intro p
    apply Inventory.without_eq_self
    by_cases hp : p ∈ plan.participants.map ParticipantPlan.participant
    · obtain ⟨q, hq, rfl⟩ := List.mem_map.mp hp
      rw [keysOf_of_mem hplan hq]
      exact habsent q hq
    · rw [keysOf_of_not_mem hp]
      exact fun k hk => absurd hk List.not_mem_nil
  have hrestored : ∀ p, view (deleted.state (created.state states) p) = view (states p) := by
    intro p
    rw [hdeleted, hkept, hnone]
  refine ⟨hrestored, hresponse, ?_, ?_⟩
  · intro p
    rw [hagain, hrestored, hnone]
  · obtain ⟨response, hend, hmessage, houtcomes⟩ := hresponse'
    refine ⟨response, hend, hmessage, ?_⟩
    rw [houtcomes]
    refine List.map_congr_left fun q hq => ?_
    rw [hrestored, Inventory.count_eq_zero (habsent q hq)]

/-- Clusters that remember. The first takes no edge devices. -/
def halfWilling (p : String) : Cluster Rehearsal.Memory :=
  Rehearsal.cluster { Behaviour.accepting with
    stateful := true
    rules := if p = "north" then
      [⟨some true, some "NetworkEdgeDevice", .rejected 403 "forbidden"⟩] else [] }

/-- Clusters that remember and refuse nothing. -/
def willing (_ : String) : Cluster Rehearsal.Memory :=
  Rehearsal.cluster { Behaviour.accepting with stateful := true }

/-- What is there before: an object of somebody else. -/
def strangers (_ : String) : Rehearsal.Memory := some [⟨.segment, "default", "other"⟩]

/-- Secrets for both. -/
def bothSecrets : Lister :=
  fun _ _ => ⟨some 0, .ok (Table.ofList [("north", [1]), ("south", [2])])⟩

/-- What a create left on one cluster before it failed is gone after a delete,
and what was there before is not. -/
theorem execute_undoes_tokenRequest :
    let created := execute .standard .createSlice tokenRequest (.ofNanos 0) northSecret halfWilling
      strangers
    let left := created.state strangers
    let deleted := execute .standard .deleteSlice tokenRequest anHourIn bothSecrets willing left
    Rehearsal.inventory (left "north") ≠ Rehearsal.inventory (strangers "north")
      ∧ Rehearsal.inventory (deleted.state left "north")
        = Rehearsal.inventory (strangers "north")
      ∧ ∃ response, deleted.ending = .answered response
        ∧ response.outcomes = [.deletion "north" 1 3, .deletion "south" 0 3] := by
  have hclock : ¬Settings.standard.OutlastsClock anHourIn :=
    Settings.not_outlastsClock_of_lt rfl (by decide +kernel)
  have hok : ((Composer.ofSettings .standard).plan tokenRequest.slice .slice).isOk = true := by rfl
  cases hplan : (Composer.ofSettings .standard).plan tokenRequest.slice .slice with
  | error e => rw [hplan] at hok; cases hok
  | ok plan =>
      have hentitled : ∀ p ∈ tokenRequest.slice.names,
          ∃ c, Entitled .standard tokenRequest bothSecrets p c := by
        intro p hp
        rcases List.mem_cons.mp hp with rfl | hp
        · exact ⟨_, _, _, _, _, rfl, rfl, rfl, rfl, rfl, rfl⟩
        · rw [List.mem_singleton.mp hp]
          exact ⟨_, _, _, _, _, rfl, rfl, rfl, rfl, rfl, rfl⟩
      have horder : ∀ states, InOrder .standard tokenRequest bothSecrets willing
          Rehearsal.inventory
          (execute .standard .deleteSlice tokenRequest anHourIn bothSecrets willing
            states) := fun states =>
        inOrder_of_prompt (m := .deleteSlice) hplan hentitled
          (fun p => Rehearsal.cluster_healthy rfl rfl rfl) fun p => Rehearsal.cluster_prompt rfl rfl
      have habsent : ∀ q ∈ plan.participants, ∀ k ∈ q.keys "default",
          Rehearsal.inventory (strangers q.participant) k = none := by
        have hall : ((Composer.ofSettings .standard).plan tokenRequest.slice .slice).map
            (fun plan => plan.participants.all fun q => (q.keys "default").all fun k =>
              Rehearsal.inventory (strangers q.participant) k = none) = .ok true := by
          rfl
        rw [hplan] at hall
        injection hall with hall
        intro q hq k hk
        have hq := List.all_eq_true.mp hall q hq
        exact of_decide_eq_true (List.all_eq_true.mp hq k hk)
      intro created left deleted
      obtain ⟨hrestored, -, -, -⟩ := execute_undoes (m := .createSlice) rfl
        (rfl : Method.deleteSlice.action = .delete) rfl hplan hclock hclock habsent
        (fun p => Rehearsal.cluster_confined _)
        (rfl : execute .standard .createSlice tokenRequest (.ofNanos 0) northSecret halfWilling
          strangers = _)
        rfl (horder _) rfl (horder _)
      refine ⟨?_, hrestored "north", ⟨_, rfl, rfl⟩⟩
      intro hsame
      have hleft : Rehearsal.inventory (left "north") ⟨.segment, "default", "blue"⟩ = some () := by
        rfl
      rw [hsame] at hleft
      cases hleft

end NetworkSlice.Service
