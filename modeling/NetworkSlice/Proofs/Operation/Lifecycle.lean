import NetworkSlice.Proofs.Operation.Phases

/-
The lifecycle of a participant, and the outcome of its run.

A machine passes over an input that is not possible, so a run could tell it
anything. What it does tell it is recorded, and the machine of the run is the
one that it began with after all of that (`machine_work`). Work that keeps to
the phases tells a machine only what is possible (`feedAll_inputs`).

In between there is one question, whether the cluster is reached
(`Site.Reached`). If it is not, the participant is authenticating until it
fails (`inputs_of_not_reached`); if it is, the participant is executing, and
what becomes of the objects decides (`inputs_of_reached`). The outcome is made
of the same result as the last input, and so the two agree
(`ofPlan_concluded`).

All this is said of any site, which may answer what it likes, as late as it
likes or never, and may hang its answers on all that was asked before.
-/
namespace NetworkSlice

variable {σ : Type} {site : Site σ} {deadline : Option Nat} {now : Nat} {state : σ}

-- ================================================================= machines

namespace Machine

/-- The machine after inputs that are all possible. -/
def feedAll : Machine → List PhaseInput → Except PhaseError Machine
  | m, [] => .ok m
  | m, input :: rest => do
    let (next, _) ← m.feed input
    feedAll next rest

/-- The machine after inputs that are offered in turn; what is not possible is
passed over. -/
def offer (m : Machine) (inputs : List PhaseInput) : Machine :=
  inputs.foldl (fun m input => (m.advance input).1) m

/-- The phases a machine was in, and the one it is in. -/
def phases (m : Machine) : List Phase := m.history.map PhaseChange.source ++ [m.phase]

/-- A participant whose cluster is not reached yet. -/
def authenticating : Machine :=
  ⟨.authenticating, [⟨.pending, .authenticate, .authenticating⟩]⟩

/-- A participant whose cluster is reached. -/
def executing : Machine :=
  ⟨.executing, authenticating.history ++ [⟨.authenticating, .connected, .executing⟩]⟩

end Machine

-- =========================================================== what it is told

namespace Run

/-- The machine of a run is the first one, after all that the run records. -/
theorem machine_work (work : Work) (state : σ) (now : Nat) (m : Machine) :
    (Run.work site deadline now m state work).machine
      = m.offer (Run.work site deadline now m state work).inputs := by
  induction work, state using turns site generalizing now m with
  | done result state => rfl
  | enter input rest state ih => exact ih now (m.advance input).1
  | turn work state t ht ih =>
      rw [work_of_turn ht]
      cases Wait.until deadline now t.after with
      | ready time => exact ih time m
      | expired time => rfl
      | endless => rfl

/-- Work that keeps to the phases tells the machine what is possible. -/
theorem feedAll_inputs (work : Work) (state : σ) (now : Nat) (m : Machine)
    (h : work.InPhase m.phase) :
    m.feedAll (Run.work site deadline now m state work).inputs
      = .ok (Run.work site deadline now m state work).machine := by
  induction work, state using turns site generalizing now m with
  | done result state => rfl
  | enter input rest state ih =>
      obtain ⟨next, hstep, hrest⟩ := h
      have hfeed : m.feed input = .ok (m.advance input) := by
        rw [Machine.advance_of_step hstep, Machine.feed, hstep]
        rfl
      rw [Run.work, told, Machine.feedAll, hfeed]
      refine ih now (m.advance input).1 ?_
      rw [Machine.advance_of_step hstep]
      exact hrest
  | turn work state t ht ih =>
      obtain ⟨-, hrest⟩ := h.turn ht
      rw [work_of_turn ht]
      cases Wait.until deadline now t.after with
      | ready time => exact ih time m hrest
      | expired time => rfl
      | endless => rfl

end Run

-- ============================================================ being reached

/-- The cluster is reached: the credentials are there, the connection is made
with them, and both in time. -/
def Site.Reached (site : Site σ) (deadline : Option Nat) (now : Nat) (state : σ) : Prop :=
  ∃ c t t', (site.resolve state).answer = .ok c
    ∧ Wait.until deadline now (site.resolve state).after = .ready t
    ∧ (site.connect (site.resolve state).state c).answer = .ok ()
    ∧ Wait.until deadline t (site.connect (site.resolve state).state c).after = .ready t'

namespace Work

/-- Nothing happens to the participant any more, as far as the phases go. -/
def Uneventful : Work → Prop
  | .done _ => True
  | .enter .. => False
  | .resolve next => ∀ a, (next a).Uneventful
  | .connect _ next => ∀ a, (next a).Uneventful
  | .call _ next => ∀ a, (next a).Uneventful

/-- Calling for the objects tells the machine nothing. -/
theorem submit_uneventful (action : Action) (ns : String) (q : ParticipantPlan) :
    (submit action ns q).Uneventful :=
  submit_closed (fun _ _ _ hnext => hnext) (fun _ => trivial) fun _ => trivial

/-- Nor does what is left after an answer. -/
theorem Uneventful.turn {work : Work} {t : Turn σ} (h : work.Uneventful)
    (ht : site.turn? state work = some t) : t.rest.Uneventful := by
  rcases Site.turn?_cases ht with ⟨next, rfl, rfl⟩ | ⟨c, next, rfl, rfl⟩ | ⟨r, next, rfl, rfl⟩
  · exact h _
  · exact h _
  · exact h _

end Work

namespace Run

/-- So the machine is told nothing. -/
theorem inputs_of_uneventful (work : Work) (state : σ) (now : Nat) (m : Machine)
    (h : work.Uneventful) : (Run.work site deadline now m state work).inputs = [] := by
  induction work, state using turns site generalizing now with
  | done result state => rfl
  | enter input rest state ih => cases h
  | turn work state t ht ih =>
      rw [work_of_turn ht]
      cases Wait.until deadline now t.after with
      | ready time => exact ih time (h.turn ht)
      | expired time => rfl
      | endless => rfl

/-- Once the cluster is reached, the participant is executing. -/
theorem inputs_of_reached (action : Action) (ns : String) (q : ParticipantPlan)
    (h : site.Reached deadline now state) :
    (ofPlan site deadline now state action ns q).inputs = [.authenticate, .connected] := by
  obtain ⟨c, t, t', hfound, htime, hmade, htime'⟩ := h
  simp only [ofPlan, Work.ofPlan, Run.work, Run.ask, Run.told, Run.after, hfound, htime, hmade,
    htime', inputs_of_uneventful _ _ _ _ (Work.submit_uneventful action ns q)]

/-- Until then it is authenticating, and its cluster is not called. -/
theorem inputs_of_not_reached (action : Action) (ns : String) (q : ParticipantPlan)
    (h : ¬site.Reached deadline now state) :
    (ofPlan site deadline now state action ns q).inputs = [.authenticate]
      ∧ (∀ x ∈ (ofPlan site deadline now state action ns q).trace, ∀ r, x.ask ≠ .call r)
      ∧ ∀ text, (ofPlan site deadline now state action ns q).ending ≠ .finished (.ok text) := by
  unfold ofPlan Work.ofPlan
  simp only [Run.work, Run.ask, Run.told]
  cases htime : Wait.until deadline now (site.resolve state).after with
  | expired t => simp
  | endless => simp
  | ready t =>
      cases hfound : (site.resolve state).answer with
      | error e => simp [Run.work, Run.after]
      | ok c =>
          simp only [Run.work, Run.ask]
          cases htime' : Wait.until deadline t (site.connect (site.resolve state).state c).after with
          | expired t' => simp [Run.after]
          | endless => simp [Run.after]
          | ready t' =>
              cases hmade : (site.connect (site.resolve state).state c).answer with
              | error e => simp [Run.work, Run.after]
              | ok u => exact absurd ⟨c, t, t', hfound, htime, hmade, htime'⟩ h

end Run

-- ================================================================= outcomes

/-- What an outcome has to do with the machine at the end of its run: that the
participant failed is said in four ways, and the phase that this interrupted
tells whether the cluster was reached. -/
structure Outcome.Agrees (o : Outcome) (reached : Prop) (m : Machine) : Prop where
  phases : m.phases = [.pending, .authenticating, .failed]
    ∨ m.phases = [.pending, .authenticating, .executing, .failed]
    ∨ m.phases = [.pending, .authenticating, .executing, .succeeded]
  phase : o.status = .failed ↔ m.phase = .failed
  error : o.status = .failed ↔ o.error.isSome = true
  failedAt : o.status = .failed ↔ o.failedAt.isSome = true
  not_pending : o.failedAt ≠ some .pending
  authenticating_iff : o.failedAt = some .authenticating ↔ ¬reached
  executing_iff : o.failedAt = some .executing ↔ o.status = .failed ∧ reached

namespace Run

variable {action : Action} {p ns : String} {reached : Prop}

/-- Of a machine that is executing, the outcome agrees with having reached the
cluster. -/
theorem agrees_of_reached (action : Action) (p : String) (h : reached)
    (result : Except SliceError String) :
    (conclude action p .executing result).1.Agrees reached
      (conclude action p .executing result).2 := by
  cases result with
  | ok text =>
      have hstatus : action.status ≠ .failed := by cases action <;> decide
      exact {
        phases := Or.inr (Or.inr rfl)
        phase := iff_of_false hstatus nofun
        error := iff_of_false hstatus Bool.false_ne_true
        failedAt := iff_of_false hstatus Bool.false_ne_true
        not_pending := nofun
        authenticating_iff := iff_of_false nofun (not_not_intro h)
        executing_iff := iff_of_false nofun fun hfailed => hstatus hfailed.1 }
  | error e =>
      exact {
        phases := Or.inr (Or.inl rfl)
        phase := iff_of_true rfl rfl
        error := iff_of_true rfl rfl
        failedAt := iff_of_true rfl rfl
        not_pending := nofun
        authenticating_iff := iff_of_false nofun (not_not_intro h)
        executing_iff := iff_of_true rfl ⟨rfl, h⟩ }

/-- Of one that is authenticating, it agrees with not having reached it. -/
theorem agrees_of_not_reached (action : Action) (p : String) (h : ¬reached) (e : SliceError) :
    (conclude action p .authenticating (.error e)).1.Agrees reached
      (conclude action p .authenticating (.error e)).2 where
  phases := Or.inl rfl
  phase := iff_of_true rfl rfl
  error := iff_of_true rfl rfl
  failedAt := iff_of_true rfl rfl
  not_pending := nofun
  authenticating_iff := iff_of_true rfl h
  executing_iff := iff_of_false nofun fun hfailed => h hfailed.2

/-- What a run comes to is no success unless it is finished with one. -/
theorem finished_of_result? {r : Run σ} {text : String} (h : r.result? p = some (.ok text)) :
    r.ending = .finished (.ok text) := by
  unfold result? at h
  split at h
  · next result hend =>
      injection h with h
      exact h ▸ hend
  · cases h
  · cases h

/-- The machine accepts the result that a run comes to, and the outcome agrees
with it. -/
theorem ofPlan_concluded {q : ParticipantPlan} {r : Run σ}
    (hr : r = ofPlan site deadline now state action ns q) {result : Except SliceError String}
    (h : r.result? p = some result) :
    ∃ o m, conclude action p r.machine result = (o, m)
      ∧ (Machine.start .pending).feedAll (r.inputs ++ [finalInput result]) = .ok m
      ∧ o.Agrees (site.Reached deadline now state) m := by
  have hmachine : r.machine = (Machine.start .pending).offer r.inputs := by
    rw [hr]
    exact machine_work _ _ _ _
  by_cases hreached : site.Reached deadline now state
  · have hinputs : r.inputs = [.authenticate, .connected] :=
      hr ▸ inputs_of_reached action ns q hreached
    rw [hinputs] at hmachine ⊢
    replace hmachine : r.machine = .executing := hmachine
    rw [hmachine]
    refine ⟨_, _, rfl, ?_, agrees_of_reached action p hreached result⟩
    cases result with
    | ok text => rfl
    | error e => rfl
  · obtain ⟨hinputs, -, hend⟩ := inputs_of_not_reached action ns q hreached
    rw [← hr] at hinputs hend
    rw [hinputs] at hmachine ⊢
    replace hmachine : r.machine = .authenticating := hmachine
    rw [hmachine]
    cases result with
    | ok text => exact absurd (finished_of_result? h) (hend text)
    | error e => exact ⟨_, _, rfl, rfl, agrees_of_not_reached action p hreached e⟩

end Run

namespace Operation

/-- The lifecycle of a participant agrees with its outcome. Whatever its site
does and whenever it is cut off, its run tells its machine to authenticate, and
that it is connected where the cluster is reached, and all of that is accepted;
and where the run ends so is the last input. The machine and the outcome then say
the same, and the cluster is not called unless it is reached. -/
theorem run_lifecycle {sites : String → Site σ} {states : String → σ} {action : Action}
    {ns name : String} {plan : Plan} {r : Run σ}
    (h : (name, r) ∈ (Operation.run sites states deadline now action ns plan).runs) :
    (∃ q ∈ plan.participants, q.participant = name)
      ∧ (Machine.start .pending).feedAll r.inputs = .ok r.machine
      ∧ ((sites name).Reached deadline now (states name) →
        r.inputs = [.authenticate, .connected])
      ∧ (¬(sites name).Reached deadline now (states name) →
        r.inputs = [.authenticate] ∧ ∀ x ∈ r.trace, ∀ c, x.ask ≠ .call c)
      ∧ ∀ result, r.result? name = some result →
        ∃ o m, Run.conclude action name r.machine result = (o, m)
          ∧ r.outcome? action name = some o
          ∧ (Machine.start .pending).feedAll (r.inputs ++ [finalInput result]) = .ok m
          ∧ o.Agrees ((sites name).Reached deadline now (states name)) m := by
  obtain ⟨q, hq, heq⟩ := List.mem_map.mp h
  injection heq with hname hrun
  subst hname hrun
  refine ⟨⟨q, hq, rfl⟩, ?_, ?_, ?_, ?_⟩
  · exact Run.feedAll_inputs _ _ _ _ (Work.ofPlan_inPhase action ns q)
  · exact Run.inputs_of_reached action ns q
  · intro hreached
    obtain ⟨hinputs, huncalled, -⟩ := Run.inputs_of_not_reached action ns q hreached
    exact ⟨hinputs, huncalled⟩
  · intro result hresult
    obtain ⟨o, m, hconclude, hfed, hagrees⟩ := Run.ofPlan_concluded rfl hresult
    refine ⟨o, m, hconclude, ?_, hfed, hagrees⟩
    rw [Run.outcome?, hresult, Option.map_some, hconclude]

/-- A site that has credentials, and whose cluster never answers. -/
def unanswering : Site Unit where
  resolve _ := ⟨some 1, .ok ⟨"https://north", "token", none⟩, (), ()⟩
  connect _ _ := ⟨none, .ok (), (), ()⟩
  call _ _ := ⟨none, .ok (), (), ()⟩

/-- Its participant is cut off authenticating, and has failed there. -/
theorem run_lifecycle_unanswering :
    ∃ (r : Run Unit) (o : Outcome) (m : Machine),
      ("north", r) ∈ (Operation.run (fun _ => unanswering) (fun _ => ()) (some 5) 0 .apply "default"
          ⟨"blue", [], none, [⟨"north", []⟩]⟩).runs
        ∧ r.outcome? .apply "north" = some o
        ∧ r.inputs = [.authenticate]
        ∧ (Machine.start .pending).feedAll (r.inputs ++ [.fail]) = .ok m
        ∧ o.status = .failed ∧ o.failedAt = some .authenticating
        ∧ ∀ x ∈ r.trace, ∀ c, x.ask ≠ .call c := by
  have hunreached : ¬unanswering.Reached (some 5) 0 () := by
    rintro ⟨c, t, t', -, -, -, h⟩
    cases h
  have hrun : ("north", Run.ofPlan unanswering (some 5) 0 () .apply "default" ⟨"north", []⟩)
      ∈ (Operation.run (fun _ => unanswering) (fun _ => ()) (some 5) 0 .apply "default"
          ⟨"blue", [], none, [⟨"north", []⟩]⟩).runs := List.mem_singleton_self _
  obtain ⟨-, -, -, hunanswered, hconcluded⟩ := run_lifecycle hrun
  obtain ⟨hinputs, huncalled⟩ := hunanswered hunreached
  obtain ⟨o, m, -, ho, hfed, hagrees⟩ := hconcluded _ rfl
  have hfailedAt : o.failedAt = some .authenticating := hagrees.authenticating_iff.mpr hunreached
  refine ⟨_, o, m, hrun, ho, hinputs, hfed, ?_, hfailedAt, huncalled⟩
  rw [hagrees.failedAt, hfailedAt]
  rfl

end Operation

end NetworkSlice
