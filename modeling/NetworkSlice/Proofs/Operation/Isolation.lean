import NetworkSlice.Proofs.Operation.Interleaving
import NetworkSlice.Proofs.Operation.Report

/-
No participant notices another.

When all tasks of a schedule are done, each has the outcome of its run alone
and has asked what that run asks (`done_of_resumes`). Neither mentions the
schedule or the other participants, so both stay the same under any other
schedule, and in any other world that answers the participant alike.

`completes_isolated` is the whole statement, and ties it to `Operation.run`:
running the participants one by one, each by itself, reports the outcomes
that every schedule comes to.
-/
namespace NetworkSlice.Interleaving

variable {w w' : World} {action : Action} {ns : String} {plan : Plan} {schedule : List Nat}
  {s : State} {outcomes : List Outcome}

/-- Worlds that answer a participant alike look alike to it. -/
theorem World.Agree.site_eq {p : String} (h : w.Agree w' p) : w.site p = w'.site p := by
  unfold World.site
  simp only [h.resolve, h.connect, h.call]

/-- So its run alone is the same in both. -/
theorem World.Agree.runAlone_eq {q : ParticipantPlan} (h : w.Agree w' q.participant) :
    w.runAlone action ns q = w'.runAlone action ns q := by
  unfold World.runAlone
  rw [h.site_eq]

namespace State

/-- A schedule that carries the operation through has kept all tasks on their
runs. -/
theorem Completes.follows (h : Completes w action ns plan schedule s outcomes) (hw : w.Separate)
    (hnames : (plan.participants.map ParticipantPlan.participant).Nodup) :
    Follows w action ns plan s :=
  follows_run hw hnames schedule (follows_start w action ns plan) h.1

/-- There are as many outcomes as tasks, each of the task at its place. -/
theorem Completes.outcome (h : Completes w action ns plan schedule s outcomes) (i : Nat) :
    s.tasks[i]?.map (Task.outcome? action) = outcomes[i]?.map some := by
  have hmap := mapM_eq_some_iff.mp h.2
  have hget := congrArg (fun l => l[i]?) hmap
  simpa only [List.getElem?_map] using hget

/-- In the end a participant has the outcome and the requests of its run
alone. -/
theorem Completes.alone (h : Completes w action ns plan schedule s outcomes) (hw : w.Separate)
    (hnames : (plan.participants.map ParticipantPlan.participant).Nodup) {i : Nat}
    {q : ParticipantPlan} (hq : plan.participants[i]? = some q) :
    ∃ o, outcomes[i]? = some o
      ∧ (w.runAlone action ns q).outcome? action q.participant = some o
      ∧ own q.participant s.log = (w.runAlone action ns q).trace.map Exchange.ask := by
  have hf := h.follows hw hnames
  have hnamed : (s.tasks.map Task.participant)[i]? = some q.participant := by
    rw [hf.names, List.getElem?_map, hq]
    rfl
  rw [List.getElem?_map] at hnamed
  obtain ⟨t, ht, -⟩ := Option.map_eq_some_iff.mp hnamed
  have ho := h.outcome i
  rw [ht] at ho
  obtain ⟨o, hget, heq⟩ := Option.map_eq_some_iff.mp ho.symm
  exact ⟨o, hget, done_of_resumes (hf.name ht hq) (hf.resumes ht hq) heq.symm⟩

/-- There is one outcome for every participant of the plan. -/
theorem Completes.length_eq (h : Completes w action ns plan schedule s outcomes)
    (hw : w.Separate) (hnames : (plan.participants.map ParticipantPlan.participant).Nodup) :
    outcomes.length = plan.participants.length := by
  have houtcomes := congrArg List.length (mapM_eq_some_iff.mp h.2)
  have htasks := congrArg List.length (h.follows hw hnames).names
  simp only [List.length_map] at houtcomes htasks
  rw [← houtcomes, htasks]

/-- The outcomes are those of the runs alone, in the order of the plan. -/
theorem Completes.outcomes_eq (h : Completes w action ns plan schedule s outcomes)
    (hw : w.Separate) (hnames : (plan.participants.map ParticipantPlan.participant).Nodup) :
    (plan.participants.map fun q => (w.runAlone action ns q).outcome? action q.participant)
      = outcomes.map some := by
  apply List.ext_getElem?
  intro i
  rw [List.getElem?_map, List.getElem?_map]
  cases hq : plan.participants[i]? with
  | some q =>
      obtain ⟨o, hget, halone, -⟩ := h.alone hw hnames hq
      rw [hget]
      exact congrArg some halone
  | none =>
      have hlength := List.getElem?_eq_none_iff.mp hq
      rw [← h.length_eq hw hnames] at hlength
      rw [List.getElem?_eq_none hlength]
      rfl

end State

/-- Whatever the order of the steps, there is one outcome for every
participant, in the order of the plan; it is the outcome of the participant's
run alone, and the participant asked exactly what that run asks. The operation
that runs them one by one reports these outcomes. What another participant is
answered, and when, changes none of it. -/
theorem completes_isolated (hw : w.Separate)
    (hnames : (plan.participants.map ParticipantPlan.participant).Nodup)
    (h : State.Completes w action ns plan schedule s outcomes) :
    outcomes.map Outcome.participant = plan.participants.map ParticipantPlan.participant
      ∧ (∀ (i : Nat) (q : ParticipantPlan), plan.participants[i]? = some q →
          (∃ o, outcomes[i]? = some o
            ∧ (w.runAlone action ns q).outcome? action q.participant = some o)
          ∧ own q.participant s.log = (w.runAlone action ns q).trace.map Exchange.ask)
      ∧ (Operation.run w.site (fun _ => []) none 0 action ns plan).report?.map Report.outcomes
          = some outcomes
      ∧ ∀ (j : String) (w' : World) (schedule' : List Nat) (s' : State)
          (outcomes' : List Outcome),
        w'.Separate → (∀ p, p ≠ j → w.Agree w' p) →
        State.Completes w' action ns plan schedule' s' outcomes' →
        ∀ (i : Nat) (q : ParticipantPlan), plan.participants[i]? = some q → q.participant ≠ j →
          outcomes'[i]? = outcomes[i]? ∧ own q.participant s'.log = own q.participant s.log := by
  have hruns : ((Operation.run w.site (fun _ => []) none 0 action ns plan).runs.map
      fun r => r.2.outcome? action r.1) = outcomes.map some := by
    rw [← h.outcomes_eq hw hnames]
    exact List.map_map
  refine ⟨?_, ?_, ?_, ?_⟩
  · rw [Operation.names_of_outcomes hruns]
    exact List.map_map
  · intro i q hq
    obtain ⟨o, hget, halone, hown⟩ := h.alone hw hnames hq
    exact ⟨⟨o, hget, halone⟩, hown⟩
  · exact Operation.report?_outcomes_iff.mpr hruns
  · intro j w' schedule' s' outcomes' hw' hagree h' i q hq hne
    obtain ⟨o, hget, halone, hown⟩ := h.alone hw hnames hq
    obtain ⟨o', hget', halone', hown'⟩ := h'.alone hw' hnames hq
    rw [← (hagree _ hne).runAlone_eq] at halone' hown'
    rw [halone] at halone'
    rw [hget, hget', hown, hown']
    exact ⟨halone'.symm, rfl⟩

/-- Two clusters with a segment each. -/
def pair : Plan :=
  let segment : Descriptor :=
    .segment ⟨.forSlice "mesh" "blue", .vnet, none, none, ⟨"provider", "example.org"⟩⟩
  ⟨"blue", [], none, [⟨"north", [segment]⟩, ⟨"south", [segment]⟩]⟩

/-- A world in which some participants have no credentials. The clusters take
a single object from each. -/
def forgetful (forgotten : List String) : World where
  resolve _ p :=
    if p ∈ forgotten then .error (.credentialNotFound p "no entry")
    else .ok ⟨"https://cluster", "token", none⟩
  connect _ _ _ := .ok ()
  call log p r := if (own p log).length ≤ 3 then .ok () else .error (.alreadyExists r.name)

theorem forgetful_separate (forgotten : List String) : (forgetful forgotten).Separate where
  resolve _ := rfl
  connect _ _ := rfl
  call {p log log'} r h := by
    show (if (own p log).length ≤ 3 then _ else _) = _
    rw [h]
    rfl

theorem forgetful_agree {p : String} (h : p ≠ "south") :
    (forgetful ["south"]).Agree (forgetful []) p where
  resolve log := by simp [forgetful, h]
  connect _ _ := rfl
  call _ _ := rfl

/-- One cluster fails before the other is done, which would not know if it did
not fail. -/
theorem completes_isolated_pair :
    (forgetful ["south"]).Separate
      ∧ (pair.participants.map ParticipantPlan.participant).Nodup
      ∧ ∃ s outcomes,
        State.Completes (forgetful ["south"]) .apply "default" pair
          [0, 1, 1, 0, 1, 0, 0, 0, 0, 0, 0] s outcomes
        ∧ outcomes.map Outcome.status = [.created, .failed]
        ∧ outcomes.map Outcome.participant = pair.participants.map ParticipantPlan.participant
        ∧ ∀ schedule' s' outcomes',
          State.Completes (forgetful []) .apply "default" pair schedule' s' outcomes' →
          outcomes'[0]? = outcomes[0]? ∧ own "north" s'.log = own "north" s.log := by
  have hnames : (pair.participants.map ParticipantPlan.participant).Nodup := by decide
  have hdone : ((State.run (forgetful ["south"]) (.start .apply "default" pair)
      [0, 1, 1, 0, 1, 0, 0, 0, 0, 0, 0]).bind (State.outcomes? .apply)).map
        (List.map Outcome.status) = some [.created, .failed] := by
    decide +kernel
  obtain ⟨outcomes, hdone, hstatus⟩ := Option.map_eq_some_iff.mp hdone
  obtain ⟨s, hrun, houtcomes⟩ := Option.bind_eq_some_iff.mp hdone
  obtain ⟨hparticipants, -, -, hothers⟩ :=
    completes_isolated (forgetful_separate ["south"]) hnames ⟨hrun, houtcomes⟩
  refine ⟨forgetful_separate _, hnames, s, outcomes, ⟨hrun, houtcomes⟩, hstatus, hparticipants, ?_⟩
  intro schedule' s' outcomes' h'
  exact hothers "south" (forgetful []) schedule' s' outcomes' (forgetful_separate [])
    (fun p => forgetful_agree) h' 0 _ rfl (by decide)

end NetworkSlice.Interleaving
