import NetworkSlice.Operation.Report
import NetworkSlice.Proofs.Attempt

/-
Participants at work together, in any order.

An operation works on all its participants at once. Here that is spelled out
step by step: every participant is a `Task`, a task takes one step at a time,
and a schedule says whose turn it is. A task asks in one step and hears the
answer in a later one, so between the two all others may ask and be answered;
nothing is said of the order, and a schedule may leave a task waiting for as
long as it likes.

What answers is a `World`. It sees the whole log of what was asked before, by
whomever, so it may well let one participant's answers hang on another's
requests. `World.Separate` says that it does not: an answer depends only on
what the same participant has asked.

# The simulation

`World.site` is one participant's view of a world: a `Site` whose state is
what the participant has asked so far. A task in the middle of any schedule
has left exactly the work from which the run of that site, all by itself,
comes to the same end (`Task.Resumes`). A step of the task keeps this
(`resumes_step`), a step of another does not touch it (`own_append_of_ne`),
and so a whole schedule keeps it for every task (`keeps_run`, `follows_run`). When the task
is done nothing is left to resume, and the log holds what the run asked.

`exists_completes` is the other half: whatever was scheduled so far, some
schedule brings all tasks to their end.
-/
namespace NetworkSlice.Interleaving

-- ====================================================== what is asked

/-- Someone asks for something. -/
structure Event where
  participant : String
  ask : Ask

/-- What one participant asked, in order. -/
def own (participant : String) (log : List Event) : List Ask :=
  (log.filter fun e => e.participant = participant).map Event.ask

/-- The log of a participant that is alone. -/
def alone (participant : String) (asks : List Ask) : List Event :=
  asks.map (Event.mk participant)

/-- What answers. The log is all that was asked, the request included. -/
structure World where
  resolve : List Event → String → Except SliceError Credential
  connect : List Event → String → Credential → Except SliceError Unit
  call : List Event → String → Call → Except ObjectError Unit

/-- Answers to a participant depend only on what it asked itself. -/
structure World.Separate (w : World) : Prop where
  resolve : ∀ {p log log'}, own p log = own p log' → w.resolve log p = w.resolve log' p
  connect : ∀ {p log log'} (c : Credential), own p log = own p log' →
    w.connect log p c = w.connect log' p c
  call : ∀ {p log log'} (r : Call), own p log = own p log' → w.call log p r = w.call log' p r

/-- The worlds answer a participant alike. -/
structure World.Agree (w w' : World) (p : String) : Prop where
  resolve : ∀ log, w.resolve log p = w'.resolve log p
  connect : ∀ log c, w.connect log p c = w'.connect log p c
  call : ∀ log r, w.call log p r = w'.call log p r

/-- One participant's view of a world: what it asked so far decides. Nothing
takes any time. -/
def World.site (w : World) (p : String) : Site (List Ask) where
  resolve asked :=
    ⟨some 0, w.resolve (alone p (asked ++ [.resolve])) p, asked ++ [.resolve], asked⟩
  connect asked c :=
    ⟨some 0, w.connect (alone p (asked ++ [.connect c])) p c, asked ++ [.connect c], asked⟩
  call asked r :=
    ⟨some 0, w.call (alone p (asked ++ [.call r])) p r, asked ++ [.call r], asked⟩

-- =============================================================== tasks

/-- The work for a participant, as far as it is left. -/
structure Task where
  participant : String
  machine : Machine
  work : Work
  /-- Whether the next request is made and its answer awaited. -/
  waiting : Bool

/-- What work asks for next. -/
def next? : Work → Option Ask
  | .resolve _ => some .resolve
  | .connect c _ => some (.connect c)
  | .call r _ => some (.call r)
  | .done _ | .enter .. => none

/-- The work after the answer to its request. -/
def World.answered (w : World) (log : List Event) (p : String) : Work → Work
  | .resolve next => next (w.resolve log p)
  | .connect c next => next (w.connect log p c)
  | .call r next => next (w.call log p r)
  | work => work

namespace Task

/-- A task that has not begun. -/
def start (action : Action) (namespaceName : String) (p : ParticipantPlan) : Task :=
  ⟨p.participant, .start .pending, .ofPlan action namespaceName p, false⟩

/-- The next step of a task, and what it asks. -/
def step (w : World) (log : List Event) (t : Task) : Option (Task × List Event) :=
  match next? t.work, t.work with
  | some a, work =>
    if t.waiting then
      some ({ t with work := w.answered log t.participant work, waiting := false }, [])
    else some ({ t with waiting := true }, alone t.participant [a])
  | none, .enter input rest =>
    some ({ t with machine := (t.machine.advance input).1, work := rest }, [])
  | none, _ => none

/-- The outcome of a task that is done. -/
def outcome? (action : Action) (t : Task) : Option Outcome :=
  match t.work with
  | .done result => some (Run.conclude action t.participant t.machine result).1
  | _ => none

end Task

-- =========================================================== schedules

/-- All tasks of an operation, and all that was asked. -/
structure State where
  log : List Event
  tasks : List Task

namespace State

/-- No task has begun. -/
def start (action : Action) (namespaceName : String) (plan : Plan) : State :=
  ⟨[], plan.participants.map (Task.start action namespaceName)⟩

/-- The `i`-th task takes a step. -/
def fire (w : World) (i : Nat) (s : State) : Option State :=
  match s.tasks[i]? with
  | none => none
  | some t => (t.step w s.log).map fun r => ⟨s.log ++ r.2, s.tasks.set i r.1⟩

/-- Tasks take steps in the order of a schedule. -/
def run (w : World) (s : State) : List Nat → Option State
  | [] => some s
  | i :: rest =>
    match s.fire w i with
    | some s' => run w s' rest
    | none => none

/-- The outcomes in the order of the plan, once all tasks are done. -/
def outcomes? (action : Action) (s : State) : Option (List Outcome) :=
  s.tasks.mapM (Task.outcome? action)

/-- The schedule carries the operation through, to this state and these
outcomes. -/
def Completes (w : World) (action : Action) (namespaceName : String) (plan : Plan)
    (schedule : List Nat) (s : State) (outcomes : List Outcome) : Prop :=
  run w (start action namespaceName plan) schedule = some s ∧ s.outcomes? action = some outcomes

end State

-- ============================================================= own logs

variable {w w' : World} {p q : String} {log : List Event}

/-- A participant's requests in two logs, one after the other. -/
theorem own_append (p : String) (log log' : List Event) :
    own p (log ++ log') = own p log ++ own p log' := by
  unfold own
  rw [List.filter_append, List.map_append]

/-- What a participant asks alone is its own. -/
theorem own_alone (p : String) (asks : List Ask) : own p (alone p asks) = asks := by
  induction asks with
  | nil => rfl
  | cons a rest ih =>
      unfold own alone at ih ⊢
      rw [List.map_cons, List.filter_cons_of_pos (by simp), List.map_cons, ih]

/-- What another asks is not a participant's own. -/
theorem own_alone_of_ne (h : p ≠ q) (asks : List Ask) : own p (alone q asks) = [] := by
  unfold own alone
  rw [List.map_eq_nil_iff, List.filter_eq_nil_iff]
  intro e he
  obtain ⟨a, -, rfl⟩ := List.mem_map.mp he
  simpa using h.symm

/-- Others' requests leave a participant's own as they were. -/
theorem own_append_of_ne (h : p ≠ q) (log : List Event) (asks : List Ask) :
    own p (log ++ alone q asks) = own p log := by
  rw [own_append, own_alone_of_ne h, List.append_nil]

/-- In a separate world the answer is the same in every log with the same own
requests. -/
theorem answered_eq_of_own_eq (hw : w.Separate) {log' : List Event}
    (h : own p log = own p log') (work : Work) :
    w.answered log p work = w.answered log' p work := by
  cases work with
  | done result => rfl
  | enter input rest => rfl
  | resolve next => exact congrArg next (hw.resolve h)
  | connect c next => exact congrArg next (hw.connect c h)
  | call r next => exact congrArg next (hw.call r h)

/-- Induction on work with one case for all requests. -/
theorem World.turns (w : World) (p : String) {motive : Work → Prop}
    (done : ∀ result, motive (.done result))
    (enter : ∀ input rest, motive rest → motive (.enter input rest))
    (turn : ∀ work a, next? work = some a → (∀ log, motive (w.answered log p work)) →
      motive work)
    (work : Work) : motive work := by
  induction work with
  | done result => exact done result
  | enter input rest ih => exact enter input rest ih
  | resolve next ih => exact turn _ _ rfl fun log => ih (w.resolve log p)
  | connect c next ih => exact turn _ _ rfl fun log => ih (w.connect log p c)
  | call r next ih => exact turn _ _ rfl fun log => ih (w.call log p r)

-- ========================================================== the simulation

/-- The runs come to the same end, whatever came before. -/
structure SameEnd {σ : Type} (r r' : Run σ) : Prop where
  ending : r.ending = r'.ending
  machine : r.machine = r'.machine
  state : r.state = r'.state

/-- One participant's work in a world, carried out by itself. -/
def workAlone (w : World) (p : String) (m : Machine) (asked : List Ask) (work : Work) :
    Run (List Ask) :=
  Run.work (w.site p) none 0 m asked work

/-- A request is answered at once, and then the rest is carried out. -/
theorem workAlone_of_next {m : Machine} {asked : List Ask} {work : Work} {a : Ask}
    (h : next? work = some a) :
    workAlone w p m asked work
      = (workAlone w p m (asked ++ [a]) (w.answered (alone p (asked ++ [a])) p work)).after
          ⟨a, m.phase, 0, some 0⟩ := by
  cases work with
  | done result => cases h
  | enter input rest => cases h
  | resolve next => injection h with h; subst h; rfl
  | connect c next => injection h with h; subst h; rfl
  | call r next => injection h with h; subst h; rfl

/-- What a run asks is what its site has heard in the end. -/
theorem state_workAlone (work : Work) (m : Machine) (asked : List Ask) :
    (workAlone w p m asked work).state
      = asked ++ (workAlone w p m asked work).trace.map Exchange.ask := by
  induction work using World.turns w p generalizing m asked with
  | done result => exact (List.append_nil asked).symm
  | enter input rest ih => exact ih (m.advance input).1 asked
  | turn work a ha ih =>
      have h := ih (alone p (asked ++ [a])) m (asked ++ [a])
      rw [List.append_assoc] at h
      rw [workAlone_of_next ha]
      exact h

/-- The run of a participant's plan all by itself. -/
def World.runAlone (w : World) (action : Action) (namespaceName : String)
    (q : ParticipantPlan) : Run (List Ask) :=
  Run.ofPlan (w.site q.participant) none 0 [] action namespaceName q

/-- What a task has asked without having heard the answer. -/
def Task.pending (t : Task) : List Ask := if t.waiting then (next? t.work).toList else []

/-- The task has left what the run of `work` alone has left after the same
requests; one that is made but not answered does not count yet. -/
structure Task.Resumes (w : World) (t : Task) (asked : List Ask) (work : Work) : Prop where
  /-- Only a request is waited for. -/
  waits : t.waiting = true → (next? t.work).isSome
  /-- The requests that were answered have left the rest of the run. -/
  rest : ∃ heard, asked = heard ++ t.pending
    ∧ SameEnd (workAlone w t.participant t.machine heard t.work)
        (workAlone w t.participant (.start .pending) [] work)

/-- A task that has not begun has everything left. -/
theorem resumes_start (w : World) (action : Action) (ns : String) (q : ParticipantPlan) :
    (Task.start action ns q).Resumes w [] (.ofPlan action ns q) where
  waits h := by cases h
  rest := ⟨[], rfl, rfl, rfl, rfl⟩

/-- A task is done, or something happens to it, or it has a request to make or
to hear the answer of. -/
theorem step_cases {t t' : Task} {new : List Event} (h : t.step w log = some (t', new)) :
    (∃ input rest, t.work = .enter input rest
        ∧ t' = { t with machine := (t.machine.advance input).1, work := rest } ∧ new = [])
      ∨ (∃ a, next? t.work = some a ∧ t.waiting = false
        ∧ t' = { t with waiting := true } ∧ new = alone t.participant [a])
      ∨ ∃ a, next? t.work = some a ∧ t.waiting = true
        ∧ t' = { t with work := w.answered log t.participant t.work, waiting := false }
        ∧ new = [] := by
  unfold Task.step at h
  split at h
  · next work a ha =>
      split at h
      case isTrue hwaiting =>
          injection h with h
          injection h with ht hnew
          exact Or.inr (Or.inr ⟨a, ha, hwaiting, ht.symm, hnew.symm⟩)
      case isFalse hwaiting =>
          injection h with h
          injection h with ht hnew
          exact Or.inr (Or.inl ⟨a, ha, by simpa using hwaiting, ht.symm, hnew.symm⟩)
  · next input rest hnone hwork =>
      injection h with h
      injection h with ht hnew
      exact Or.inl ⟨input, rest, hwork, ht.symm, hnew.symm⟩
  · cases h

/-- A step of a task asks in the task's own name, if at all. -/
theorem step_participant {t t' : Task} {new : List Event} (h : t.step w log = some (t', new)) :
    t'.participant = t.participant ∧ ∃ asks, new = alone t.participant asks := by
  rcases step_cases h with ⟨_, _, -, rfl, rfl⟩ | ⟨a, -, -, rfl, rfl⟩ | ⟨_, -, -, rfl, rfl⟩
  · exact ⟨rfl, [], rfl⟩
  · exact ⟨rfl, [a], rfl⟩
  · exact ⟨rfl, [], rfl⟩

/-- A task that something happens to is not waiting. -/
theorem waiting_of_enter {t : Task} (hwaits : t.waiting = true → (next? t.work).isSome)
    {input : PhaseInput} {rest : Work} (hwork : t.work = .enter input rest) :
    t.waiting = false := by
  cases hwaiting : t.waiting with
  | false => rfl
  | true =>
      have h := hwaits hwaiting
      rw [hwork] at h
      cases h

/-- A step of a task leaves it what the run alone has left. -/
theorem resumes_step (hw : w.Separate) {t t' : Task} {new : List Event} {work : Work}
    (h : t.step w log = some (t', new)) (hr : t.Resumes w (own t.participant log) work) :
    t'.Resumes w (own t.participant (log ++ new)) work := by
  obtain ⟨hwaits, heard, hown, hend⟩ := hr
  unfold Task.pending at hown
  rcases step_cases h with ⟨input, rest, hwork, rfl, rfl⟩ | ⟨a, ha, hwaiting, rfl, rfl⟩
    | ⟨a, ha, hwaiting, rfl, rfl⟩
  · -- something happens: nobody is asked, and the run passes over it too
    have hquiet := waiting_of_enter hwaits hwork
    rw [hquiet] at hown
    rw [hwork] at hend
    refine ⟨fun h => ?_, heard, ?_, hend.ending, hend.machine, hend.state⟩
    · rw [hquiet] at h
      cases h
    · rw [List.append_nil, hown]
      simp [Task.pending, hquiet]
  · -- a request: it is logged, and nothing more is heard
    rw [hwaiting] at hown
    refine ⟨fun _ => by simp [ha], heard, ?_, hend⟩
    rw [own_append, own_alone, hown]
    simp [Task.pending, ha]
  · -- an answer: the world gives it as if the participant were alone
    have hown' : own t.participant log = heard ++ [a] := by
      rw [hown, hwaiting, ha]
      rfl
    have hanswer : w.answered log t.participant t.work
        = w.answered (alone t.participant (heard ++ [a])) t.participant t.work :=
      answered_eq_of_own_eq hw (by rw [own_alone, hown']) t.work
    refine ⟨(fun h => nomatch h), heard ++ [a], ?_, ?_⟩
    · rw [List.append_nil, hown']
      exact (List.append_nil _).symm
    · show SameEnd (workAlone w t.participant t.machine (heard ++ [a])
        (w.answered log t.participant t.work)) _
      rw [hanswer]
      rw [workAlone_of_next ha] at hend
      exact ⟨hend.ending, hend.machine, hend.state⟩

/-- A task that is done has the outcome of the run alone, and asked what it
asks. -/
theorem done_of_resumes {t : Task} {asked : List Ask} {action : Action} {ns : String}
    {q : ParticipantPlan} {o : Outcome} (hname : t.participant = q.participant)
    (hr : t.Resumes w asked (.ofPlan action ns q)) (ho : t.outcome? action = some o) :
    (w.runAlone action ns q).outcome? action q.participant = some o
      ∧ asked = (w.runAlone action ns q).trace.map Exchange.ask := by
  obtain ⟨-, heard, hasked, hend⟩ := hr
  unfold Task.outcome? at ho
  split at ho
  · next result hwork =>
      injection ho with ho
      rw [hwork, hname] at hend
      have hquiet : t.pending = [] := by
        unfold Task.pending
        rw [hwork]
        cases t.waiting <;> rfl
      have hrun : w.runAlone action ns q
          = workAlone w q.participant (.start .pending) [] (.ofPlan action ns q) := rfl
      constructor
      · unfold Run.outcome? Run.result?
        rw [hrun, ← hend.ending, ← hend.machine, ← ho, hname]
        rfl
      · have hstate := state_workAlone (w := w) (p := q.participant) (.ofPlan action ns q)
          (.start .pending) []
        rw [hrun, hasked, hquiet, List.append_nil, ← List.nil_append (List.map _ _), ← hstate,
          ← hend.state]
        rfl
  · cases ho

-- ======================================================= whole schedules

variable {action : Action} {ns : String} {plan : Plan} {s s' : State}

/-- A turn of a task is a step of it. -/
theorem fire_eq_some {i : Nat} (h : s.fire w i = some s') :
    ∃ t t' new, s.tasks[i]? = some t ∧ t.step w s.log = some (t', new)
      ∧ s' = ⟨s.log ++ new, s.tasks.set i t'⟩ := by
  unfold State.fire at h
  split at h
  · cases h
  · next t ht =>
      obtain ⟨⟨t', new⟩, hstep, rfl⟩ := Option.map_eq_some_iff.mp h
      exact ⟨t, t', new, ht, hstep, rfl⟩

/-- A turn of a task leaves the names of all tasks. -/
theorem names_fire {i : Nat} (h : s.fire w i = some s') :
    s'.tasks.map Task.participant = s.tasks.map Task.participant := by
  obtain ⟨t, t', new, ht, hstep, rfl⟩ := fire_eq_some h
  obtain ⟨hlt, hget⟩ := List.getElem?_eq_some_iff.mp ht
  show (s.tasks.set i t').map Task.participant = _
  rw [List.map_set, (step_participant hstep).1]
  apply List.ext_getElem?
  intro j
  rw [List.getElem?_set, List.getElem?_map]
  split
  · next hij => subst hij; simp [hlt, hget]
  · rfl

/-- It keeps what holds of each task at its place, if the step of the task
does and so does what others ask. -/
theorem keeps_fire {P : Nat → List Event → Task → Prop}
    (hstep : ∀ i log t t' new, t.step w log = some (t', new) → P i log t → P i (log ++ new) t')
    (hother : ∀ i log t q asks, t.participant ≠ q → P i log t → P i (log ++ alone q asks) t)
    (hnames : (s.tasks.map Task.participant).Nodup)
    (hs : ∀ i t, s.tasks[i]? = some t → P i s.log t) {i : Nat} (h : s.fire w i = some s') :
    ∀ j u, s'.tasks[j]? = some u → P j s'.log u := by
  obtain ⟨t, t', new, ht, htt', rfl⟩ := fire_eq_some h
  obtain ⟨-, asks, hnew⟩ := step_participant htt'
  intro j u hu
  by_cases hij : i = j
  · subst hij
    rw [List.getElem?_set_self (List.getElem?_eq_some_iff.mp ht).1] at hu
    injection hu with hu
    subst hu
    exact hstep _ _ _ _ _ htt' (hs _ _ ht)
  · rw [List.getElem?_set_ne hij] at hu
    have hne : u.participant ≠ t.participant := by
      intro heq
      apply hij
      have hi : (s.tasks.map Task.participant)[i]? = some t.participant := by
        rw [List.getElem?_map, ht]; rfl
      have hj : (s.tasks.map Task.participant)[j]? = some t.participant := by
        rw [List.getElem?_map, hu, ← heq]; rfl
      exact (List.getElem?_inj (List.getElem?_eq_some_iff.mp hi).1 hnames).mp (hi.trans hj.symm)
    show P j (s.log ++ new) u
    rw [hnew]
    exact hother _ _ _ _ asks hne (hs _ _ hu)

/-- So does a whole schedule: it leaves the names, and keeps what the steps
keep. -/
theorem keeps_run {P : Nat → List Event → Task → Prop}
    (hstep : ∀ i log t t' new, t.step w log = some (t', new) → P i log t → P i (log ++ new) t')
    (hother : ∀ i log t q asks, t.participant ≠ q → P i log t → P i (log ++ alone q asks) t)
    (schedule : List Nat) :
    ∀ {s s' : State}, (s.tasks.map Task.participant).Nodup →
      (∀ i t, s.tasks[i]? = some t → P i s.log t) → s.run w schedule = some s' →
      s'.tasks.map Task.participant = s.tasks.map Task.participant
        ∧ ∀ i t, s'.tasks[i]? = some t → P i s'.log t := by
  induction schedule with
  | nil =>
      intro s s' _ hs h
      injection h with h
      subst h
      exact ⟨rfl, hs⟩
  | cons i rest ih =>
      intro s s' hnames hs h
      unfold State.run at h
      split at h
      · next s₁ hfire =>
          have hnames₁ := names_fire hfire
          obtain ⟨hnames', hs'⟩ :=
            ih (hnames₁ ▸ hnames) (keeps_fire hstep hother hnames hs hfire) h
          exact ⟨hnames'.trans hnames₁, hs'⟩
      · cases h

/-- Every participant of the plan has a task, which has left what its run
alone has left. -/
structure Follows (w : World) (action : Action) (ns : String) (plan : Plan) (s : State) :
    Prop where
  names : s.tasks.map Task.participant = plan.participants.map ParticipantPlan.participant
  resumes : ∀ {i : Nat} {t : Task} {q : ParticipantPlan}, s.tasks[i]? = some t →
    plan.participants[i]? = some q → t.Resumes w (own q.participant s.log) (.ofPlan action ns q)

/-- The task of a participant has its name. -/
theorem Follows.name (hf : Follows w action ns plan s) {i : Nat} {t : Task}
    {q : ParticipantPlan} (ht : s.tasks[i]? = some t) (hq : plan.participants[i]? = some q) :
    t.participant = q.participant := by
  have h := congrArg (fun names => names[i]?) hf.names
  simpa only [List.getElem?_map, ht, hq, Option.map_some, Option.some.injEq] using h

/-- The tasks of a plan have the names of the plan. -/
theorem names_start (action : Action) (ns : String) (plan : Plan) :
    (State.start action ns plan).tasks.map Task.participant
      = plan.participants.map ParticipantPlan.participant := by
  show (plan.participants.map (Task.start action ns)).map Task.participant = _
  rw [List.map_map]
  rfl

/-- In the beginning everything is left. -/
theorem follows_start (w : World) (action : Action) (ns : String) (plan : Plan) :
    Follows w action ns plan (.start action ns plan) where
  names := names_start action ns plan
  resumes := by
    intro i t q ht hq
    rw [State.start, List.getElem?_map, hq] at ht
    injection ht with ht
    subst ht
    exact resumes_start w action ns q

/-- A schedule keeps every task on its run: its own steps do, and it does not
hear of the others'. -/
theorem follows_run (hw : w.Separate)
    (hnames : (plan.participants.map ParticipantPlan.participant).Nodup) (schedule : List Nat)
    (hf : Follows w action ns plan s) (h : s.run w schedule = some s') :
    Follows w action ns plan s' := by
  let P : Nat → List Event → Task → Prop := fun i log t =>
    ∀ q, plan.participants[i]? = some q →
      t.participant = q.participant
        ∧ t.Resumes w (own q.participant log) (.ofPlan action ns q)
  have hstep : ∀ i log t t' new, t.step w log = some (t', new) → P i log t →
      P i (log ++ new) t' := by
    intro i log t t' new hstep ht q hq
    obtain ⟨hname, hr⟩ := ht q hq
    rw [← hname] at hr ⊢
    exact ⟨(step_participant hstep).1, resumes_step hw hstep hr⟩
  have hother : ∀ i log t p asks, t.participant ≠ p → P i log t →
      P i (log ++ alone p asks) t := by
    intro i log t p asks hne ht q hq
    obtain ⟨hname, hr⟩ := ht q hq
    rw [own_append_of_ne (hname ▸ hne)]
    exact ⟨hname, hr⟩
  obtain ⟨hnames', hs'⟩ := keeps_run hstep hother schedule (hf.names ▸ hnames)
    (fun i t ht q hq => ⟨hf.name ht hq, hf.resumes ht hq⟩) h
  exact ⟨hnames'.trans hf.names, fun ht hq => (hs' _ _ ht _ hq).2⟩

-- ================================================================ no deadlock

/-- A schedule after a turn. -/
theorem run_cons {i : Nat} {rest : List Nat} (h : s.fire w i = some s') :
    s.run w (i :: rest) = s'.run w rest := by
  rw [State.run, h]

/-- A step of a task is taken when it has its turn. -/
theorem fire_of_step {i : Nat} {t t' : Task} {new : List Event} (ht : s.tasks[i]? = some t)
    (h : t.step w s.log = some (t', new)) :
    s.fire w i = some ⟨s.log ++ new, s.tasks.set i t'⟩ := by
  rw [State.fire, ht]
  show (t.step w s.log).map _ = _
  rw [h]
  rfl

/-- The task has come to its end. -/
def Task.Done (t : Task) : Prop := ∃ result, t.work = .done result

/-- A schedule that takes the `i`-th task to `t` and leaves the others as they
were. -/
def Leads (w : World) (i : Nat) (s : State) (t : Task) (s' : State) : Prop :=
  s'.tasks = s.tasks.set i t ∧ ∃ schedule, ∀ rest, s.run w (schedule ++ rest) = s'.run w rest

theorem Leads.trans {i : Nat} {t t' : Task} {s'' : State} (h : Leads w i s t s')
    (h' : Leads w i s' t' s'') : Leads w i s t' s'' := by
  obtain ⟨htasks, first, hfirst⟩ := h
  obtain ⟨htasks', second, hsecond⟩ := h'
  refine ⟨?_, first ++ second, ?_⟩
  · rw [htasks', htasks, List.set_set]
  · intro rest
    rw [List.append_assoc, hfirst, hsecond]

/-- A step leads to the task after it. -/
theorem leads_of_step {i : Nat} {t t' : Task} {new : List Event} (ht : s.tasks[i]? = some t)
    (h : t.step w s.log = some (t', new)) :
    Leads w i s t' ⟨s.log ++ new, s.tasks.set i t'⟩ :=
  ⟨rfl, [i], fun _ => run_cons (fire_of_step ht h)⟩

theorem Leads.getElem? {i : Nat} {t t' : Task} (h : Leads w i s t' s')
    (ht : s.tasks[i]? = some t) : s'.tasks[i]? = some t' := by
  rw [h.1, List.getElem?_set_self (List.getElem?_eq_some_iff.mp ht).1]

/-- A task that does not wait makes its request. -/
theorem step_asks {t : Task} {a : Ask} (ha : next? t.work = some a) (hwaiting : t.waiting = false)
    (log : List Event) :
    t.step w log = some ({ t with waiting := true }, alone t.participant [a]) := by
  unfold Task.step
  rw [ha, hwaiting]
  rfl

/-- A task that waits hears the answer. -/
theorem step_hears {t : Task} {a : Ask} (ha : next? t.work = some a) (hwaiting : t.waiting = true)
    (log : List Event) :
    t.step w log
      = some ({ t with work := w.answered log t.participant t.work, waiting := false }, []) := by
  unfold Task.step
  rw [ha, hwaiting]
  rfl

/-- A request is made, unless it is made already, and then answered. -/
theorem leads_answered {i : Nat} {t : Task} {a : Ask} (ht : s.tasks[i]? = some t)
    (ha : next? t.work = some a) :
    ∃ log t' s', Leads w i s t' s' ∧ t'.participant = t.participant
      ∧ t'.work = w.answered log t.participant t.work := by
  cases hwaiting : t.waiting with
  | true => exact ⟨s.log, _, _, leads_of_step ht (step_hears ha hwaiting s.log), rfl, rfl⟩
  | false =>
      have hasks := leads_of_step ht (step_asks (w := w) ha hwaiting s.log)
      have ha' : next? { t with waiting := true }.work = some a := ha
      have hhears := leads_of_step (hasks.getElem? ht) (step_hears (w := w) ha' rfl _)
      exact ⟨_, _, _, hasks.trans hhears, rfl, rfl⟩

/-- One task can be brought to its end. -/
theorem leads_done (w : World) (i : Nat) (p : String) (work : Work) :
    ∀ {s : State} {t : Task}, s.tasks[i]? = some t → t.participant = p → t.work = work →
      ∃ t' s', Leads w i s t' s' ∧ t'.Done := by
  induction work using World.turns w p with
  | done result =>
      intro s t ht _ hwork
      obtain ⟨hlt, hget⟩ := List.getElem?_eq_some_iff.mp ht
      refine ⟨t, s, ⟨?_, [], fun _ => rfl⟩, result, hwork⟩
      rw [← hget, List.set_getElem_self]
  | enter input rest ih =>
      intro s t ht hp hwork
      have hstep : t.step w s.log
          = some ({ t with machine := (t.machine.advance input).1, work := rest }, []) := by
        unfold Task.step
        rw [hwork]
        rfl
      have hleads := leads_of_step ht hstep
      obtain ⟨t', s', hrest, hdone⟩ := ih (hleads.getElem? ht) hp rfl
      exact ⟨t', s', hleads.trans hrest, hdone⟩
  | turn work a ha ih =>
      intro s t ht hp hwork
      subst hp hwork
      obtain ⟨log, t₁, s₁, hleads, hp₁, hwork₁⟩ := leads_answered (w := w) ht ha
      obtain ⟨t', s', hrest, hdone⟩ := ih log (hleads.getElem? ht) hp₁ hwork₁
      exact ⟨t', s', hleads.trans hrest, hdone⟩

/-- The tasks can be brought to their end one after another. -/
theorem exists_all_done (w : World) (s : State) (n : Nat) :
    ∃ (schedule : List Nat) (s' : State), (∀ rest, s.run w (schedule ++ rest) = s'.run w rest)
      ∧ s'.tasks.length = s.tasks.length ∧ ∀ i t, i < n → s'.tasks[i]? = some t → t.Done := by
  induction n with
  | zero => exact ⟨[], s, fun _ => rfl, rfl, fun i t hi _ => absurd hi (Nat.not_lt_zero i)⟩
  | succ n ih =>
      obtain ⟨schedule, s₁, hrun, hlength, hdone⟩ := ih
      cases hn : s₁.tasks[n]? with
      | none =>
          refine ⟨schedule, s₁, hrun, hlength, ?_⟩
          intro i t hi ht
          have hi' : i ≠ n := by rintro rfl; rw [hn] at ht; cases ht
          exact hdone i t (by omega) ht
      | some u =>
          obtain ⟨u', s', hleads, hu'⟩ := leads_done w n u.participant u.work hn rfl rfl
          obtain ⟨htasks, more, hmore⟩ := id hleads
          refine ⟨schedule ++ more, s', ?_, ?_, ?_⟩
          · intro rest
            rw [List.append_assoc, hrun, hmore]
          · rw [htasks, List.length_set, hlength]
          · intro i t hi ht
            by_cases hin : i = n
            · subst hin
              rw [hleads.getElem? hn] at ht
              injection ht with ht
              exact ht ▸ hu'
            · rw [htasks, List.getElem?_set_ne (Ne.symm hin)] at ht
              exact hdone i t (by omega) ht

/-- No order of turns comes to a dead end: whatever was scheduled so far, the
operation can still be carried through. -/
theorem exists_completes (w : World) (action : Action) (s : State) :
    ∃ schedule s' outcomes, s.run w schedule = some s' ∧ s'.outcomes? action = some outcomes := by
  obtain ⟨schedule, s', hrun, hlength, hdone⟩ :=
    exists_all_done w s s.tasks.length
  have hend : s.run w schedule = some s' := by
    rw [← List.append_nil schedule, hrun]
    rfl
  cases ho : s'.outcomes? action with
  | some outcomes => exact ⟨schedule, s', outcomes, hend, ho⟩
  | none =>
      obtain ⟨t, ht, hnone⟩ := mapM_eq_none_iff.mp ho
      obtain ⟨i, hi⟩ := List.getElem?_of_mem ht
      have hlt : i < s'.tasks.length := (List.getElem?_eq_some_iff.mp hi).1
      obtain ⟨result, hwork⟩ := hdone i t (hlength ▸ hlt) hi
      rw [Task.outcome?, hwork] at hnone
      cases hnone

end NetworkSlice.Interleaving
