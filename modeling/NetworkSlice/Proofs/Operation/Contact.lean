import NetworkSlice.Proofs.Operation.Conduct
import NetworkSlice.Proofs.Operation.Interleaving

/-
How a participant comes to its cluster.

It asks for its credentials, connects with what it is given, and calls the
cluster once it is connected. `Contact` says so of all that a participant has
asked, at any time: there is one connection at most, none but with the
credentials it was given, and no call before the connection is made.

The order is a matter of the work alone. `Work.InStage` says that some work,
begun at a stage of the contact, makes only the requests that belong to the
stage and goes on to the next with the answer; the work for a participant does
from the beginning (`ofPlan_inStage`). A run by itself keeps to it
(`Run.contact_of_inStage`), and so does a task in the middle of any schedule
(`contact_of_run`), in any world: what the clusters answer, and what they make
their answers hang on, is of no account.
-/
namespace NetworkSlice

-- ============================================================== contacts

/-- What a participant has asked so far, where it may be `given` some
credential, and is connected with it or is not. -/
inductive Contact (given connected : Credential → Prop) : List Ask → Prop
  | idle : Contact given connected []
  | resolving : Contact given connected [.resolve]
  | connecting {c : Credential} (hgiven : given c) :
    Contact given connected [.resolve, .connect c]
  | calling {c : Credential} (hgiven : given c) (hconnected : connected c) (calls : List Call) :
    Contact given connected (.resolve :: .connect c :: calls.map .call)

/-- What a connection is asked for with. -/
def Ask.credential? : Ask → Option Credential
  | .connect c => some c
  | .resolve | .call _ => none

theorem Ask.credential?_eq_some_iff {a : Ask} {c : Credential} :
    a.credential? = some c ↔ a = .connect c := by
  cases a <;> simp [Ask.credential?]

variable {given given' connected connected' : Credential → Prop} {asks heard : List Ask}

theorem Contact.imp (h : Contact given connected asks) (hgiven : ∀ c, given c → given' c)
    (hconnected : ∀ c, connected c → connected' c) : Contact given' connected' asks := by
  cases h with
  | idle => exact .idle
  | resolving => exact .resolving
  | connecting hc => exact .connecting (hgiven _ hc)
  | calling hc hmade calls => exact .calling (hgiven _ hc) (hconnected _ hmade) calls

/-- A connection is with what was given. -/
theorem Contact.given_of_mem {c : Credential} (h : Contact given connected asks)
    (hc : .connect c ∈ asks) : given c := by
  cases h with
  | idle => cases hc
  | resolving => cases List.mem_singleton.mp hc
  | connecting hgiven =>
      rcases List.mem_cons.mp hc with hc | hc
      · cases hc
      · injection List.mem_singleton.mp hc with hc
        exact hc ▸ hgiven
  | calling hgiven hconnected calls =>
      rcases List.mem_cons.mp hc with hc | hc
      · cases hc
      · rcases List.mem_cons.mp hc with hc | hc
        · injection hc with hc
          exact hc ▸ hgiven
        · obtain ⟨r, -, hr⟩ := List.mem_map.mp hc
          cases hr

/-- Where nothing is given, nobody is asked for more than credentials. -/
theorem Contact.resolves (h : Contact given connected asks) (hnone : ∀ c, ¬ given c) :
    ∀ a ∈ asks, a = .resolve := by
  cases h with
  | idle => intro a ha; cases ha
  | resolving => exact fun a ha => List.mem_singleton.mp ha
  | connecting hc => exact absurd hc (hnone _)
  | calling hc => exact absurd hc (hnone _)

-- ================================================================ stages

/-- How far a contact has come. -/
inductive Stage where
  | fresh
  /-- The credentials are there, or it is known that they are not. -/
  | resolved
  | refused (c : Credential)
  | connected (c : Credential)

/-- What was asked, and answered, when the stage is reached; `found` is what
became of the credentials. -/
def Stage.Heard (found : Except SliceError Credential) (connected : Credential → Prop) :
    Stage → List Ask → Prop
  | .fresh, asks => asks = []
  | .resolved, asks => asks = [.resolve]
  | .refused c, asks => found = .ok c ∧ asks = [.resolve, .connect c]
  | .connected c, asks =>
    found = .ok c ∧ connected c
      ∧ ∃ calls : List Call, asks = .resolve :: .connect c :: calls.map .call

/-- All branches of the work keep to the stages, if it begins in this one. -/
def Work.InStage (found : Except SliceError Credential) (stage : Stage) : Work → Prop
  | .done _ => True
  | .enter _ rest => rest.InStage found stage
  | .resolve next => stage = .fresh ∧ (next found).InStage found .resolved
  | .connect c next =>
    stage = .resolved ∧ found = .ok c ∧ (next (.ok ())).InStage found (.connected c)
      ∧ ∀ e, (next (.error e)).InStage found (.refused c)
  | .call _ next => (∃ c, stage = .connected c) ∧ ∀ a, (next a).InStage found stage

variable {found : Except SliceError Credential} {stage : Stage} {work : Work}

/-- Work that does no more than call its cluster is in place once the contact
is made. -/
theorem Work.inStage_of_ensures {c : Credential} {ends : Except SliceError String → Prop}
    (h : work.Ensures .any (fun a => ∃ r, a = .call r) ends) :
    work.InStage found (.connected c) := by
  induction work with
  | done result => exact trivial
  | enter input rest ih => exact ih h
  | resolve next ih =>
      obtain ⟨⟨r, hr⟩, -⟩ := h
      cases hr
  | connect c' next ih =>
      obtain ⟨⟨r, hr⟩, -⟩ := h
      cases hr
  | call r next ih => exact ⟨⟨c, rfl⟩, fun a => ih a (h.2 a trivial)⟩

/-- The work for a participant goes through the stages in order. -/
theorem Work.ofPlan_inStage (found : Except SliceError Credential) (action : Action) (ns : String)
    (q : ParticipantPlan) : (ofPlan action ns q).InStage found .fresh := by
  refine ⟨rfl, ?_⟩
  cases found with
  | error e => exact trivial
  | ok c =>
      refine ⟨rfl, rfl, ?_, fun e => trivial⟩
      have hsubmit : (submit action ns q).Ensures .any (fun a => ∃ r, a = .call r) fun _ => True :=
        submit_ensures (fun d _ => ⟨_, rfl⟩) (fun _ => trivial) fun _ => trivial
      exact inStage_of_ensures hsubmit

/-- What was heard at a stage is a contact. -/
theorem Stage.Heard.contact (h : stage.Heard found connected heard) :
    Contact (found = .ok ·) connected heard := by
  cases stage with
  | fresh => exact h ▸ .idle
  | resolved => exact h ▸ .resolving
  | refused c => exact h.2 ▸ .connecting h.1
  | connected c =>
      obtain ⟨hfound, hconnected, calls, rfl⟩ := h
      exact .calling hfound hconnected calls

theorem Stage.Heard.imp (h : stage.Heard found connected heard)
    (hconnected : ∀ c, connected c → connected' c) : stage.Heard found connected' heard := by
  cases stage with
  | fresh => exact h
  | resolved => exact h
  | refused c => exact h
  | connected c => exact ⟨h.1, hconnected c h.2.1, h.2.2⟩

namespace Work.InStage

/-- So is what was heard together with the request that comes next. -/
theorem contact {a : Ask} (h : work.InStage found stage)
    (hheard : stage.Heard found connected heard) (ha : Interleaving.next? work = some a) :
    Contact (found = .ok ·) connected (heard ++ [a]) := by
  cases work with
  | done result => cases ha
  | enter input rest => cases ha
  | resolve next =>
      injection ha with ha
      obtain ⟨rfl, -⟩ := h
      rw [show heard = [] from hheard, ← ha]
      exact .resolving
  | connect c next =>
      injection ha with ha
      obtain ⟨rfl, hfound, -, -⟩ := h
      rw [show heard = [.resolve] from hheard, ← ha]
      exact .connecting hfound
  | call r next =>
      injection ha with ha
      obtain ⟨⟨c, rfl⟩, -⟩ := h
      obtain ⟨hfound, hconnected, calls, rfl⟩ := hheard
      have hcalls : (Ask.resolve :: .connect c :: calls.map .call) ++ [a]
          = .resolve :: .connect c :: (calls ++ [r]).map .call := by
        rw [List.map_append, ← ha]
        rfl
      rw [hcalls]
      exact .calling hfound hconnected (calls ++ [r])

/-- With the answer to a connection the contact is made or refused. -/
theorem connect {c : Credential} {next : Except SliceError Unit → Work}
    (h : (Work.connect c next).InStage found stage)
    (hheard : stage.Heard found connected heard) (a : Except SliceError Unit)
    (ha : a = .ok () → connected c) :
    ∃ stage', (next a).InStage found stage' ∧ stage'.Heard found connected (heard ++ [.connect c])
      ∧ stage' ≠ .fresh ∧ stage' ≠ .resolved := by
  obtain ⟨rfl, hfound, hok, herror⟩ := h
  rw [show heard = [.resolve] from hheard]
  cases a with
  | ok u =>
      exact ⟨.connected c, hok, ⟨hfound, ha rfl, [], rfl⟩, (fun h => nomatch h),
        fun h => nomatch h⟩
  | error e =>
      exact ⟨.refused c, herror e, ⟨hfound, rfl⟩, (fun h => nomatch h), fun h => nomatch h⟩

/-- The answer to a call changes nothing about the contact. -/
theorem call {r : Call} {next : Except ObjectError Unit → Work}
    (h : (Work.call r next).InStage found stage)
    (hheard : stage.Heard found connected heard) (a : Except ObjectError Unit) :
    (next a).InStage found stage ∧ stage.Heard found connected (heard ++ [.call r])
      ∧ stage ≠ .fresh ∧ stage ≠ .resolved := by
  obtain ⟨⟨c, rfl⟩, hnext⟩ := h
  obtain ⟨hfound, hconnected, calls, rfl⟩ := hheard
  refine ⟨hnext a, ⟨hfound, hconnected, calls ++ [r], ?_⟩, (fun h => nomatch h),
    fun h => nomatch h⟩
  rw [List.map_append]
  rfl

end Work.InStage

-- ================================================================== runs

variable {σ : Type} {site : Site σ} {begun state : σ}

/-- The site finds these credentials, and looking for them leaves it as it
is. -/
def Site.Finds (site : Site σ) (found : Except SliceError Credential) : Prop :=
  ∀ state, (site.resolve state).answer = found ∧ (site.resolve state).state = state

/-- The site as it is takes a connection. -/
def Site.Takes (site : Site σ) (state : σ) (c : Credential) : Prop :=
  (site.connect state c).answer = .ok ()

/-- A request belongs to the stage, and its answer leads on to the next. Until
it is connected to, the site stays as it was. -/
theorem Work.InStage.turn {t : Turn σ} (hsite : site.Finds found)
    (ht : site.turn? state work = some t) (h : work.InStage found stage)
    (hheard : stage.Heard found (site.Takes begun) heard)
    (hbegun : stage = .fresh ∨ stage = .resolved → state = begun) :
    Contact (found = .ok ·) (site.Takes begun) (heard ++ [t.ask])
      ∧ ∃ stage', t.rest.InStage found stage'
        ∧ stage'.Heard found (site.Takes begun) (heard ++ [t.ask])
        ∧ (stage' = .fresh ∨ stage' = .resolved → t.state = begun) := by
  rcases Site.turn?_cases ht with ⟨next, rfl, rfl⟩ | ⟨c, next, rfl, rfl⟩ | ⟨r, next, rfl, rfl⟩
  · refine ⟨h.contact hheard rfl, ?_⟩
    obtain ⟨rfl, hrest⟩ := h
    obtain ⟨hanswer, hstate⟩ := hsite state
    refine ⟨.resolved, ?_, ?_, fun _ => hstate.trans (hbegun (Or.inl rfl))⟩
    · show (next (site.resolve state).answer).InStage found .resolved
      rw [hanswer]
      exact hrest
    · show heard ++ [.resolve] = [.resolve]
      rw [show heard = [] from hheard]
      rfl
  · refine ⟨h.contact hheard rfl, ?_⟩
    obtain rfl : state = begun := hbegun (Or.inr h.1)
    obtain ⟨stage', hrest, hheard', hfresh, hresolved⟩ :=
      h.connect hheard (site.connect state c).answer id
    exact ⟨stage', hrest, hheard', fun h => absurd h (not_or.mpr ⟨hfresh, hresolved⟩)⟩
  · refine ⟨h.contact hheard rfl, ?_⟩
    obtain ⟨hrest, hheard', hfresh, hresolved⟩ := h.call hheard (site.call state r).answer
    exact ⟨stage, hrest, hheard', fun h => absurd h (not_or.mpr ⟨hfresh, hresolved⟩)⟩

namespace Run

/-- A run asks for nothing until all that it asked before is answered. -/
theorem pairwise_trace (site : Site σ) (deadline : Option Nat) (work : Work) (state : σ)
    (now : Nat) (m : Machine) :
    (Run.work site deadline now m state work).trace.Pairwise fun x y =>
      ∃ t, x.answered = some t ∧ t ≤ y.asked := by
  induction work, state using turns site generalizing now m with
  | done result state => exact List.Pairwise.nil
  | enter input rest state ih => exact ih now (m.advance input).1
  | turn work state t ht ih =>
      rw [work_of_turn ht]
      split
      · next time hwait =>
          refine List.pairwise_cons.mpr ⟨?_, ih time m⟩
          intro y hy
          exact ⟨time, rfl, le_asked site deadline t.rest t.state time m y hy⟩
      · exact List.pairwise_singleton _ _
      · exact List.pairwise_singleton _ _

/-- A run keeps to the stages of its work, from whatever stage it begins
in. -/
theorem contact_of_inStage (hsite : site.Finds found) (deadline : Option Nat) (work : Work)
    (state : σ) (now : Nat) (m : Machine) :
    ∀ {stage heard}, work.InStage found stage →
      stage.Heard found (site.Takes begun) heard →
      (stage = .fresh ∨ stage = .resolved → state = begun) →
      Contact (found = .ok ·) (site.Takes begun)
        (heard ++ (Run.work site deadline now m state work).trace.map Exchange.ask) := by
  induction work, state using turns site generalizing now m with
  | done result state =>
      intro stage heard _ hheard _
      rw [show (Run.work site deadline now m state (.done result)).trace = [] from rfl,
        List.map_nil, List.append_nil]
      exact hheard.contact
  | enter input rest state ih => exact ih now (m.advance input).1
  | turn work state t ht ih =>
      intro stage heard hwork hheard hbegun
      obtain ⟨hask, stage', hrest, hheard', hbegun'⟩ := hwork.turn hsite ht hheard hbegun
      rw [work_of_turn ht]
      split
      · next time hwait =>
          have h := ih time m hrest hheard' hbegun'
          rw [List.append_assoc] at h
          exact h
      · exact hask
      · exact hask

/-- The run of a participant's plan is a contact. -/
theorem ofPlan_contact (hsite : site.Finds found) (deadline : Option Nat) (now : Nat) (state : σ)
    (action : Action) (ns : String) (q : ParticipantPlan) :
    Contact (found = .ok ·) (site.Takes state)
      ((Run.ofPlan site deadline now state action ns q).trace.map Exchange.ask) :=
  contact_of_inStage hsite deadline _ state now (.start .pending)
    (Work.ofPlan_inStage found action ns q) rfl fun _ => rfl

end Run

-- ============================================================= schedules

namespace Interleaving

variable {w : World} {log : List Event} {p : String} {t t' : Task} {new : List Event}

/-- The connection was asked for, and the world made it. -/
def World.Made (w : World) (p : String) (log : List Event) (c : Credential) : Prop :=
  ∃ before, before <+: log ∧ own p before = [.resolve, .connect c]
    ∧ w.connect before p c = .ok ()

theorem World.Made.append {c : Credential} (h : w.Made p log c) (new : List Event) :
    w.Made p (log ++ new) c := by
  obtain ⟨before, hbefore, hrest⟩ := h
  exact ⟨before, hbefore.trans (List.prefix_append log new), hrest⟩

/-- The task has left the work of a stage, and has asked what it takes to get
there; one request more may be made and not answered. -/
structure Task.InContact (w : World) (found : Except SliceError Credential) (log : List Event)
    (t : Task) : Prop where
  waits : t.waiting = true → (next? t.work).isSome
  stage : ∃ stage heard, own t.participant log = heard ++ t.pending
    ∧ stage.Heard found (w.Made t.participant log) heard ∧ t.work.InStage found stage

/-- What it asked is a contact. -/
theorem Task.InContact.contact (h : t.InContact w found log) :
    Contact (found = .ok ·) (w.Made t.participant log) (own t.participant log) := by
  obtain ⟨hwaits, stage, heard, hown, hheard, hwork⟩ := h
  rw [hown]
  unfold Task.pending
  split
  · next hwaiting =>
      obtain ⟨a, ha⟩ := Option.isSome_iff_exists.mp (hwaits hwaiting)
      rw [ha]
      exact hwork.contact hheard ha
  · rw [List.append_nil]
    exact hheard.contact

/-- A task that has not begun is at the first stage. -/
theorem inContact_start (w : World) (found : Except SliceError Credential) (action : Action)
    (ns : String) (q : ParticipantPlan) : (Task.start action ns q).InContact w found [] where
  waits h := by cases h
  stage := ⟨.fresh, [], rfl, rfl, Work.ofPlan_inStage found action ns q⟩

/-- With the answer to a request the work goes on to the next stage. -/
theorem inStage_answered {a : Ask} (hfound : w.resolve log p = found)
    (h : work.InStage found stage) (hheard : stage.Heard found (w.Made p log) heard)
    (ha : next? work = some a) (hown : own p log = heard ++ [a]) :
    ∃ stage', (w.answered log p work).InStage found stage'
      ∧ stage'.Heard found (w.Made p log) (heard ++ [a]) := by
  cases work with
  | done result => cases ha
  | enter input rest => cases ha
  | resolve next =>
      injection ha with ha
      obtain ⟨rfl, hrest⟩ := h
      refine ⟨.resolved, ?_, ?_⟩
      · show (next (w.resolve log p)).InStage found .resolved
        rw [hfound]
        exact hrest
      · show heard ++ [a] = [.resolve]
        rw [show heard = [] from hheard, ← ha]
        rfl
  | connect c next =>
      injection ha with ha
      subst ha
      have hasked : own p log = [.resolve, .connect c] := by
        rw [h.1] at hheard
        rw [hown, show heard = [.resolve] from hheard]
        rfl
      obtain ⟨stage', hrest, hheard', -, -⟩ := h.connect hheard (w.connect log p c)
        fun hok => ⟨log, List.prefix_rfl, hasked, hok⟩
      exact ⟨stage', hrest, hheard'⟩
  | call r next =>
      injection ha with ha
      subst ha
      obtain ⟨hrest, hheard', -, -⟩ := h.call hheard (w.call log p r)
      exact ⟨stage, hrest, hheard'⟩

/-- A step of a task keeps it in contact. -/
theorem inContact_step (hfound : w.resolve log t.participant = found)
    (h : t.step w log = some (t', new)) (hc : t.InContact w found log) :
    t'.InContact w found (log ++ new) := by
  obtain ⟨hwaits, stage, heard, hown, hheard, hwork⟩ := hc
  unfold Task.pending at hown
  rcases step_cases h with ⟨input, rest, hinput, rfl, rfl⟩ | ⟨a, ha, hwaiting, rfl, rfl⟩
    | ⟨a, ha, hwaiting, rfl, rfl⟩
  · -- something happens, and the stage stays
    have hquiet := waiting_of_enter hwaits hinput
    rw [hquiet] at hown
    rw [hinput] at hwork
    rw [List.append_nil]
    refine ⟨fun h => ?_, stage, heard, ?_, hheard, hwork⟩
    · rw [hquiet] at h
      cases h
    · rw [hown]
      simp [Task.pending, hquiet]
  · -- a request: it is pending, and nothing more is heard
    rw [hwaiting] at hown
    refine ⟨fun _ => by simp [ha], stage, heard, ?_,
      hheard.imp fun c hmade => hmade.append _, hwork⟩
    rw [own_append, own_alone, hown]
    simp [Task.pending, ha]
  · -- an answer: what was pending is heard
    rw [hwaiting, ha] at hown
    obtain ⟨stage', hwork', hheard'⟩ := inStage_answered hfound hwork hheard ha hown
    rw [List.append_nil]
    refine ⟨(fun h => absurd h Bool.false_ne_true), stage', heard ++ [a], ?_, hheard', hwork'⟩
    exact hown.trans (List.append_nil _).symm

/-- What others ask is of no account. -/
theorem Task.InContact.append_of_ne {q : String} (h : t.InContact w found log)
    (hne : t.participant ≠ q) (asks : List Ask) : t.InContact w found (log ++ alone q asks) := by
  obtain ⟨hwaits, stage, heard, hown, hheard, hwork⟩ := h
  refine ⟨hwaits, stage, heard, ?_, hheard.imp fun c hmade => hmade.append _, hwork⟩
  rw [own_append_of_ne hne, hown]

/-- Nothing is asked in the name of one that has no task. -/
theorem own_run_of_not_mem (schedule : List Nat) :
    ∀ {s s' : State}, p ∉ s.tasks.map Task.participant → s.run w schedule = some s' →
      own p s'.log = own p s.log := by
  induction schedule with
  | nil =>
      intro s s' _ h
      injection h with h
      rw [h]
  | cons i rest ih =>
      intro s s' hp h
      unfold State.run at h
      split at h
      · next s₁ hfire =>
          rw [ih (by rw [names_fire hfire]; exact hp) h]
          obtain ⟨t, t', new, ht, hstep, rfl⟩ := fire_eq_some hfire
          obtain ⟨-, asks, rfl⟩ := step_participant hstep
          refine own_append_of_ne ?_ s.log asks
          exact fun heq => hp (heq ▸ List.mem_map_of_mem (List.mem_of_getElem? ht))
      · cases h

/-- At any time of any schedule, what a participant has asked is a contact. -/
theorem contact_of_run {vault : String → Except SliceError Credential}
    (hw : ∀ log p, w.resolve log p = vault p) {action : Action} {ns : String} {plan : Plan}
    (hnames : (plan.participants.map ParticipantPlan.participant).Nodup) {schedule : List Nat}
    {s : State} (h : (State.start action ns plan).run w schedule = some s) (p : String) :
    Contact (vault p = .ok ·) (w.Made p s.log) (own p s.log)
      ∧ (p ∉ plan.participants.map ParticipantPlan.participant → own p s.log = []) := by
  have hstart := names_start action ns plan
  have hstranger : p ∉ plan.participants.map ParticipantPlan.participant → own p s.log = [] := by
    intro hp
    exact own_run_of_not_mem schedule (hstart ▸ hp) h
  refine ⟨?_, hstranger⟩
  obtain ⟨hnames', hcontact⟩ := keeps_run
    (P := fun _ log t => t.InContact w (vault t.participant) log)
    (fun i log t t' new hstep hc => by
      rw [(step_participant hstep).1]
      exact inContact_step (hw log t.participant) hstep hc)
    (fun i log t q asks hne hc => hc.append_of_ne hne asks) schedule (hstart ▸ hnames)
    (fun i t ht => by
      obtain ⟨q, -, rfl⟩ := List.mem_map.mp (List.mem_of_getElem? ht)
      exact inContact_start w _ action ns q) h
  by_cases hp : p ∈ plan.participants.map ParticipantPlan.participant
  · rw [← hstart, ← hnames'] at hp
    obtain ⟨t, ht, rfl⟩ := List.mem_map.mp hp
    obtain ⟨i, hi⟩ := List.getElem?_of_mem ht
    exact (hcontact i t hi).contact
  · rw [hstranger hp]
    exact .idle

end Interleaving

end NetworkSlice
