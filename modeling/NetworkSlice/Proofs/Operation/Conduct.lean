import NetworkSlice.Proofs.Operation.Turns
import NetworkSlice.Proofs.Resource.Keys

/-
What work asks for and how it ends, whatever it is answered.

`Work.Ensures` is a promise about all branches of some work: every request is
of a certain kind, and so is every result. The promise may rely on the
answers; branches for answers that never come do not count. It is read off the
work alone, and a run of the work on a site that answers as relied on keeps it
(`Run.keeps`), with or without a deadline.

What is done with the objects of a plan is the one loop there is in the work,
forwards for applying and backwards for deleting. `Work.Loop` says of both what
they have in common: they go on to the next object after an answer that passes
and stop at one that does not. A created object has to be new, and a deleted one
may have been absent. A property of work that holds of the loop's ends, and of a
call if it holds after every answer, holds of the loop (`submit_closed`).

`ofPlan_ensures` says what it takes for the work of a participant to keep a
promise: no more than that the promise allows each kind of request where the
work makes it, and each error where it comes from.
-/
namespace NetworkSlice

-- ============================================================ promises

/-- What answers some work relies on. -/
structure Rely where
  resolve : Except SliceError Credential → Prop
  connect : Except SliceError Unit → Prop
  call : Except ObjectError Unit → Prop

/-- The site answers as relied on. -/
structure Site.Meets {σ : Type} (site : Site σ) (rely : Rely) : Prop where
  resolve : ∀ state, rely.resolve (site.resolve state).answer
  connect : ∀ state c, rely.connect (site.connect state c).answer
  call : ∀ state r, rely.call (site.call state r).answer

/-- Any answer will do. -/
def Rely.any : Rely := ⟨fun _ => True, fun _ => True, fun _ => True⟩

theorem Site.meets_any {σ : Type} (site : Site σ) : site.Meets .any where
  resolve _ := trivial
  connect _ _ := trivial
  call _ _ := trivial

/-- All that the work asks for is allowed by `asks` and all that it ends with
by `ends`, as long as the answers are as relied on. -/
def Work.Ensures (rely : Rely) (asks : Ask → Prop) (ends : Except SliceError String → Prop) :
    Work → Prop
  | .done result => ends result
  | .enter _ rest => rest.Ensures rely asks ends
  | .resolve next => asks .resolve ∧ ∀ a, rely.resolve a → (next a).Ensures rely asks ends
  | .connect c next => asks (.connect c) ∧ ∀ a, rely.connect a → (next a).Ensures rely asks ends
  | .call r next => asks (.call r) ∧ ∀ a, rely.call a → (next a).Ensures rely asks ends

variable {σ : Type} {site : Site σ} {rely : Rely} {asks : Ask → Prop}
  {ends : Except SliceError String → Prop}

/-- The promise holds of the next request and of the work that is left. -/
theorem Work.Ensures.turn {work : Work} {state : σ} {t : Turn σ}
    (h : work.Ensures rely asks ends) (hsite : site.Meets rely)
    (ht : site.turn? state work = some t) : asks t.ask ∧ t.rest.Ensures rely asks ends := by
  rcases Site.turn?_cases ht with ⟨next, rfl, rfl⟩ | ⟨c, next, rfl, rfl⟩ | ⟨r, next, rfl, rfl⟩
  · exact ⟨h.1, h.2 _ (hsite.resolve state)⟩
  · exact ⟨h.1, h.2 _ (hsite.connect state c)⟩
  · exact ⟨h.1, h.2 _ (hsite.call state r)⟩

/-- A run keeps the promise of its work. -/
theorem Run.keeps (hsite : site.Meets rely) (deadline : Option Nat) (work : Work) (state : σ)
    (now : Nat) (m : Machine) (h : work.Ensures rely asks ends) :
    (∀ x ∈ (Run.work site deadline now m state work).trace, asks x.ask)
      ∧ ∀ result, (Run.work site deadline now m state work).ending = .finished result →
          ends result := by
  induction work, state using turns site generalizing now m with
  | done result state =>
      constructor
      · intro x hx; cases hx
      · intro result' hend
        injection hend with hend
        exact hend ▸ h
  | enter input rest state ih => exact ih now (m.advance input).1 h
  | turn work state t ht ih =>
      obtain ⟨hask, hrest⟩ := h.turn hsite ht
      constructor
      · intro x hx
        rcases mem_trace_of_turn ht hx with ⟨hx, -, -⟩ | ⟨time, -, hx⟩
        · exact hx ▸ hask
        · exact (ih time m hrest).1 x hx
      · intro result hend
        obtain ⟨time, -, hend⟩ := finished_of_turn ht hend
        exact (ih time m hrest).2 result hend

/-- A run keeps what every request of its work keeps, whether it is answered or
given up. -/
theorem Run.keeps_state {I : σ → Prop} (hsite : site.Meets rely)
    (hI : ∀ state work t, site.turn? state work = some t → asks t.ask → I state →
      I t.state ∧ I t.abandoned)
    (deadline : Option Nat) (work : Work) (state : σ) (now : Nat) (m : Machine)
    (h : work.Ensures rely asks ends) (hstate : I state) :
    I (Run.work site deadline now m state work).state := by
  induction work, state using turns site generalizing now m with
  | done result state => exact hstate
  | enter input rest state ih => exact ih now (m.advance input).1 h hstate
  | turn work state t ht ih =>
      obtain ⟨hask, hrest⟩ := h.turn hsite ht
      obtain ⟨hanswered, habandoned⟩ := hI state work t ht hask hstate
      rw [work_of_turn ht]
      split
      · next time hwait => exact ih time m hrest hanswered
      · exact habandoned
      · exact habandoned

-- ================================================= objects of a plan

/-- What a cluster answers to a call. -/
abbrev Call.Answer := Except ObjectError Unit

/-- Whether the answer says that there was no object. -/
def Call.Answer.isAbsence : Call.Answer → Bool
  | .ok () => false
  | .error e => e.isNotFound

namespace Action

/-- The objects in the order in which they are called for. -/
def order (action : Action) (ds : List Descriptor) : List Descriptor :=
  match action with
  | .apply => ds
  | .delete => ds.reverse

/-- Whether the action goes on after an answer. -/
def Passes : Action → Call.Answer → Prop
  | _, .ok () => True
  | .apply, .error _ => False
  | .delete, .error e => e.isNotFound = true

/-- An apply goes on only where the object was created. -/
theorem passes_apply_iff {a : Call.Answer} : Action.apply.Passes a ↔ a = .ok () := by
  cases a with
  | ok u => exact ⟨fun _ => rfl, fun _ => trivial⟩
  | error e => exact ⟨fun h => h.elim, fun h => nomatch h⟩

/-- A delete goes on as well where there was nothing to delete. -/
theorem passes_delete_iff {a : Call.Answer} :
    Action.delete.Passes a ↔ a = .ok () ∨ ∃ name, a = .error (.notFound name) := by
  cases a with
  | ok u => exact ⟨fun _ => Or.inl rfl, fun _ => trivial⟩
  | error e =>
      show e.isNotFound = true ↔ _
      cases e <;> simp [ObjectError.isNotFound]

/-- What does not pass is an error. -/
theorem passes_or_refused (action : Action) (a : Call.Answer) :
    action.Passes a ∨ ∃ e, a = .error e ∧ ¬action.Passes (.error e) := by
  cases a with
  | ok u => exact Or.inl trivial
  | error e =>
      by_cases he : action.Passes (.error e)
      · exact Or.inl he
      · exact Or.inr ⟨e, rfl, he⟩

/-- Both actions go through the same objects. -/
theorem mem_order_iff {action : Action} {ds : List Descriptor} {d : Descriptor} :
    d ∈ action.order ds ↔ d ∈ ds := by
  cases action with
  | apply => exact Iff.rfl
  | delete => exact List.mem_reverse

/-- What is said of so many objects when all answers passed. -/
def message (action : Action) (total absent : Nat) : String :=
  match action with
  | .apply => s!"created {total} resources"
  | .delete => s!"deleted {total - absent} resources ({absent} already absent)"

end Action

/-- Work that calls for objects in turn, where so many were absent so far, and
goes on as long as the answers pass. -/
structure Work.Loop (action : Action) (participant ns : String) (total : Nat)
    (loop : Nat → List Descriptor → Work) : Prop where
  nil : ∀ absent, loop absent [] = .done (.ok (action.message total absent))
  cons : ∀ absent d rest, ∃ next, loop absent (d :: rest) = .call (action.call ns d) next
    ∧ (∀ a, action.Passes a → next a = loop (absent + if a.isAbsence then 1 else 0) rest)
    ∧ ∀ e, ¬action.Passes (.error e) →
      next (.error e) = .done (.error (.ofObjectError participant e))

namespace Work

variable {P : Work → Prop} {action : Action} {participant ns : String} {total : Nat}

/-- Creating is a loop that nothing absent makes a difference to. -/
theorem creates_loop (participant ns : String) (total : Nat) :
    Loop .apply participant ns total fun _ ds => creates participant ns total ds where
  nil _ := rfl
  cons absent d rest := by
    refine ⟨_, rfl, fun a ha => ?_, fun e _ => rfl⟩
    rw [Action.passes_apply_iff.mp ha]

/-- Deleting is such a loop, and counts what was absent. -/
theorem deletes_loop (participant ns : String) (total : Nat) :
    Loop .delete participant ns total (deletes participant ns total) where
  nil _ := rfl
  cons absent d rest := by
    refine ⟨_, rfl, fun a ha => ?_, fun e he => if_neg he⟩
    rcases Action.passes_delete_iff.mp ha with rfl | ⟨name, rfl⟩
    · rfl
    · rfl

/-- What is done with the objects of a plan is such a loop. -/
theorem submit_eq_loop (action : Action) (ns : String) (q : ParticipantPlan) :
    ∃ loop, Loop action q.participant ns q.descriptors.length loop
      ∧ submit action ns q = loop 0 (action.order q.descriptors) := by
  cases action with
  | apply => exact ⟨_, creates_loop .., rfl⟩
  | delete => exact ⟨_, deletes_loop .., rfl⟩

/-- A property of successes and object errors that passes to a call from what
comes after it holds of the whole loop. -/
theorem Loop.closed {loop : Nat → List Descriptor → Work} (h : Loop action participant ns total loop)
    {ds : List Descriptor}
    (hcall : ∀ d ∈ ds, ∀ next, (∀ a, P (next a)) → P (.call (action.call ns d) next))
    (hobject : ∀ e, P (.done (.error (.ofObjectError participant e))))
    (hok : ∀ text, P (.done (.ok text))) : ∀ absent, P (loop absent ds) := by
  induction ds with
  | nil => intro absent; rw [h.nil]; exact hok _
  | cons d rest ih =>
      intro absent
      obtain ⟨hd, hrest⟩ := List.forall_mem_cons.mp hcall
      obtain ⟨next, hloop, hpassed, hrefused⟩ := h.cons absent d rest
      rw [hloop]
      refine hd next fun a => ?_
      rcases action.passes_or_refused a with ha | ⟨e, rfl, he⟩
      · rw [hpassed a ha]
        exact ih hrest _
      · rw [hrefused e he]
        exact hobject e

/-- What is closed in this way holds of all that is done with the objects, in
one direction or the other. -/
theorem submit_closed {p : ParticipantPlan}
    (hcall : ∀ d ∈ p.descriptors, ∀ next, (∀ a, P (next a)) → P (.call (action.call ns d) next))
    (hobject : ∀ e, P (.done (.error (.ofObjectError p.participant e))))
    (hok : ∀ text, P (.done (.ok text))) : P (submit action ns p) := by
  obtain ⟨loop, hloop, hsubmit⟩ := submit_eq_loop action ns p
  rw [hsubmit]
  exact hloop.closed (fun d hd => hcall d (Action.mem_order_iff.mp hd)) hobject hok 0

-- ================================================= work of a participant

/-- The work on a cluster asks it for the objects alone. -/
theorem submit_ensures {action : Action} {p : ParticipantPlan}
    (hcall : ∀ d ∈ p.descriptors, asks (.call (action.call ns d)))
    (hobject : ∀ e, ends (.error (.ofObjectError p.participant e)))
    (hok : ∀ text, ends (.ok text)) :
    (submit action ns p).Ensures rely asks ends :=
  submit_closed (fun d hd _ hnext => ⟨hcall d hd, fun a _ => hnext a⟩) hobject hok

/-- The work for a participant asks for its credentials, connects with them if
they are there, and calls its cluster for its objects; its errors are those of
the credentials and of the connection, and what became of the cluster's. -/
theorem ofPlan_ensures {action : Action} {p : ParticipantPlan} (hresolve : asks .resolve)
    (hconnect : ∀ c, rely.resolve (.ok c) → asks (.connect c))
    (hcall : ∀ d ∈ p.descriptors, asks (.call (action.call ns d)))
    (hcredential : ∀ e, rely.resolve (.error e) → ends (.error e))
    (hreach : ∀ e, rely.connect (.error e) → ends (.error e))
    (hobject : ∀ e, ends (.error (.ofObjectError p.participant e)))
    (hok : ∀ text, ends (.ok text)) :
    (ofPlan action ns p).Ensures rely asks ends := by
  refine ⟨hresolve, ?_⟩
  intro found hfound
  cases found with
  | error e => exact hcredential e hfound
  | ok c =>
      refine ⟨hconnect c hfound, ?_⟩
      intro reached hreached
      cases reached with
      | error e => exact hreach e hreached
      | ok u => exact submit_ensures hcall hobject hok

end Work

end NetworkSlice
