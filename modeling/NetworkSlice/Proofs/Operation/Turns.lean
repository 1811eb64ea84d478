import NetworkSlice.Operation.Run

/-
Runs, one request at a time.

Work asks for things of three kinds, and waits for all of them alike.
`Site.turn?` brings the three to one form: what is asked, how long the site
takes to answer, and what it leaves to do. What a run does with a request is
then said once (`work_of_turn`), and a proof about runs by induction on the
work has three cases in place of five (`turns`): it is done, something happens
to the participant, or it asks.
-/
namespace NetworkSlice

variable {σ : Type} {site : Site σ} {deadline : Option Nat} {now time : Nat} {m : Machine}
  {state : σ} {work : Work}

-- ============================================================== waiting

namespace Wait

/-- A wait that ends with an answer ends when the answer is there. -/
theorem until_ready {after : Option Nat} (h : Wait.until deadline now after = .ready time) :
    ∃ d, after = some d ∧ time = now + d := by
  unfold Wait.until at h
  split at h
  · next d => injection h with h; exact ⟨d, rfl, h.symm⟩
  · next d limit =>
      split at h
      case isTrue => injection h with h; exact ⟨d, rfl, h.symm⟩
      case isFalse => cases h
  · cases h
  · cases h

/-- A wait is given up at the deadline, unless it began after it. -/
theorem until_expired {after : Option Nat} (h : Wait.until deadline now after = .expired time) :
    ∃ limit, deadline = some limit ∧ time = max now limit := by
  unfold Wait.until at h
  split at h
  · cases h
  · next d limit =>
      split at h
      case isTrue => cases h
      case isFalse => injection h with h; exact ⟨limit, rfl, h.symm⟩
  · next limit => injection h with h; exact ⟨limit, rfl, h.symm⟩
  · cases h

/-- A wait is endless when there is neither answer nor deadline. -/
theorem until_endless {after : Option Nat} (h : Wait.until deadline now after = .endless) :
    deadline = none ∧ after = none := by
  unfold Wait.until at h
  split at h
  · cases h
  · split at h
    case isTrue => cases h
    case isFalse => cases h
  · cases h
  · exact ⟨rfl, rfl⟩

/-- Up to the deadline a wait is for the answers that come by then. -/
theorem until_of_le {limit d : Nat} (hd : now + d ≤ limit) :
    Wait.until (some limit) now (some d) = .ready (now + d) :=
  if_pos (Or.inr hd)

/-- What takes no time is always waited for. -/
theorem until_zero (deadline : Option Nat) (now : Nat) :
    Wait.until deadline now (some 0) = .ready now := by
  cases deadline with
  | none => rfl
  | some limit => simp [Wait.until]

/-- For answers that come later, or never, a wait lasts up to the deadline. -/
theorem until_of_lt {limit : Nat} {after : Option Nat} (hnow : now ≤ limit)
    (hlate : ∀ d, after = some d → limit < now + d) :
    Wait.until (some limit) now after = .expired limit := by
  unfold Wait.until
  cases after with
  | none => exact congrArg Wait.expired (Nat.max_eq_right hnow)
  | some d =>
      have hd := hlate d rfl
      have hlate : ¬(d = 0 ∨ now + d ≤ limit) := by omega
      exact (if_neg hlate).trans (congrArg Wait.expired (Nat.max_eq_right hnow))

end Wait

-- ================================================================ turns

/-- A request of some work, as a site answers it. -/
structure Turn (σ : Type) where
  ask : Ask
  /-- How long the answer takes; nothing if there is none. -/
  after : Option Nat
  /-- The site once it has answered. -/
  state : σ
  /-- The site if the request is given up. -/
  abandoned : σ
  /-- The work that is left after the answer. -/
  rest : Work

/-- The request that some work begins with, if it does. -/
def Site.turn? (site : Site σ) (state : σ) : Work → Option (Turn σ)
  | .done _ | .enter .. => none
  | .resolve next =>
    let reply := site.resolve state
    some ⟨.resolve, reply.after, reply.state, reply.abandoned, next reply.answer⟩
  | .connect c next =>
    let reply := site.connect state c
    some ⟨.connect c, reply.after, reply.state, reply.abandoned, next reply.answer⟩
  | .call r next =>
    let reply := site.call state r
    some ⟨.call r, reply.after, reply.state, reply.abandoned, next reply.answer⟩

/-- A request with the reply to it. -/
def Turn.of {α : Type} (ask : Ask) (reply : Reply σ α) (next : α → Work) : Turn σ :=
  ⟨ask, reply.after, reply.state, reply.abandoned, next reply.answer⟩

/-- What some work begins with is a request of one of three kinds. -/
theorem Site.turn?_cases {t : Turn σ} (h : site.turn? state work = some t) :
    (∃ next, work = .resolve next ∧ t = .of .resolve (site.resolve state) next)
      ∨ (∃ c next, work = .connect c next ∧ t = .of (.connect c) (site.connect state c) next)
      ∨ ∃ r next, work = .call r next ∧ t = .of (.call r) (site.call state r) next := by
  cases work with
  | done result => cases h
  | enter input rest => cases h
  | resolve next => injection h with h; exact Or.inl ⟨next, rfl, h.symm⟩
  | connect c next => injection h with h; exact Or.inr (Or.inl ⟨c, next, rfl, h.symm⟩)
  | call r next => injection h with h; exact Or.inr (Or.inr ⟨r, next, rfl, h.symm⟩)

namespace Run

/-- What a run does with a request. -/
theorem work_of_turn {t : Turn σ} (h : site.turn? state work = some t) :
    Run.work site deadline now m state work
      = match Wait.until deadline now t.after with
        | .ready time =>
          (Run.work site deadline time m t.state t.rest).after ⟨t.ask, m.phase, now, some time⟩
        | .expired time => ⟨.expired, time, m, [], t.abandoned, [⟨t.ask, m.phase, now, none⟩]⟩
        | .endless => ⟨.endless, now, m, [], t.abandoned, [⟨t.ask, m.phase, now, none⟩]⟩ := by
  rcases Site.turn?_cases h with ⟨next, rfl, rfl⟩ | ⟨c, next, rfl, rfl⟩ | ⟨r, next, rfl, rfl⟩
  · rfl
  · rfl
  · rfl

/-- What a run asks for is its first request, or asked for after the answer. -/
theorem mem_trace_of_turn {t : Turn σ} (h : site.turn? state work = some t) {x : Exchange}
    (hx : x ∈ (Run.work site deadline now m state work).trace) :
    (x.ask = t.ask ∧ x.phase = m.phase ∧ x.asked = now)
      ∨ ∃ time, Wait.until deadline now t.after = .ready time
        ∧ x ∈ (Run.work site deadline time m t.state t.rest).trace := by
  rw [work_of_turn h] at hx
  split at hx
  · next time hwait =>
      rcases List.mem_cons.mp hx with rfl | hx
      · exact Or.inl ⟨rfl, rfl, rfl⟩
      · exact Or.inr ⟨time, hwait, hx⟩
  · cases List.mem_singleton.mp hx
    exact Or.inl ⟨rfl, rfl, rfl⟩
  · cases List.mem_singleton.mp hx
    exact Or.inl ⟨rfl, rfl, rfl⟩

/-- A run that comes to a result does so after the answer to its first
request. -/
theorem finished_of_turn {t : Turn σ} (h : site.turn? state work = some t)
    {result : Except SliceError String}
    (hend : (Run.work site deadline now m state work).ending = .finished result) :
    ∃ time, Wait.until deadline now t.after = .ready time
      ∧ (Run.work site deadline time m t.state t.rest).ending = .finished result := by
  rw [work_of_turn h] at hend
  split at hend
  · next time hwait => exact ⟨time, hwait, hend⟩
  · cases hend
  · cases hend

/-- A run that is answered all it asks goes on after its first request. -/
theorem work_of_answered {t : Turn σ} (h : site.turn? state work = some t)
    (hall : ∀ x ∈ (Run.work site deadline now m state work).trace, x.answered ≠ none) :
    ∃ time x, x.ask = t.ask
      ∧ Run.work site deadline now m state work
        = (Run.work site deadline time m t.state t.rest).after x
      ∧ ∀ y ∈ (Run.work site deadline time m t.state t.rest).trace, y.answered ≠ none := by
  rw [work_of_turn h] at hall ⊢
  split at hall
  · next time hwait =>
      exact ⟨time, _, rfl, rfl, fun y hy => hall y (List.mem_cons_of_mem _ hy)⟩
  · exact absurd rfl (hall _ (List.mem_singleton_self _))
  · exact absurd rfl (hall _ (List.mem_singleton_self _))

/-- Induction on work with one case for all requests. -/
theorem turns (site : Site σ) {motive : Work → σ → Prop}
    (done : ∀ result state, motive (.done result) state)
    (enter : ∀ input rest state, motive rest state → motive (.enter input rest) state)
    (turn : ∀ work state t, site.turn? state work = some t → motive t.rest t.state →
      motive work state)
    (work : Work) : ∀ state, motive work state := by
  induction work with
  | done result => exact done result
  | enter input rest ih => intro state; exact enter input rest state (ih state)
  | resolve next ih => intro state; exact turn _ state _ rfl (ih _ _)
  | connect c next ih => intro state; exact turn _ state _ rfl (ih _ _)
  | call r next ih => intro state; exact turn _ state _ rfl (ih _ _)

/-- A run asks for nothing before its time. -/
theorem le_asked (site : Site σ) (deadline : Option Nat) (work : Work) (state : σ) (now : Nat)
    (m : Machine) : ∀ x ∈ (Run.work site deadline now m state work).trace, now ≤ x.asked := by
  induction work, state using turns site generalizing now m with
  | done result state => intro x hx; cases hx
  | enter input rest state ih => exact ih now (m.advance input).1
  | turn work state t ht ih =>
      intro x hx
      rcases mem_trace_of_turn ht hx with ⟨-, -, hasked⟩ | ⟨time, hwait, hx⟩
      · exact Nat.le_of_eq hasked.symm
      · obtain ⟨d, -, rfl⟩ := Wait.until_ready hwait
        exact Nat.le_trans (Nat.le_add_right now d) (ih _ m x hx)

/-- A run has no end when a request of it has no answer and no deadline ends
the wait. -/
theorem endless_iff (site : Site σ) (deadline : Option Nat) (work : Work) (state : σ)
    (now : Nat) (m : Machine) :
    (Run.work site deadline now m state work).ending = .endless
      ↔ deadline = none
        ∧ ∃ x ∈ (Run.work site deadline now m state work).trace, x.answered = none := by
  induction work, state using turns site generalizing now m with
  | done result state =>
      constructor
      · intro h; cases h
      · rintro ⟨-, x, hx, -⟩; cases hx
  | enter input rest state ih => exact ih now (m.advance input).1
  | turn work state t ht ih =>
      rw [work_of_turn ht]
      split
      · next time hwait =>
          refine (ih time m).trans (and_congr_right fun _ => ?_)
          constructor
          · rintro ⟨x, hx, hnone⟩
            exact ⟨x, List.mem_cons_of_mem _ hx, hnone⟩
          · rintro ⟨x, hx, hnone⟩
            rcases List.mem_cons.mp hx with rfl | hx
            · cases hnone
            · exact ⟨x, hx, hnone⟩
      · next time hwait =>
          obtain ⟨limit, hdeadline, -⟩ := Wait.until_expired hwait
          rw [hdeadline]
          constructor
          · intro h; cases h
          · rintro ⟨h, -⟩; cases h
      · next hwait =>
          exact ⟨fun _ => ⟨(Wait.until_endless hwait).1, _, List.mem_singleton_self _, rfl⟩,
            fun _ => rfl⟩

end Run

end NetworkSlice
