import NetworkSlice.Proofs.Operation.Lifecycle

/-
What a cluster is called for, and how far.

The calls of a run are a beginning of those for all objects, in the order of the
action, whatever is answered and wherever the run is cut off: that much is read
off the work alone (`Work.CallsAlong`). How far they go is a matter of the
answers. `Action.Submits` is the loop over the objects with its answers, object
by object: it ends with the list of objects, or with the first answer that does
not pass. What follows of a loop without a refusal and of one with it is said
there (`Submits.of_none`, `Submits.of_some`), where there is neither time nor a
site. A run that is answered all it asks is such a loop (`Run.submits_of_loop`),
on any site, and it counts the absent objects.
-/
namespace NetworkSlice

-- ======================================================= calls and answers

/-- The call that is asked for, if it is one. -/
def Ask.call? : Ask → Option Call
  | .resolve | .connect _ => none
  | .call r => some r

/-- The calls of a run, in their order. -/
def Run.calls {σ : Type} (r : Run σ) : List Call := r.trace.filterMap fun x => x.ask.call?

/-- What a site answers to the calls among what it is asked in turn. -/
def Site.answers {σ : Type} (site : Site σ) (state : σ) : List Ask → List Call.Answer
  | [] => []
  | .resolve :: rest => site.answers (site.resolve state).state rest
  | .connect c :: rest => site.answers (site.connect state c).state rest
  | .call r :: rest => (site.call state r).answer :: site.answers (site.call state r).state rest

/-- What the site answers to the calls of a run from this state. -/
def Run.answers {σ : Type} (r : Run σ) (site : Site σ) (state : σ) : List Call.Answer :=
  site.answers state (r.trace.map Exchange.ask)

variable {σ : Type} {site : Site σ} {deadline : Option Nat} {now : Nat} {state : σ} {m : Machine}
  {action : Action} {participant ns : String} {ds : List Descriptor} {calls : List Call}

-- ================================================================ refusals

/-- Calls for objects in turn and the answers to them, up to the first that does
not pass, which is the refusal. -/
inductive Action.Submits (action : Action) (ns : String) :
    List Descriptor → List Call → List Call.Answer → Option ObjectError → Prop
  | done : Submits action ns [] [] [] none
  | refused {d : Descriptor} {rest : List Descriptor} {e : ObjectError}
      (h : ¬action.Passes (.error e)) :
    Submits action ns (d :: rest) [action.call ns d] [.error e] (some e)
  | passed {d : Descriptor} {rest : List Descriptor} {calls : List Call}
      {answers : List Call.Answer} {a : Call.Answer} {refusal : Option ObjectError}
      (ha : action.Passes a) (h : Submits action ns rest calls answers refusal) :
    Submits action ns (d :: rest) (action.call ns d :: calls) (a :: answers) refusal

namespace Action

variable {answers : List Call.Answer} {refusal : Option ObjectError} {e : ObjectError}

theorem Submits.length_eq (h : action.Submits ns ds calls answers refusal) :
    answers.length = calls.length := by
  induction h with
  | done => rfl
  | refused _ => rfl
  | passed _ _ ih => exact congrArg Nat.succ ih

/-- Without a refusal all objects are called for, and all answers pass. -/
theorem Submits.of_none (h : action.Submits ns ds calls answers none) :
    calls = ds.map (action.call ns) ∧ ∀ a ∈ answers, action.Passes a := by
  generalize hrefusal : (none : Option ObjectError) = refusal at h
  induction h with
  | done => exact ⟨rfl, List.forall_mem_nil _⟩
  | refused _ => cases hrefusal
  | passed ha _ ih =>
      obtain ⟨rfl, hall⟩ := ih hrefusal
      exact ⟨rfl, List.forall_mem_cons.mpr ⟨ha, hall⟩⟩

/-- A refusal is the last answer and the only one that does not pass. -/
theorem Submits.of_some (h : action.Submits ns ds calls answers (some e)) :
    ∃ before d after passed, ds = before ++ d :: after
      ∧ calls = (before ++ [d]).map (action.call ns) ∧ answers = passed ++ [.error e]
      ∧ passed.length = before.length ∧ (∀ a ∈ passed, action.Passes a)
      ∧ ¬action.Passes (.error e) := by
  generalize hrefusal : some e = refusal at h
  induction h with
  | done => cases hrefusal
  | @refused d rest e' hfails =>
      injection hrefusal with hrefusal
      subst hrefusal
      exact ⟨[], d, rest, [], rfl, rfl, rfl, rfl, List.forall_mem_nil _, hfails⟩
  | @passed d rest calls answers a refusal ha _ ih =>
      obtain ⟨before, d', after, passed, rfl, rfl, rfl, hlen, hall, hfails⟩ := ih hrefusal
      exact ⟨d :: before, d', after, a :: passed, rfl, rfl, rfl, congrArg Nat.succ hlen,
        List.forall_mem_cons.mpr ⟨ha, hall⟩, hfails⟩

/-- So there is none exactly when all answers pass. -/
theorem Submits.eq_none_iff (h : action.Submits ns ds calls answers refusal) :
    refusal = none ↔ ∀ a ∈ answers, action.Passes a := by
  cases refusal with
  | none => exact iff_of_true rfl h.of_none.2
  | some e =>
      obtain ⟨-, -, -, passed, -, -, rfl, -, -, hfails⟩ := h.of_some
      refine iff_of_false nofun fun hall => hfails (hall _ ?_)
      exact List.mem_append_right passed (List.mem_singleton_self _)

/-- All objects are called for exactly when all answers pass but that to the
last call, which comes too late to stop anything. -/
theorem Submits.calls_eq_iff (h : action.Submits ns ds calls answers refusal) :
    calls = ds.map (action.call ns) ↔ ∀ a ∈ answers.take (ds.length - 1), action.Passes a := by
  cases refusal with
  | none =>
      obtain ⟨hcalls, hall⟩ := h.of_none
      exact iff_of_true hcalls fun a ha => hall a (List.mem_of_mem_take ha)
  | some e =>
      obtain ⟨before, d, after, passed, rfl, rfl, rfl, hlen, hall, hfails⟩ := h.of_some
      cases after with
      | nil =>
          have htake : (passed ++ [Except.error e]).take ((before ++ [d]).length - 1) = passed := by
            rw [List.length_append, List.length_singleton, Nat.add_sub_cancel, ← hlen,
              List.take_left]
          rw [htake]
          exact iff_of_true rfl hall
      | cons d' after =>
          have hmem : Except.error e
              ∈ (passed ++ [Except.error e]).take ((before ++ d :: d' :: after).length - 1) := by
            rw [List.take_of_length_le]
            · exact List.mem_append_right passed (List.mem_singleton_self _)
            · simp only [List.length_append, List.length_cons, List.length_nil]
              omega
          refine iff_of_false (fun heq => ?_) fun hpass => hfails (hpass _ hmem)
          have hlength := congrArg List.length heq
          simp only [List.length_map, List.length_append, List.length_cons, List.length_nil] at hlength
          omega

end Action

-- =================================================================== loops

/-- Whatever is answered, the calls of the work are a beginning of those
listed. -/
def Work.CallsAlong : Work → List Call → Prop
  | .done _, _ => True
  | .enter _ rest, calls => rest.CallsAlong calls
  | .resolve next, calls => ∀ a, (next a).CallsAlong calls
  | .connect _ next, calls => ∀ a, (next a).CallsAlong calls
  | .call r next, calls => ∃ more, calls = r :: more ∧ ∀ a, (next a).CallsAlong more

namespace Work

variable {loop : Nat → List Descriptor → Work} {total : Nat}

/-- A loop calls for its objects one after another. -/
theorem Loop.callsAlong (h : Loop action participant ns total loop) (absent : Nat) :
    (loop absent ds).CallsAlong (ds.map (action.call ns)) := by
  induction ds generalizing absent with
  | nil => rw [h.nil]; trivial
  | cons d rest ih =>
      obtain ⟨next, hloop, hpassed, hrefused⟩ := h.cons absent d rest
      rw [hloop]
      refine ⟨_, rfl, fun a => ?_⟩
      rcases action.passes_or_refused a with ha | ⟨e, rfl, he⟩
      · rw [hpassed a ha]
        exact ih _
      · rw [hrefused e he]
        trivial

/-- So the work for a participant calls for its objects in the order of the
action. -/
theorem ofPlan_callsAlong (action : Action) (ns : String) (q : ParticipantPlan) :
    (ofPlan action ns q).CallsAlong ((action.order q.descriptors).map (action.call ns)) := by
  intro found
  cases found with
  | error e => trivial
  | ok c =>
      intro reached
      cases reached with
      | error e => trivial
      | ok u =>
          obtain ⟨loop, hloop, hsubmit⟩ := submit_eq_loop action ns q
          show (submit action ns q).CallsAlong _
          rw [hsubmit]
          exact hloop.callsAlong 0

theorem CallsAlong.turn {work : Work} {t : Turn σ} (h : work.CallsAlong calls)
    (ht : site.turn? state work = some t) :
    ∃ more, calls = t.ask.call?.toList ++ more ∧ t.rest.CallsAlong more := by
  rcases Site.turn?_cases ht with ⟨next, rfl, rfl⟩ | ⟨c, next, rfl, rfl⟩ | ⟨r, next, rfl, rfl⟩
  · exact ⟨calls, rfl, h _⟩
  · exact ⟨calls, rfl, h _⟩
  · obtain ⟨more, rfl, hnext⟩ := h
    exact ⟨more, rfl, hnext _⟩

end Work

-- ==================================================================== runs

namespace Run

theorem calls_after (r : Run σ) (x : Exchange) :
    (r.after x).calls = x.ask.call?.toList ++ r.calls := by
  unfold Run.calls Run.after
  rw [List.filterMap_cons]
  cases x.ask.call? with
  | none => rfl
  | some c => rfl

/-- The calls of a run are along those of its work, up to where it ends. -/
theorem calls_along (work : Work) (state : σ) (now : Nat) (m : Machine)
    (h : work.CallsAlong calls) : (Run.work site deadline now m state work).calls <+: calls := by
  induction work, state using turns site generalizing calls now m with
  | done result state => exact List.nil_prefix
  | enter input rest state ih => exact ih now (m.advance input).1 h
  | turn work state t ht ih =>
      obtain ⟨more, rfl, hrest⟩ := h.turn ht
      have hlast : ∀ x : Exchange, x.ask = t.ask →
          [x].filterMap (fun x => x.ask.call?) <+: t.ask.call?.toList ++ more := by
        rintro x hx
        rw [List.filterMap_cons, hx]
        cases t.ask.call? with
        | none => exact List.nil_prefix
        | some c => exact List.prefix_append [c] more
      rw [work_of_turn ht]
      split
      · rw [calls_after]
        exact (List.prefix_append_right_inj _).mpr (ih _ m hrest)
      · exact hlast _ rfl
      · exact hlast _ rfl

/-- A call that is answered is the first of the run, with its answer. -/
theorem call_of_answered {c : Call} {next : Call.Answer → Work}
    (hall : ∀ x ∈ (Run.work site deadline now m state (.call c next)).trace, x.answered ≠ none) :
    ∃ time, ∃ rest : Run σ,
      rest = Run.work site deadline time m (site.call state c).state
          (next (site.call state c).answer)
        ∧ (∀ x ∈ rest.trace, x.answered ≠ none)
        ∧ (Run.work site deadline now m state (.call c next)).calls = c :: rest.calls
        ∧ (Run.work site deadline now m state (.call c next)).answers site state
          = (site.call state c).answer :: rest.answers site (site.call state c).state
        ∧ (Run.work site deadline now m state (.call c next)).ending = rest.ending := by
  have hturn : site.turn? state (.call c next)
      = some ⟨.call c, (site.call state c).after, (site.call state c).state,
        (site.call state c).abandoned, next (site.call state c).answer⟩ := rfl
  obtain ⟨time, x, hask, hrun, hall⟩ := work_of_answered hturn hall
  rw [hrun]
  refine ⟨time, _, rfl, hall, ?_, ?_, rfl⟩
  · rw [calls_after, hask]
    rfl
  · show site.answers state (x.ask :: _) = _
    rw [hask]
    rfl

/-- What a loop comes to, with or without a refusal. -/
def resultOf (action : Action) (participant : String) (total absent : Nat) :
    Option ObjectError → Except SliceError String
  | none => .ok (action.message total absent)
  | some e => .error (.ofObjectError participant e)

/-- A loop that is answered goes on to the first answer that does not pass, and
counts the absences up to there. -/
theorem submits_of_loop {loop : Nat → List Descriptor → Work} {total : Nat}
    (h : Work.Loop action participant ns total loop) :
    ∀ {absent now : Nat} {state : σ} {r : Run σ},
      r = Run.work site deadline now m state (loop absent ds) →
      (∀ x ∈ r.trace, x.answered ≠ none) →
      ∃ refusal, action.Submits ns ds r.calls (r.answers site state) refusal
        ∧ r.ending = .finished (resultOf action participant total
            (absent + (r.answers site state).countP Call.Answer.isAbsence) refusal) := by
  induction ds with
  | nil =>
      rintro absent now state r rfl -
      rw [h.nil]
      exact ⟨none, .done, rfl⟩
  | cons d rest ih =>
      rintro absent now state r rfl hall
      obtain ⟨next, hloop, hpassed, hrefused⟩ := h.cons absent d rest
      rw [hloop] at hall ⊢
      obtain ⟨time, r, hr, hall, hcalls, hanswers, hend⟩ := call_of_answered hall
      rw [hcalls, hanswers, hend]
      rcases action.passes_or_refused (site.call state (action.call ns d)).answer
        with ha | ⟨e, hanswer, he⟩
      · rw [hpassed _ ha] at hr
        obtain ⟨refusal, hsubmits, hend⟩ := ih hr hall
        refine ⟨refusal, .passed ha hsubmits, ?_⟩
        rw [hend, List.countP_cons, Nat.add_assoc, Nat.add_comm (ite _ _ _)]
      · rw [hanswer] at hr ⊢
        rw [hrefused e he] at hr
        subst hr
        exact ⟨some e, .refused he, rfl⟩

/-- A run that reaches its cluster is the loop over the objects after that. -/
theorem ofPlan_of_reached (action : Action) (ns : String) (q : ParticipantPlan)
    (h : site.Reached deadline now state) :
    ∃ time state', ∃ rest : Run σ,
      rest = Run.work site deadline time .executing state' (.submit action ns q)
        ∧ (∀ x ∈ rest.trace, x ∈ (ofPlan site deadline now state action ns q).trace)
        ∧ (ofPlan site deadline now state action ns q).calls = rest.calls
        ∧ (ofPlan site deadline now state action ns q).answers site state
          = rest.answers site state'
        ∧ (ofPlan site deadline now state action ns q).ending = rest.ending
        ∧ (ofPlan site deadline now state action ns q).machine = rest.machine := by
  obtain ⟨c, t, t', hfound, htime, hmade, htime'⟩ := h
  refine ⟨t', (site.connect (site.resolve state).state c).state, _, rfl, ?_⟩
  have hrun : ofPlan site deadline now state action ns q
      = ((((Run.work site deadline t' .executing (site.connect (site.resolve state).state c).state
          (.submit action ns q)).told .connected).after
            ⟨.connect c, .authenticating, t, some t'⟩).after
              ⟨.resolve, .authenticating, now, some t⟩).told .authenticate := by
    simp only [ofPlan, Work.ofPlan, Run.work, Run.ask, hfound, htime, hmade, htime']
    rfl
  rw [hrun]
  exact ⟨fun x hx => List.mem_cons_of_mem _ (List.mem_cons_of_mem _ hx), rfl, rfl, rfl, rfl⟩

end Run

end NetworkSlice
