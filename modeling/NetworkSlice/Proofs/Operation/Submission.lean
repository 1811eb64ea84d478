import NetworkSlice.Proofs.Operation.Answers

/-
What comes of the objects of a participant.

A run that reaches its cluster and is answered all it asks is the loop over the
objects (`Run.ofPlan_submits`), so its outcome is told by the refusal of the
loop, if there is one. Creating and deleting differ in what passes and in the
direction, and both are read off that one lemma. The answers may be anything, and
may depend on all that was asked before: a site is not bound to any list of them,
though it may keep to one (`Run.scripted`).
-/
namespace NetworkSlice

variable {σ : Type} {site : Site σ} {deadline : Option Nat} {now : Nat} {state : σ}
  {action : Action} {participant ns : String}

-- ================================================================ outcomes

/-- The outcome is that the cluster refused an object, or was not reached any
more. -/
structure Outcome.Refused (o : Outcome) (participant : String) (e : ObjectError) : Prop where
  about : o.participant = participant
  status : o.status = .failed
  failedAt : o.failedAt = some .executing
  unreachable : ∀ reason, e = .transport reason →
    o.error = some (.clusterUnreachable participant reason)
  refused : (∀ reason, e ≠ .transport reason) → o.error = some (.objectApi participant e)

/-- The outcome of a participant whose cluster was called for its objects, with
or without a refusal. -/
def Outcome.submission (action : Action) (participant : String) (total absent : Nat)
    (refusal : Option ObjectError) : Outcome :=
  (Run.conclude action participant .executing
    (Run.resultOf action participant total absent refusal)).1

theorem Outcome.submission_refused (action : Action) (participant : String) (total absent : Nat)
    (e : ObjectError) :
    (Outcome.submission action participant total absent (some e)).Refused participant e where
  about := rfl
  status := rfl
  failedAt := rfl
  unreachable := by rintro reason rfl; rfl
  refused := by
    intro hanswered
    cases e with
    | transport reason => exact absurd rfl (hanswered reason)
    | notFound name => rfl
    | alreadyExists name => rfl
    | rejected status text => rfl

namespace Run

variable {q : ParticipantPlan} {r : Run σ}

/-- A run that reaches its cluster and is answered calls for the objects in turn
up to the first refusal, and its outcome is of that. -/
theorem ofPlan_submits (hr : r = ofPlan site deadline now state action ns q)
    (hreached : site.Reached deadline now state) (hall : ∀ x ∈ r.trace, x.answered ≠ none) :
    ∃ refusal, action.Submits ns (action.order q.descriptors) r.calls (r.answers site state) refusal
      ∧ r.outcome? action q.participant = some (.submission action q.participant
          q.descriptors.length ((r.answers site state).countP Call.Answer.isAbsence) refusal) := by
  obtain ⟨time, state', rest, hrest, htrace, hcalls, hanswers, hend, hmachine⟩ :=
    ofPlan_of_reached action ns q hreached
  rw [← hr] at htrace hcalls hanswers hend hmachine
  have hexecuting : rest.machine = .executing := by
    rw [hrest, machine_work, inputs_of_uneventful _ _ _ _ (Work.submit_uneventful action ns q)]
    rfl
  obtain ⟨loop, hloop, hsubmit⟩ := Work.submit_eq_loop action ns q
  rw [hsubmit] at hrest
  obtain ⟨refusal, hsubmits, hresult⟩ :=
    submits_of_loop hloop hrest fun x hx => hall x (htrace x hx)
  rw [Nat.zero_add] at hresult
  refine ⟨refusal, by rw [hcalls, hanswers]; exact hsubmits, ?_⟩
  rw [outcome?, result?, hend, hresult, hmachine, hexecuting, hanswers]
  rfl

/-- The calls of a run for a participant are along those for its objects. -/
theorem ofPlan_calls (hr : r = ofPlan site deadline now state action ns q) :
    r.calls <+: (action.order q.descriptors).map (action.call ns) := by
  rw [hr]
  exact calls_along _ _ _ _ (Work.ofPlan_callsAlong action ns q)

-- =============================================================== creating

/-- What applying asks for and what comes of it. Whatever happens, a run issues
creates for a beginning of the objects, in order and each as it is written, and
nothing else: nothing is taken back. Once the cluster is reached and answers, all
objects are created when every answer is a success; otherwise the last create is
the first that is not, and the participant has failed executing, with the error
of that answer. -/
theorem ofPlan_apply (hr : r = ofPlan site deadline now state .apply ns q) :
    (r.calls <+: q.descriptors.map (fun d => .create d.kind ns d.toObject)
        ∧ ∀ c ∈ r.calls, c.isCreate = true)
      ∧ (site.Reached deadline now state → (∀ x ∈ r.trace, x.answered ≠ none) →
        (r.answers site state).length = r.calls.length
          ∧ ∃ o, r.outcome? .apply q.participant = some o
            ∧ (o.status = .created ↔ ∀ a ∈ r.answers site state, a = .ok ())
            ∧ (o.status = .created →
                r.calls = q.descriptors.map (fun d => .create d.kind ns d.toObject)
                  ∧ o = ⟨q.participant, .created, s!"created {q.descriptors.length} resources",
                    none, none⟩)
            ∧ (o.status ≠ .created → ∃ before d after e, q.descriptors = before ++ d :: after
                ∧ r.calls = (before ++ [d]).map (fun d => .create d.kind ns d.toObject)
                ∧ r.answers site state = List.replicate before.length (.ok ()) ++ [.error e]
                ∧ o.Refused q.participant e)) := by
  have hcalls := ofPlan_calls hr
  refine ⟨⟨hcalls, fun c hc => ?_⟩, fun hreached hall => ?_⟩
  · obtain ⟨d, -, rfl⟩ := List.mem_map.mp (hcalls.subset hc)
    rfl
  · obtain ⟨refusal, hsubmits, ho⟩ := ofPlan_submits hr hreached hall
    refine ⟨hsubmits.length_eq, _, ho, ?_, ?_, ?_⟩
    · simp only [← Action.passes_apply_iff, ← hsubmits.eq_none_iff]
      cases refusal with
      | none => exact iff_of_true rfl rfl
      | some e => exact iff_of_false nofun nofun
    · cases refusal with
      | none => exact fun _ => ⟨hsubmits.of_none.1, rfl⟩
      | some e => exact nofun
    · cases refusal with
      | none => exact fun hne => absurd rfl hne
      | some e =>
          intro _
          obtain ⟨before, d, after, passed, hds, hcalls, hanswers, hlen, hpassed, -⟩ :=
            hsubmits.of_some
          have hok : passed = List.replicate before.length (.ok ()) :=
            List.eq_replicate_iff.mpr
              ⟨hlen, fun a ha => Action.passes_apply_iff.mp (hpassed a ha)⟩
          exact ⟨before, d, after, e, hds, hcalls, hok ▸ hanswers, Outcome.submission_refused ..⟩

/-- A site that has credentials, and whose cluster answers as listed. -/
def scripted : Site (List Call.Answer) where
  resolve script := ⟨some 0, .ok ⟨"https://north", "token", none⟩, script, script⟩
  connect script _ := ⟨some 0, .ok (), script, script⟩
  call script _ := ⟨some 0, script.head?.getD (.ok ()), script.tail, script.tail⟩

theorem scripted_reached (script : List Call.Answer) : scripted.Reached none 0 script :=
  ⟨_, 0, 0, rfl, rfl, rfl, rfl⟩

/-- The segments of some slices, as one participant. -/
def segments (names : List String) : ParticipantPlan :=
  ⟨"north", names.map fun name =>
    .segment ⟨.forSlice name name, .vnet, none, none, ⟨"provider", "example.org"⟩⟩⟩

/-- The second of three creates is refused, and the third is not made. -/
theorem ofPlan_apply_segments :
    ∃ r : Run (List Call.Answer), ∃ o,
      r = ofPlan scripted none 0 [.ok (), .error (.rejected 403 "quota")] .apply "default"
          (segments ["a", "b", "c"])
        ∧ (∀ x ∈ r.trace, x.answered ≠ none)
        ∧ r.calls.map Call.name = ["a", "b"]
        ∧ r.outcome? .apply "north" = some o ∧ o.Refused "north" (.rejected 403 "quota") := by
  obtain ⟨r, hr⟩ : ∃ r, r = ofPlan scripted none 0 [.ok (), .error (.rejected 403 "quota")] .apply
      "default" (segments ["a", "b", "c"]) := ⟨_, rfl⟩
  have hall : ∀ x ∈ r.trace, x.answered ≠ none := by rw [hr]; decide
  have hnames : r.calls.map Call.name = ["a", "b"] := by rw [hr]; decide
  have hgiven : r.answers scripted [.ok (), .error (.rejected 403 "quota")]
      = [.ok (), .error (.rejected 403 "quota")] := by rw [hr]; rfl
  obtain ⟨-, hanswered⟩ := ofPlan_apply hr
  obtain ⟨-, o, ho, hcreated, -, hfailed⟩ := hanswered (scripted_reached _) hall
  rw [hgiven] at hcreated hfailed
  have hne : o.status ≠ .created := by
    rw [ne_eq, hcreated]
    intro hok
    exact nomatch hok (.error (.rejected 403 "quota")) (by simp)
  obtain ⟨before, d, after, e, -, -, hanswers, hrefused⟩ := hfailed hne
  have hlast : some (Except.error (.rejected 403 "quota")) = some (Except.error e : Call.Answer) :=
    (congrArg List.getLast? hanswers).trans List.getLast?_concat
  injection hlast with hlast
  injection hlast with hlast
  exact ⟨r, o, hr, hall, hnames, ho, hlast ▸ hrefused⟩

-- =============================================================== deleting

/-- What deleting asks for and what comes of it. Whatever happens, a run issues
deletes for a beginning of the objects, last first, and nothing else. Once the
cluster is reached and answers, absent objects are passed over and counted, and
all objects are deleted when there is no other failure. Otherwise the last delete
is the first with another failure, and the participant has failed executing, with
the error of that answer. A failure of the last delete of all comes too late to
spare any other, so all deletes are issued exactly when there is no failure before
the last of them. -/
theorem ofPlan_delete (hr : r = ofPlan site deadline now state .delete ns q) :
    (r.calls <+: q.descriptors.reverse.map (fun d => .delete d.kind ns d.name)
        ∧ ∀ c ∈ r.calls, c.isCreate = false)
      ∧ (site.Reached deadline now state → (∀ x ∈ r.trace, x.answered ≠ none) →
        (r.answers site state).length = r.calls.length
          ∧ (r.calls = q.descriptors.reverse.map (fun d => .delete d.kind ns d.name)
            ↔ ∀ a ∈ (r.answers site state).take (q.descriptors.length - 1),
              a = .ok () ∨ ∃ name, a = .error (.notFound name))
          ∧ ∃ o, r.outcome? .delete q.participant = some o
            ∧ (o.status = .deleted ↔ ∀ a ∈ r.answers site state,
                a = .ok () ∨ ∃ name, a = .error (.notFound name))
            ∧ (o.status = .deleted → ∃ k ≤ q.descriptors.length,
                k = (r.answers site state).countP Call.Answer.isAbsence
                  ∧ o = ⟨q.participant, .deleted,
                    s!"deleted {q.descriptors.length - k} resources ({k} already absent)",
                    none, none⟩)
            ∧ (o.status ≠ .deleted → ∃ before d after passed e,
                q.descriptors.reverse = before ++ d :: after
                ∧ r.calls = (before ++ [d]).map (fun d => .delete d.kind ns d.name)
                ∧ r.answers site state = passed ++ [.error e]
                ∧ (∀ a ∈ passed, a = .ok () ∨ ∃ name, a = .error (.notFound name))
                ∧ (∀ name, e ≠ .notFound name)
                ∧ o.Refused q.participant e)) := by
  have hcalls := ofPlan_calls hr
  refine ⟨⟨hcalls, fun c hc => ?_⟩, fun hreached hall => ?_⟩
  · obtain ⟨d, -, rfl⟩ := List.mem_map.mp (hcalls.subset hc)
    rfl
  · obtain ⟨refusal, hsubmits, ho⟩ := ofPlan_submits hr hreached hall
    simp only [← Action.passes_delete_iff]
    refine ⟨hsubmits.length_eq, ?_, _, ho, ?_, ?_, ?_⟩
    · rw [← q.descriptors.length_reverse]
      exact hsubmits.calls_eq_iff
    · rw [← hsubmits.eq_none_iff]
      cases refusal with
      | none => exact iff_of_true rfl rfl
      | some e => exact iff_of_false nofun nofun
    · cases refusal with
      | none =>
          refine fun _ => ⟨_, ?_, rfl, rfl⟩
          calc (r.answers site state).countP Call.Answer.isAbsence
              ≤ (r.answers site state).length := List.countP_le_length
            _ = r.calls.length := hsubmits.length_eq
            _ ≤ q.descriptors.length := by simpa [Action.order] using hcalls.length_le
      | some e => exact nofun
    · cases refusal with
      | none => exact fun hne => absurd rfl hne
      | some e =>
          intro _
          obtain ⟨before, d, after, passed, hds, hcalls, hanswers, -, hpassed, hfails⟩ :=
            hsubmits.of_some
          refine ⟨before, d, after, passed, e, hds, hcalls, hanswers, hpassed, ?_,
            Outcome.submission_refused ..⟩
          rintro name rfl
          exact hfails rfl

/-- Of three objects the second is absent. -/
theorem ofPlan_delete_segments :
    ∃ r : Run (List Call.Answer), ∃ o,
      r = ofPlan scripted none 0 [.ok (), .error (.notFound "b"), .ok ()] .delete "default"
          (segments ["a", "b", "c"])
        ∧ (∀ x ∈ r.trace, x.answered ≠ none)
        ∧ r.calls.map Call.name = ["c", "b", "a"]
        ∧ r.outcome? .delete "north" = some o
        ∧ o.message = "deleted 2 resources (1 already absent)" := by
  obtain ⟨r, hr⟩ : ∃ r, r = ofPlan scripted none 0 [.ok (), .error (.notFound "b"), .ok ()] .delete
      "default" (segments ["a", "b", "c"]) := ⟨_, rfl⟩
  have hall : ∀ x ∈ r.trace, x.answered ≠ none := by rw [hr]; decide
  have hnames : r.calls.map Call.name = ["c", "b", "a"] := by rw [hr]; decide
  have hgiven : r.answers scripted [.ok (), .error (.notFound "b"), .ok ()]
      = [.ok (), .error (.notFound "b"), .ok ()] := by rw [hr]; rfl
  obtain ⟨-, hanswered⟩ := ofPlan_delete hr
  obtain ⟨-, -, o, ho, hdeleted, hgone, -⟩ := hanswered (scripted_reached _) hall
  rw [hgiven] at hdeleted hgone
  obtain ⟨k, -, rfl, ho'⟩ := hgone (hdeleted.mpr (by simp))
  exact ⟨r, o, hr, hall, hnames, ho, congrArg Outcome.message ho'⟩

/-- All three deletes are issued, and the last of them fails. -/
theorem exists_whole_refused :
    ∃ r : Run (List Call.Answer),
      r = ofPlan scripted none 0 [.ok (), .ok (), .error (.rejected 403 "quota")] .delete "default"
          (segments ["a", "b", "c"])
        ∧ scripted.Reached none 0 [.ok (), .ok (), .error (.rejected 403 "quota")]
        ∧ (∀ x ∈ r.trace, x.answered ≠ none)
        ∧ ¬(r.calls = (segments ["a", "b", "c"]).descriptors.reverse.map
              (fun d => .delete d.kind "default" d.name)
            ↔ ∀ a ∈ r.answers scripted [.ok (), .ok (), .error (.rejected 403 "quota")],
              a = .ok () ∨ ∃ name, a = .error (.notFound name)) := by
  obtain ⟨r, hr⟩ : ∃ r, r = ofPlan scripted none 0 [.ok (), .ok (), .error (.rejected 403 "quota")]
      .delete "default" (segments ["a", "b", "c"]) := ⟨_, rfl⟩
  have hgiven : r.answers scripted [.ok (), .ok (), .error (.rejected 403 "quota")]
      = [.ok (), .ok (), .error (.rejected 403 "quota")] := by rw [hr]; rfl
  refine ⟨r, hr, scripted_reached _, by rw [hr]; decide, fun hwhole => ?_⟩
  have hrefused := hwhole.mp (by rw [hr]; rfl) (.error (.rejected 403 "quota")) (by rw [hgiven]; simp)
  rcases hrefused with h | ⟨name, h⟩
  · cases h
  · cases h

end Run

end NetworkSlice
