import NetworkSlice.Proofs.Operation.Submission
import NetworkSlice.Proofs.Service.Instant
import NetworkSlice.Proofs.Text.Blank

/-
The namespace of an operation.

All calls of an operation are in one namespace: the requested one, or that of
the settings where the requested one is blank (`namespaceName_of_execute`). So a
blank is kept out on the side of the request, and on the other side nothing keeps
it out. An environment may name any text for a namespace, and it is accepted or
not for what else it names (`ofEnvironment_withNamespace`). So objects are
submitted to a blank namespace exactly when both are blank (`execute_namespace`).
-/
namespace NetworkSlice

-- ========================================================= the environment

namespace Settings

variable {lookup : String → Option String} {s : Settings}

/-- The environment, naming another namespace. -/
def withNamespace (lookup : String → Option String) (text : String) (name : String) :
    Option String :=
  if name = "SLICE_DEFAULT_NAMESPACE" then some text else lookup name

/-- Any text will do for a namespace. -/
theorem ofEnvironment_withNamespace (h : ofEnvironment lookup = .ok s) (text : String) :
    ofEnvironment (withNamespace lookup text) = .ok { s with defaultNamespace := text } := by
  obtain ⟨timeout, emptyLinks, htimeout, hlinks, rfl⟩ := ofEnvironment_eq_ok_iff.mp h
  exact ofEnvironment_eq_ok_iff.mpr ⟨timeout, emptyLinks, htimeout, hlinks, rfl⟩

theorem defaultNamespace_of_environment (h : ofEnvironment lookup = .ok s) :
    s.defaultNamespace = (lookup "SLICE_DEFAULT_NAMESPACE").getD "default" := by
  obtain ⟨timeout, emptyLinks, -, -, rfl⟩ := ofEnvironment_eq_ok_iff.mp h
  rfl

/-- The namespace of a request is not blank, unless the request's own is and so
is the one that the environment names. -/
theorem namespaceOrDefault_not_blank_iff (h : ofEnvironment lookup = .ok s) (requested : String) :
    Text.isBlankText (s.namespaceOrDefault requested) = false
      ↔ Text.isBlankText requested = false
        ∨ ∀ text, lookup "SLICE_DEFAULT_NAMESPACE" = some text → Text.isBlankText text = false := by
  rw [namespaceOrDefault, Text.isBlankText_orElse, Bool.and_eq_false_iff,
    defaultNamespace_of_environment h]
  refine or_congr_right ?_
  cases lookup "SLICE_DEFAULT_NAMESPACE" with
  | none =>
      have hstandard : Text.isBlankText "default" = false := by decide
      exact iff_of_true hstandard fun text htext => nomatch htext
  | some text =>
      refine ⟨fun hblank text' htext => ?_, fun hall => hall text rfl⟩
      rw [← Option.some.inj htext]
      exact hblank

end Settings

-- ============================================================ the operation

namespace Service

variable {σ : Type} {s : Settings} {m : Method} {r : Request} {start : Instant} {list : Lister}
  {clusters : String → Cluster σ} {states : String → σ}

/-- Every call of an operation is for an object of its plan, in the namespace of
the request. -/
theorem call_of_execute {p : String} {run : Run σ}
    (h : (p, run) ∈ (execute s m r start list clusters states).runs) {c : Call} (hc : c ∈ run.calls) :
    ∃ plan, (Composer.ofSettings s).plan r.slice m.scope = .ok plan
      ∧ ∃ q ∈ plan.participants, q.participant = p ∧ ∃ d ∈ q.descriptors,
          c = m.action.call (s.namespaceOrDefault r.namespaceName) d := by
  obtain ⟨plan, hplan, h⟩ := run_of_execute h
  obtain ⟨v, now, -, q, hq, hp, hrun⟩ := run_of_carryOut h
  obtain ⟨d, hd, hcall⟩ := List.mem_map.mp ((Run.ofPlan_calls hrun).subset hc)
  exact ⟨plan, hplan, q, hq, hp, d, Action.mem_order_iff.mp hd, hcall.symm⟩

/-- So all of them are in one namespace. -/
theorem namespaceName_of_execute {p : String} {run : Run σ}
    (h : (p, run) ∈ (execute s m r start list clusters states).runs) {c : Call} (hc : c ∈ run.calls) :
    c.namespaceName = s.namespaceOrDefault r.namespaceName := by
  obtain ⟨plan, -, q, -, -, d, -, rfl⟩ := call_of_execute h hc
  cases m.action with
  | apply => rfl
  | delete => rfl

/-- Which namespace an operation is in. All its calls, creates and deletes, are
in the one requested, or where this is blank in the one the environment names,
and where it names none in the standard one. This has a character that is not
blank unless the request's is blank and the environment names a blank one; and
whatever else an accepted environment says, it may name any text. -/
theorem execute_namespace {lookup : String → Option String}
    (haccepted : Settings.ofEnvironment lookup = .ok s) (m : Method) (r : Request) (start : Instant)
    (list : Lister) (clusters : String → Cluster σ) (states : String → σ) :
    (∀ p run, (p, run) ∈ (execute s m r start list clusters states).runs → ∀ c ∈ run.calls,
        c.namespaceName = s.namespaceOrDefault r.namespaceName)
      ∧ s.namespaceOrDefault r.namespaceName
        = Text.orElse r.namespaceName ((lookup "SLICE_DEFAULT_NAMESPACE").getD "default")
      ∧ ((∃ ch ∈ (s.namespaceOrDefault r.namespaceName).toList, Text.isBlank ch = false)
        ↔ (∃ ch ∈ r.namespaceName.toList, Text.isBlank ch = false)
          ∨ ∀ text, lookup "SLICE_DEFAULT_NAMESPACE" = some text →
              ∃ ch ∈ text.toList, Text.isBlank ch = false)
      ∧ ∀ text, Settings.ofEnvironment (Settings.withNamespace lookup text)
          = .ok { s with defaultNamespace := text } := by
  refine ⟨fun p run h c => namespaceName_of_execute h, ?_, ?_,
    Settings.ofEnvironment_withNamespace haccepted⟩
  · rw [Settings.namespaceOrDefault, Settings.defaultNamespace_of_environment haccepted]
  · simp only [Text.exists_not_blank_iff]
    exact Settings.namespaceOrDefault_not_blank_iff haccepted r.namespaceName

/-- A request without a namespace is carried out in the one that the environment
names. -/
theorem execute_namespace_soleRequest :
    ∃ p run c, (p, run) ∈ (execute { Settings.standard with defaultNamespace := "slices" }
          .createNetwork soleRequest anHourIn slowSecrets silent fun _ => none).runs
      ∧ c ∈ run.calls ∧ c.namespaceName = "slices"
      ∧ ∃ ch ∈ c.namespaceName.toList, Text.isBlank ch = false := by
  have haccepted := Settings.ofEnvironment_withNamespace
    (rfl : Settings.ofEnvironment (fun _ => none) = .ok Settings.standard) "slices"
  obtain ⟨hcalls, hname, hblank, -⟩ :=
    execute_namespace haccepted .createNetwork soleRequest anHourIn slowSecrets silent
      fun _ => none
  have hcall : ∃ p run c, (p, run) ∈ (execute { Settings.standard with defaultNamespace := "slices" }
      .createNetwork soleRequest anHourIn slowSecrets silent fun _ => none).runs
        ∧ c ∈ run.calls :=
    ⟨_, _, _, List.mem_cons_self, List.mem_cons_self⟩
  obtain ⟨p, run, c, hrun, hc⟩ := hcall
  refine ⟨p, run, c, hrun, hc, (hcalls p run hrun c hc).trans hname, ?_⟩
  rw [hcalls p run hrun c hc]
  refine hblank.mpr (Or.inr fun text htext => ?_)
  rw [← Option.some.inj htext]
  exact ⟨'s', by decide, by decide⟩

/-- Where the environment names a blank one, an object is created in no
namespace at all. -/
theorem exists_blank_namespace :
    ¬∀ (lookup : String → Option String) (s : Settings) (m : Method) (r : Request)
      (start : Instant) (list : Lister) (clusters : String → Cluster Rehearsal.Memory)
      (states : String → Rehearsal.Memory), Settings.ofEnvironment lookup = .ok s →
        ∀ p run, (p, run) ∈ (execute s m r start list clusters states).runs → ∀ c ∈ run.calls,
          ∃ ch ∈ c.namespaceName.toList, Text.isBlank ch = false := by
  intro hall
  have haccepted := Settings.ofEnvironment_withNamespace
    (rfl : Settings.ofEnvironment (fun _ => none) = .ok Settings.standard) ""
  obtain ⟨ch, hch, -⟩ := hall _ _ .createNetwork soleRequest anHourIn slowSecrets silent
    (fun _ => none) haccepted _ _ List.mem_cons_self _ List.mem_cons_self
  cases hch

end Service

end NetworkSlice
