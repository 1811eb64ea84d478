import NetworkSlice.Api.Objects
import NetworkSlice.Proofs.Resource.Keys
import NetworkSlice.Proofs.Text.Percent

/-
No two objects share an address.

An address is a row of pieces with a slash between each two. The pieces that
depend on the request are percent-encoded, so they hold no slash of their own
and the row can be taken apart again (`append_slash_inj`): the namespace, the
collection and the name are there to be read (`objectUrl_inj`). So what is
deleted at an address is the object of that kind, namespace and name. It is no
object of another slice, whose objects of the kind all have other names; and if
an object of another kind has the name by chance, it has another address
(`objects_apart`).
-/
namespace NetworkSlice

-- =================================================================== pieces

/-- What stands before the first mark, and what after it. -/
theorem append_cons_inj_of_not_mem {α : Type} {x : α} {a a' b b' : List α} (ha : x ∉ a)
    (ha' : x ∉ a') : a ++ x :: b = a' ++ x :: b' ↔ a = a' ∧ b = b' := by
  induction a generalizing a' with
  | nil =>
      cases a' with
      | nil => simp
      | cons y rest' =>
          have hne : x ≠ y := fun heq => ha' (heq ▸ List.mem_cons_self)
          simp [hne]
  | cons y rest ih =>
      have hne : y ≠ x := fun heq => ha (heq ▸ List.mem_cons_self)
      cases a' with
      | nil => simp [hne]
      | cons y' rest' =>
          have hrest := ih (fun h => ha (List.mem_cons_of_mem y h))
            fun h => ha' (List.mem_cons_of_mem y' h)
          simp [hrest, and_assoc]

/-- Two texts around a slash are told apart where it is the first. -/
theorem append_slash_inj {a a' b b' : String} (ha : '/' ∉ a.toList) (ha' : '/' ∉ a'.toList) :
    a ++ "/" ++ b = a' ++ "/" ++ b' ↔ a = a' ∧ b = b' := by
  have hsplit : a.toList ++ '/' :: b.toList = a'.toList ++ '/' :: b'.toList
      ↔ a.toList = a'.toList ∧ b.toList = b'.toList := append_cons_inj_of_not_mem ha ha'
  simpa [← String.toList_inj] using hsplit

/-- There is no slash in encoded text. -/
theorem slash_not_mem_percentEncoded (s : String) : '/' ∉ (Text.percentEncoded s).toList := by
  intro h
  have hunreserved := Text.isUnreserved_of_mem_percentEncoded h (by decide)
  cases hunreserved

namespace ObjectKind

theorem slash_not_mem_plural (kind : ObjectKind) : '/' ∉ kind.plural.toList := by
  cases kind <;> decide

/-- No two kinds have one collection. -/
theorem plural_inj {kind kind' : ObjectKind} : kind.plural = kind'.plural ↔ kind = kind' := by
  cases kind <;> cases kind' <;> decide

end ObjectKind

namespace Api

variable {base ns ns' name name' : String} {kind kind' : ObjectKind}

/-- An address tells what it is the address of. -/
theorem objectUrl_inj :
    objectUrl base kind ns name = objectUrl base kind' ns' name'
      ↔ kind = kind' ∧ ns = ns' ∧ name = name' := by
  let front := base ++ "/apis/" ++ apiVersion ++ "/namespaces/"
  have hpieces : ∀ (k : ObjectKind) (n m : String), objectUrl base k n m
      = front ++ (Text.percentEncoded n ++ "/" ++ (k.plural ++ "/" ++ Text.percentEncoded m)) := by
    intro k n m
    simp [objectUrl, collectionUrl, front, String.append_assoc]
  rw [hpieces, hpieces, String.append_right_inj,
    append_slash_inj (slash_not_mem_percentEncoded ns) (slash_not_mem_percentEncoded ns'),
    append_slash_inj kind.slash_not_mem_plural kind'.slash_not_mem_plural,
    Text.percentEncoded_inj, Text.percentEncoded_inj, ObjectKind.plural_inj]
  exact and_left_comm

/-- The objects of slices are kept apart. Two planned slices of different names
have no object of one kind and one name in common, a participant has no two of
its own, and objects that differ in kind, namespace or name have different
addresses. -/
theorem objects_apart :
    (∀ {c c' : Composer} {s s' : Slice} {scope scope' : Scope} {plan plan' : Plan},
        c.plan s scope = .ok plan → c'.plan s' scope' = .ok plan' →
        plan.sliceName ≠ plan'.sliceName →
        ∀ q ∈ plan.participants, ∀ q' ∈ plan'.participants,
          ∀ d ∈ q.descriptors, ∀ d' ∈ q'.descriptors, (d.kind, d.name) ≠ (d'.kind, d'.name))
      ∧ (∀ {c : Composer} {s : Slice} {scope : Scope} {plan : Plan},
        c.plan s scope = .ok plan → ∀ q ∈ plan.participants,
          (q.descriptors.map fun d => (d.kind, d.name)).Nodup)
      ∧ ∀ (base : String) (kind : ObjectKind) (ns name : String) (kind' : ObjectKind)
        (ns' name' : String),
        objectUrl base kind ns name = objectUrl base kind' ns' name'
          ↔ (kind, ns, name) = (kind', ns', name') := by
  refine ⟨?_, ?_, ?_⟩
  · intro c c' s s' scope scope' plan plan' h h' hslices q hq q' hq' d hd d' hd' heq
    obtain ⟨hkind, hname⟩ := Prod.mk.inj heq
    rw [Composer.name_of_plan h hq hd, Composer.name_of_plan h' hq' hd', hkind,
      ObjectKind.nameIn_inj] at hname
    exact hslices hname
  · intro c s scope plan h q hq
    have hkinds := Composer.nodup_kinds_of_plan h hq
    rw [List.Nodup, List.pairwise_map] at hkinds ⊢
    exact hkinds.imp fun hne heq => hne (Prod.mk.inj heq).1
  · intro base kind ns name kind' ns' name'
    rw [objectUrl_inj, Prod.mk.injEq, Prod.mk.injEq]

/-- Two clusters that are joined. -/
def joinedSlice (name : String) : Slice :=
  Slice.named name [Participant.named "north" "north-gate" "10.0.0.1",
    Participant.named "south" "south-gate" "10.0.0.2"]

/-- The edge devices of one slice are called what the segments of the other
are. -/
theorem objects_apart_joinedSlice :
    ∃ plan plan', (Composer.ofSettings .standard).plan (joinedSlice "blue") .slice = .ok plan
      ∧ (Composer.ofSettings .standard).plan (joinedSlice "blue-ned") .slice = .ok plan'
      ∧ (plan.participants.map fun q => q.descriptors.map Descriptor.name)
        = [["blue", "blue-ned", "blue-overlay"], ["blue", "blue-ned", "blue-overlay"]]
      ∧ (plan'.participants.map fun q => q.descriptors.map Descriptor.name)
        = [["blue-ned", "blue-ned-ned", "blue-ned-overlay"],
          ["blue-ned", "blue-ned-ned", "blue-ned-overlay"]]
      ∧ (∀ q ∈ plan.participants, ∀ q' ∈ plan'.participants,
          ∀ d ∈ q.descriptors, ∀ d' ∈ q'.descriptors, (d.kind, d.name) ≠ (d'.kind, d'.name))
      ∧ objectUrl "https://north" .edgeDevice "default" "blue-ned"
        ≠ objectUrl "https://north" .segment "default" "blue-ned" := by
  obtain ⟨hslices, -, haddresses⟩ := objects_apart
  have hnames : ∀ (name : String) {names : List (List String)},
      ((Composer.ofSettings .standard).plan (joinedSlice name) .slice).map (fun plan =>
        plan.participants.map fun q => q.descriptors.map Descriptor.name) = .ok names →
      ∃ plan, (Composer.ofSettings .standard).plan (joinedSlice name) .slice = .ok plan
        ∧ (plan.participants.map fun q => q.descriptors.map Descriptor.name) = names := by
    intro name names h
    cases hplan : (Composer.ofSettings .standard).plan (joinedSlice name) .slice with
    | error e => rw [hplan] at h; cases h
    | ok plan =>
        rw [hplan] at h
        exact ⟨plan, rfl, Except.ok.inj h⟩
  obtain ⟨plan, hplan, hblue⟩ := hnames "blue" rfl
  obtain ⟨plan', hplan', hned⟩ := hnames "blue-ned" rfl
  refine ⟨plan, plan', hplan, hplan', hblue, hned, hslices hplan hplan' ?_, ?_⟩
  · obtain ⟨-, -, -, -, -, hname⟩ := Composer.plan_eq_ok_iff.mp hplan
    obtain ⟨-, -, -, -, -, hname'⟩ := Composer.plan_eq_ok_iff.mp hplan'
    rw [hname, hname']
    decide
  · rw [Ne, haddresses]
    decide

end Api

end NetworkSlice
