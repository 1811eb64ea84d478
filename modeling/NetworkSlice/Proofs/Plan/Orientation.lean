import NetworkSlice.Proofs.Plan.Links
import NetworkSlice.Proofs.Slice.Orientation

/-
Plans of a slice whose links are turned, or put into another order.

A plan reads links that are given three times: it checks them, it takes them
for its own, unless there are none, and it follows them from each participant
to its neighbors. So the plans of two lists of links come out side by side when
the checks do and composing does (`plan_parallel`), and what happens to the
links need only be known for these two.

Turned links lead from every name to the same names, in the same order, so
nothing is composed differently. Links in another order lead to the same names
in another order (`neighborsOf_perm`), and since the names across the links of
a simple graph are all found, composing fails for neither list and the edge
devices differ in the order of their neighbors (`ParticipantPlan.Reordered`).
-/
namespace NetworkSlice

-- ===================================================== reordered neighbors

/-- The same object, up to the order in which an edge device lists its
neighbors. -/
inductive Descriptor.Reordered : Descriptor → Descriptor → Prop
  | same (d : Descriptor) : Reordered d d
  | edgeDevice (e : EdgeDevice) {ns : List Neighbor} (h : e.spec.neighbors.Perm ns) :
    Reordered (.edgeDevice e) (.edgeDevice { e with spec := { e.spec with neighbors := ns } })

/-- The same participant, with the same objects up to that order. -/
structure ParticipantPlan.Reordered (q q' : ParticipantPlan) : Prop where
  participant : q.participant = q'.participant
  descriptors : List.Forall₂ Descriptor.Reordered q.descriptors q'.descriptors

namespace Composer

variable {c : Composer} {s : Slice} {scope : Scope} {names names' : List String}
  {links links' used used' : List Link} {assignment : Option Assignment} {index : Nat}
  {R : SliceError → SliceError → Prop}

/-- Under names in another order the same is found in another order. -/
theorem neighborsOf_perm {ns : List Neighbor} (hperm : names.Perm names')
    (h : neighborsOf s names = .ok ns) : ∃ ns', neighborsOf s names' = .ok ns' ∧ ns.Perm ns' := by
  obtain ⟨ns', hfound, hperm'⟩ := List.perm_comp_forall₂ hperm.symm (neighborsOf_eq_ok_iff.mp h)
  exact ⟨ns', neighborsOf_eq_ok_iff.mpr hfound, hperm'.symm⟩

-- =============================================================== composing

theorem neighbors_turned (h : List.Forall₂ Link.Turned used used') (name : String) :
    neighbors s used name = neighbors s used' name :=
  congrArg (neighborsOf s) (Topology.across_turned h name).symm

theorem participantPlan_perm (hR : ∀ e, R e e) (hsimple : Topology.Simple s.names used)
    (hperm : used.Perm used') (p : Participant) :
    Parallel R ParticipantPlan.Reordered (c.participantPlan s used assignment scope index p)
      (c.participantPlan s used' assignment scope index p) := by
  unfold participantPlan
  refine (Parallel.refl hR (c.segment s assignment index p)).bind ?_
  rintro segment _ - - rfl
  cases joins s scope with
  | false => exact .ok ⟨rfl, .cons (.same _) .nil⟩
  | true =>
      obtain ⟨ns, hns⟩ := neighbors_of_simple hsimple p.name
      obtain ⟨ns', hns', hreordered⟩ := neighborsOf_perm (Topology.across_perm hperm p.name) hns
      rw [hns, show neighbors s used' p.name = .ok ns' from hns']
      refine (Parallel.refl hR (c.overlay s p)).bind ?_
      rintro overlay _ - - rfl
      exact .ok ⟨rfl, .cons (.same _) (.cons (.edgeDevice (c.edgeDevice s ns p) hreordered)
        (.cons (.same _) .nil))⟩

/-- Participants come out side by side when each of them does. -/
theorem composeFrom_parallel {S : ParticipantPlan → ParticipantPlan → Prop} {ps : List Participant}
    (h : ∀ p ∈ ps, ∀ index, Parallel R S (c.participantPlan s used assignment scope index p)
      (c.participantPlan s used' assignment scope index p)) :
    ∀ index, Parallel R (List.Forall₂ S) (c.composeFrom s used assignment scope index ps)
      (c.composeFrom s used' assignment scope index ps) := by
  induction ps with
  | nil => exact fun _ => .ok .nil
  | cons p rest ih =>
      intro index
      obtain ⟨hp, hrest⟩ := List.forall_mem_cons.mp h
      unfold composeFrom
      refine (hp index).bind fun q q' _ _ hq => ?_
      refine (ih hrest (index + 1)).bind fun more more' _ _ hmore => ?_
      exact .ok (.cons hq hmore)

-- ============================================================= whole plans

/-- Links that are given are used as they are, unless there are none. -/
theorem links_of_given (hne : links ≠ [])
    (h : c.links (s.withLinks (some links)) scope = .ok used) :
    used = if joins s scope then links else [] := by
  unfold Composer.links at h
  rw [show joins (s.withLinks (some links)) scope = joins s scope from rfl] at h
  cases hjoins : joins s scope with
  | false =>
      rw [hjoins] at h
      injection h with h
      exact h.symm
  | true =>
      rw [hjoins] at h
      obtain ⟨l, rest, rfl⟩ := List.exists_cons_of_ne_nil hne
      obtain ⟨_, -, h⟩ := bind_eq_ok.mp h
      injection h with h
      exact h.symm

/-- Two lists of links give plans side by side when they are checked side by
side, and composed so. -/
theorem plan_parallel {T : List Link → List Link → Prop}
    {S : List ParticipantPlan → List ParticipantPlan → Prop} (hR : ∀ e, R e e)
    (hrefl : ∀ links, T links links) (hlinks : T links links')
    (hlength : links.length = links'.length)
    (hcheck : Parallel R (· = ·) (Topology.check s.names links) (Topology.check s.names links'))
    (hcompose : ∀ used used' assignment, Topology.Simple s.names used → T used used' →
      Parallel R S (c.compose s used assignment scope) (c.compose s used' assignment scope)) :
    Parallel R (fun plan plan' => plan.assignment = plan'.assignment
        ∧ S plan.participants plan'.participants)
      (c.plan (s.withLinks (some links)) scope) (c.plan (s.withLinks (some links')) scope) := by
  have hempty : links = [] ↔ links' = [] := by
    rw [← List.length_eq_zero_iff, hlength, List.length_eq_zero_iff]
  rw [plan_withLinks, plan_withLinks]
  refine (Parallel.refl hR s.validate).bind fun _ _ hvalid _ _ => ?_
  refine Parallel.bind hcheck fun _ _ hgiven hgiven' _ => ?_
  refine (Parallel.refl hR (assign s)).bind ?_
  rintro assignment _ - - rfl
  obtain ⟨used, hused⟩ := links_of_checked (s := s.withLinks (some links)) c scope hgiven
  obtain ⟨used', hused'⟩ := links_of_checked (s := s.withLinks (some links')) c scope hgiven'
  have hT : T used used' := by
    by_cases hnone : links = []
    · rw [hnone] at hused
      rw [hempty.mp hnone, hused] at hused'
      injection hused' with heq
      exact heq ▸ hrefl used
    · rw [links_of_given hnone hused, links_of_given (mt hempty.mpr hnone) hused']
      split
      · exact hlinks
      · exact hrefl []
  have hsimple : Topology.Simple s.names used :=
    links_simple (s := s.withLinks (some links)) hvalid hused
  rw [hused, hused']
  refine (hcompose used used' assignment hsimple hT).bind fun qs qs' _ _ hqs => ?_
  exact .ok ⟨rfl, hqs⟩

/-- Which end of a link is written first, and in which order links are written,
does not matter to a plan. With any of the links turned, the plan is made when
it was, with the same sub-blocks and the same objects for every participant,
and refused with an error of the same kind when it was refused. With the links
in another order it is made when it was, too, and only the edge devices list
their neighbors in another order. -/
theorem plan_relinked (c : Composer) (s : Slice) (scope : Scope) (links links' : List Link) :
    (List.Forall₂ Link.Turned links links' →
        Parallel (SliceError.Kindred LinkError.SameKind)
          (fun plan plan' => plan.assignment = plan'.assignment
            ∧ plan.participants = plan'.participants)
          (c.plan (s.withLinks (some links)) scope) (c.plan (s.withLinks (some links')) scope))
      ∧ (links.Perm links' →
        Parallel (SliceError.Kindred fun _ _ => True)
          (fun plan plan' => plan.assignment = plan'.assignment
            ∧ List.Forall₂ ParticipantPlan.Reordered plan.participants plan'.participants)
          (c.plan (s.withLinks (some links)) scope) (c.plan (s.withLinks (some links')) scope)) := by
  constructor
  · intro hturned
    refine plan_parallel .same (fun links => ?_) hturned hturned.length_eq
      (Topology.check_turned hturned) ?_
    · exact List.forall₂_same.mpr fun l _ => Or.inl rfl
    · intro used used' assignment _ hT
      have hcompose : c.compose s used assignment scope = c.compose s used' assignment scope :=
        compose_congr_links fun p _ => neighbors_turned hT p.name
      rw [hcompose]
      exact Parallel.refl .same _
  · intro hperm
    refine plan_parallel .same List.Perm.refl hperm hperm.length_eq (Topology.check_perm hperm) ?_
    intro used used' assignment hsimple hT
    exact composeFrom_parallel (fun p _ _ => participantPlan_perm .same hsimple hT p) 0

/-- The row of three clusters with its first link turned, and with its links in
the other order. The plans are made, and the one in the middle lists its two
neighbors in the other order. -/
theorem plan_relinked_rowSlice :
    rowSlice.links = some [⟨"west", "south"⟩, ⟨"north", "south"⟩]
      ∧ List.Forall₂ Link.Turned [⟨"west", "south"⟩, ⟨"north", "south"⟩]
          [⟨"south", "west"⟩, ⟨"north", "south"⟩]
      ∧ [Link.mk "west" "south", ⟨"north", "south"⟩].Perm [⟨"north", "south"⟩, ⟨"west", "south"⟩]
      ∧ ∃ plan turned reordered,
        (ofSettings Settings.standard).plan rowSlice .slice = .ok plan
          ∧ (ofSettings Settings.standard).plan
            (rowSlice.withLinks (some [⟨"south", "west"⟩, ⟨"north", "south"⟩])) .slice = .ok turned
          ∧ plan.participants = turned.participants
          ∧ (ofSettings Settings.standard).plan
            (rowSlice.withLinks (some [⟨"north", "south"⟩, ⟨"west", "south"⟩])) .slice
              = .ok reordered
          ∧ List.Forall₂ ParticipantPlan.Reordered plan.participants reordered.participants
          ∧ (plan.neighborsOf "south").map Neighbor.node = ["west", "north"]
          ∧ (reordered.neighborsOf "south").map Neighbor.node = ["north", "west"] := by
  have hturned : List.Forall₂ Link.Turned [⟨"west", "south"⟩, ⟨"north", "south"⟩]
      [⟨"south", "west"⟩, ⟨"north", "south"⟩] := .cons (Or.inr rfl) (.cons (Or.inl rfl) .nil)
  have hperm : [Link.mk "west" "south", ⟨"north", "south"⟩].Perm
      [⟨"north", "south"⟩, ⟨"west", "south"⟩] := List.Perm.swap ..
  have hlisted : ((ofSettings Settings.standard).plan rowSlice .slice).map
      (fun plan => (plan.neighborsOf "south").map Neighbor.node) = .ok ["west", "north"] := by rfl
  have hlisted' : ((ofSettings Settings.standard).plan
      (rowSlice.withLinks (some [⟨"north", "south"⟩, ⟨"west", "south"⟩])) .slice).map
      (fun plan => (plan.neighborsOf "south").map Neighbor.node) = .ok ["north", "west"] := by rfl
  have hsides := (plan_relinked (ofSettings Settings.standard) rowSlice .slice
    [⟨"west", "south"⟩, ⟨"north", "south"⟩] [⟨"south", "west"⟩, ⟨"north", "south"⟩]).1 hturned
  have horder := (plan_relinked (ofSettings Settings.standard) rowSlice .slice
    [⟨"west", "south"⟩, ⟨"north", "south"⟩] [⟨"north", "south"⟩, ⟨"west", "south"⟩]).2 hperm
  cases hplan : (ofSettings Settings.standard).plan rowSlice .slice with
  | error e => rw [hplan] at hlisted; cases hlisted
  | ok plan =>
      rw [hplan] at hlisted
      have hsame : rowSlice.withLinks (some [⟨"west", "south"⟩, ⟨"north", "south"⟩]) = rowSlice :=
        rfl
      rw [hsame, hplan] at hsides horder
      obtain ⟨turned, hplan', -, hsame⟩ := hsides.exists_ok
      obtain ⟨reordered, hplan'', -, hreordered⟩ := horder.exists_ok
      rw [hplan''] at hlisted'
      exact ⟨rfl, hturned, hperm, plan, turned, reordered, rfl, hplan', hsame, hplan'', hreordered,
        Except.ok.inj hlisted, Except.ok.inj hlisted'⟩

end Composer

end NetworkSlice
