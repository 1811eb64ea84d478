import Mathlib.Data.List.Forall2
import NetworkSlice.Proofs.Plan.Acceptance

/-
A network is part of the slice.

Planned in its two scopes, a slice is put to the same checks, and the scope of
the whole slice has one more at the end, that of the overlays. So a slice with
no network has no plan at all, for the same reason, and what has a network and
no plan has an overlay that cannot be made. Where there are both plans, the
network is the first object of each participant: a segment is made of the
slice and the assignment, which do not depend on the scope, and not of the
links, which do (`composeFrom_network`). So what was created as a network is
what is found when the slice is deleted, and the other way round.
-/
namespace NetworkSlice

/-- A participant's part in a network, which is the first object of its part in
the slice. -/
def ParticipantPlan.IsNetworkOf (n q : ParticipantPlan) : Prop :=
  n.participant = q.participant
    ∧ ∃ segment rest, q.descriptors = .segment segment :: rest ∧ n.descriptors = [.segment segment]

namespace Composer

variable {c : Composer} {s : Slice} {links : List Link} {assignment : Option Assignment}
  {scope scope' : Scope}

-- =============================================================== one cluster

theorem participantPlan_congr (h : joins s scope = joins s scope') (index : Nat) (p : Participant) :
    c.participantPlan s links assignment scope index p
      = c.participantPlan s links assignment scope' index p := by
  unfold participantPlan
  rw [h]

/-- A scope matters by joining the participants, and by nothing else. -/
theorem plan_congr (h : joins s scope = joins s scope') : c.plan s scope = c.plan s scope' := by
  have hlinks : c.links s scope = c.links s scope' := by
    unfold Composer.links
    rw [h]
  have hcompose : ∀ links assignment,
      c.compose s links assignment scope = c.compose s links assignment scope' :=
    fun _ _ => composeFrom_congr (fun p _ index => participantPlan_congr h index p) 0
  unfold Composer.plan
  simp only [hlinks, hcompose]

-- ============================================================= many clusters

/-- Where a participant has a plan, it has a network, whatever the links. -/
theorem participantPlan_network (links' : List Link) {index : Nat} {p : Participant}
    {q : ParticipantPlan} (h : c.participantPlan s links assignment scope index p = .ok q) :
    ∃ n, c.participantPlan s links' assignment .network index p = .ok n ∧ n.IsNetworkOf q := by
  obtain ⟨hname, segment, rest, hsegment, hds, -⟩ := participantPlan_eq_ok h
  refine ⟨⟨p.name, [.segment segment]⟩, ?_, hname.symm, segment, rest, hds, rfl⟩
  unfold participantPlan
  rw [hsegment]
  rfl

/-- So the participants together have one. -/
theorem composeFrom_network (links' : List Link) {ps : List Participant} :
    ∀ {index : Nat} {qs : List ParticipantPlan},
      c.composeFrom s links assignment scope index ps = .ok qs →
      ∃ ns, c.composeFrom s links' assignment .network index ps = .ok ns
        ∧ List.Forall₂ ParticipantPlan.IsNetworkOf ns qs := by
  induction ps with
  | nil =>
      intro index qs h
      injection h with h
      subst h
      exact ⟨[], rfl, .nil⟩
  | cons p rest ih =>
      intro index qs h
      obtain ⟨q, more, hq, hmore, rfl⟩ := composeFrom_cons_eq_ok_iff.mp h
      obtain ⟨n, hn, hnetwork⟩ := participantPlan_network links' hq
      obtain ⟨ns, hns, hnetworks⟩ := ih hmore
      exact ⟨n :: ns, composeFrom_cons_eq_ok_iff.mpr ⟨n, ns, hn, hns, rfl⟩,
        .cons hnetwork hnetworks⟩

/-- So a slice that is planned has its network planned. -/
theorem plan_network_of_plan {plan : Plan} (h : c.plan s scope = .ok plan) :
    ∃ network, c.plan s .network = .ok network ∧ network.sliceName = plan.sliceName
      ∧ network.assignment = plan.assignment
      ∧ List.Forall₂ ParticipantPlan.IsNetworkOf network.participants plan.participants := by
  obtain ⟨hvalid, hgiven, hassign, -, hcompose, hname⟩ := plan_eq_ok_iff.mp h
  obtain ⟨ns, hns, hnetworks⟩ := composeFrom_network [] hcompose
  exact ⟨⟨s.name, [], plan.assignment, ns⟩,
    plan_eq_ok_iff.mpr ⟨hvalid, hgiven, hassign, rfl, hns, rfl⟩, hname.symm, rfl, hnetworks⟩

/-- A slice fails as its network does, or by an overlay. -/
theorem plan_slice_eq_error_iff {e : SliceError} :
    c.plan s .slice = .error e
      ↔ c.plan s .network = .error e
        ∨ (∃ network, c.plan s .network = .ok network) ∧ s.OverlayFault e := by
  have hchecks : s.checks .slice = s.checks .network ++ [s.OverlayFault] := rfl
  rw [exists_ok_iff]
  simp only [plan_eq_error_iff]
  rw [hchecks, firstOf_append_iff, firstOf_singleton_iff]

/-- The two scopes agree. What fails as a network fails alike as a slice; what
is planned as a slice has its segments for a network, with the same name and
assignment, participant by participant; and what is only a network has several
clusters, and an overlay whose links are no simple graph. A slice of one cluster
is its own network. -/
theorem plan_scopes (c : Composer) (s : Slice) :
    (∀ e, c.plan s .network = .error e → c.plan s .slice = .error e)
      ∧ (∀ plan, c.plan s .slice = .ok plan →
        ∃ network, c.plan s .network = .ok network ∧ network.sliceName = plan.sliceName
          ∧ network.assignment = plan.assignment
          ∧ List.Forall₂ ParticipantPlan.IsNetworkOf network.participants plan.participants)
      ∧ (∀ network e, c.plan s .network = .ok network → c.plan s .slice = .error e →
        1 < s.participants.length ∧ ∃ p ∈ s.participants, ∃ links fault,
          p.overlayLinks = some links ∧ Topology.Fault (overlayNodes p) links fault
            ∧ e = .composition s!"overlay of {p.name}: {fault.toSliceError.message}")
      ∧ (s.participants.length ≤ 1 → c.plan s .network = c.plan s .slice) := by
  refine ⟨?_, fun plan => plan_network_of_plan, ?_, ?_⟩
  · intro e h
    exact plan_slice_eq_error_iff.mpr (Or.inl h)
  · intro network e hnetwork h
    rcases plan_slice_eq_error_iff.mp h with h | ⟨-, hmulti, before, p, after, links, fault, hps, -,
      hlinks, hfault, he⟩
    · rw [hnetwork] at h
      cases h
    · have hp : p ∈ s.participants := hps ▸ List.mem_append_right before List.mem_cons_self
      exact ⟨hmulti, p, hp, links, fault, hlinks, hfault, he⟩
  · intro hone
    have hjoins : joins s .network = joins s .slice := by
      simp [joins, Slice.isMultiCluster, Nat.not_lt.mpr hone]
    exact plan_congr hjoins

/-- Two clusters, of which the first links a node to itself. -/
def loopedSlice : Slice :=
  Slice.named "blue" [
    { Participant.named "north" "north-gate" "10.0.0.1" with
      overlayLinks := some [⟨"north-gate", "north-gate"⟩] },
    Participant.named "south" "south-gate" "10.0.0.2"]

/-- The loop leaves a slice its network and no plan; one without has both. -/
theorem plan_scopes_loopedSlice :
    (∃ network e, (ofSettings .standard).plan loopedSlice .network = .ok network
        ∧ (ofSettings .standard).plan loopedSlice .slice = .error e
        ∧ ∃ p ∈ loopedSlice.participants, ∃ links fault,
          p.overlayLinks = some links ∧ Topology.Fault (overlayNodes p) links fault
            ∧ e = .composition s!"overlay of {p.name}: {fault.toSliceError.message}")
      ∧ ∃ plan network, (ofSettings .standard).plan dividedSlice .slice = .ok plan
        ∧ (ofSettings .standard).plan dividedSlice .network = .ok network
        ∧ List.Forall₂ ParticipantPlan.IsNetworkOf network.participants plan.participants := by
  obtain ⟨-, -, hloop, -⟩ := plan_scopes (ofSettings .standard) loopedSlice
  obtain ⟨-, hdivided, -, -⟩ := plan_scopes (ofSettings .standard) dividedSlice
  have hnetwork : ((ofSettings .standard).plan loopedSlice .network).isOk = true := by rfl
  have hslice : ((ofSettings .standard).plan loopedSlice .slice).isOk = false := by rfl
  have hfull : ((ofSettings .standard).plan dividedSlice .slice).isOk = true := by rfl
  constructor
  · cases hn : (ofSettings .standard).plan loopedSlice .network with
    | error e => rw [hn] at hnetwork; cases hnetwork
    | ok network =>
        cases hs : (ofSettings .standard).plan loopedSlice .slice with
        | ok plan => rw [hs] at hslice; cases hslice
        | error e => exact ⟨network, e, rfl, rfl, (hloop network e hn hs).2⟩
  · cases hplan : (ofSettings .standard).plan dividedSlice .slice with
    | error e => rw [hplan] at hfull; cases hfull
    | ok plan =>
        obtain ⟨network, hn, -, -, hparticipants⟩ := hdivided plan hplan
        exact ⟨plan, network, rfl, hn, hparticipants⟩

end Composer

end NetworkSlice
