import Mathlib.Data.List.Forall2
import NetworkSlice.Proofs.Plan.Steps
import NetworkSlice.Proofs.Slice.Graph

/-
The neighbors of a plan.

Every participant of a joined slice has one edge device, and what it lists are
the names across the links of the plan, in their order, each with the address
of the gateway of that name (`edgeDevice_of_plan`). The links are a simple
graph over the participants, so all that is claimed of the lists is what
`Topology.across` says of simple graphs; and names are not repeated, so the
gateway of a name is that of one participant.
-/
namespace NetworkSlice

-- =============================================================== neighbors

/-- What the edge devices of a participant list. -/
def ParticipantPlan.neighbors (p : ParticipantPlan) : List Neighbor :=
  (p.descriptors.filterMap Descriptor.edgeDevice?).flatMap fun d => d.spec.neighbors

/-- What the participant of a name lists. -/
def Plan.neighborsOf (p : Plan) (name : String) : List Neighbor :=
  ((p.participant? name).map ParticipantPlan.neighbors).getD []

/-- The participant as others list it: by its name and the address of its
gateway. -/
def Participant.asNeighbor (p : Participant) : Neighbor := ⟨p.name, p.gateway.address⟩

namespace Composer

variable {c : Composer} {s : Slice} {plan : Plan} {links : List Link}

/-- Of different names, the last participant of a name is the only one. -/
theorem lastNamed?_of_nodup (h : s.names.Nodup) {b : Participant} (hb : b ∈ s.participants) :
    lastNamed? s b.name = some b := by
  have hreverse : (s.participants.reverse.map Participant.name).Nodup := by
    rw [List.map_reverse]
    exact List.pairwise_reverse.mpr (h.imp Ne.symm)
  exact find?_eq_some_of_nodup hreverse (List.mem_reverse.mpr hb)

/-- What is found under a name is the last participant of that name. -/
theorem neighbor_eq_ok_iff {name : String} {n : Neighbor} :
    neighbor s name = .ok n ↔ ∃ b, lastNamed? s name = some b ∧ n = b.asNeighbor := by
  unfold neighbor
  cases lastNamed? s name with
  | none => simp
  | some b => simp [Participant.asNeighbor, eq_comm]

/-- What is found under names is found one by one. -/
theorem neighborsOf_eq_ok_iff {names : List String} {ns : List Neighbor} :
    neighborsOf s names = .ok ns ↔ List.Forall₂ (fun name n => neighbor s name = .ok n) names ns := by
  induction names generalizing ns with
  | nil =>
      rw [List.forall₂_nil_left_iff]
      constructor
      · intro h; injection h with h; exact h.symm
      · rintro rfl; rfl
  | cons name rest ih =>
      rw [List.forall₂_cons_left_iff]
      unfold neighborsOf
      simp only [bind_eq_ok, ih]
      constructor
      · rintro ⟨n, hn, more, hmore, h⟩
        injection h with h
        exact ⟨n, more, hn, hmore, h.symm⟩
      · rintro ⟨n, more, hn, hmore, rfl⟩
        exact ⟨n, hn, more, hmore, rfl⟩

/-- So what is found under names are the participants of these names. -/
theorem neighborsOf_eq_ok {names : List String} {ns : List Neighbor}
    (h : neighborsOf s names = .ok ns) :
    ns.map Neighbor.node = names ∧ ∀ n ∈ ns, ∃ b ∈ s.participants, n = b.asNeighbor := by
  have hfound := neighborsOf_eq_ok_iff.mp h
  clear h
  induction hfound with
  | nil => exact ⟨rfl, List.forall_mem_nil _⟩
  | @cons name n names ns hn _ ih =>
      obtain ⟨hnames, hmore⟩ := ih
      obtain ⟨b, hb, rfl⟩ := neighbor_eq_ok_iff.mp hn
      have hname : b.name = name := by simpa using List.find?_some hb
      have hmem := List.mem_reverse.mp (List.mem_of_find?_eq_some hb)
      refine ⟨?_, List.forall_mem_cons.mpr ⟨⟨b, hmem, rfl⟩, hmore⟩⟩
      rw [List.map_cons, hnames, ← hname]
      rfl

/-- The links between the participants are a simple graph over them. -/
theorem links_simple {scope : Scope} (hvalid : s.validate = .ok ())
    (h : c.links s scope = .ok links) : Topology.Simple s.names links := by
  unfold Composer.links at h
  split at h
  · exact Topology.resolve_simple h (Slice.nodup_names_of_validate hvalid)
  · injection h with h
    exact h ▸ Topology.simple_nil s.names

theorem simple_links_of_plan {scope : Scope} (h : c.plan s scope = .ok plan) :
    Topology.Simple s.names plan.links := by
  obtain ⟨hvalid, -, -, hlinks, -, -⟩ := plan_eq_ok_iff.mp h
  exact links_simple hvalid hlinks

/-- Every participant of a joined slice has one edge device, which lists the
participants across the links of the plan. -/
theorem edgeDevice_of_plan (h : c.plan s .slice = .ok plan) (hmulti : s.isMultiCluster = true)
    {q : ParticipantPlan} (hq : q ∈ plan.participants) :
    (∃ device, q.descriptors.filterMap Descriptor.edgeDevice? = [device])
      ∧ q.neighbors.map Neighbor.node = Topology.across plan.links q.participant
      ∧ ∀ n ∈ q.neighbors, ∃ b ∈ s.participants, n = b.asNeighbor := by
  obtain ⟨i, p, -, hplan⟩ := exists_participant_of_plan h hq
  obtain ⟨segment, -, hname, ⟨hjoins, -⟩ | ⟨ns, overlay, -, hns, -, hds⟩⟩ :=
    participantPlan_cases hplan
  · -- a slice of several clusters that is planned in full is joined
    rw [joins, hmulti] at hjoins
    cases hjoins
  · have hdevice : q.descriptors.filterMap Descriptor.edgeDevice?
        = [c.edgeDevice s ns p] := by
      rw [hds]
      rfl
    have hlisted : q.neighbors = ns := by
      rw [ParticipantPlan.neighbors, hdevice]
      exact List.append_nil ns
    rw [hlisted, hname]
    exact ⟨⟨_, hdevice⟩, neighborsOf_eq_ok hns⟩

/-- So what is listed under a participant's name is what is across from it. -/
theorem neighborsOf_of_plan (h : c.plan s .slice = .ok plan) (hmulti : s.isMultiCluster = true)
    {a : Participant} (ha : a ∈ s.participants) :
    (plan.neighborsOf a.name).map Neighbor.node = Topology.across plan.links a.name
      ∧ ∀ n ∈ plan.neighborsOf a.name, ∃ b ∈ s.participants, n = b.asNeighbor := by
  have hname : a.name ∈ plan.participants.map ParticipantPlan.participant := by
    rw [plan_names h]
    exact List.mem_map_of_mem ha
  obtain ⟨q, hq, hname⟩ := List.mem_map.mp hname
  have hlisted : plan.neighborsOf a.name = q.neighbors := by
    rw [Plan.neighborsOf, ← hname, participant?_of_plan h hq]
    rfl
  obtain ⟨-, hacross, hfound⟩ := edgeDevice_of_plan h hmulti hq
  rw [hlisted, ← hname]
  exact ⟨hacross, hfound⟩

/-- A participant across a link is listed once, by its own name and address. -/
theorem filter_neighborsOf (h : c.plan s .slice = .ok plan) (hmulti : s.isMultiCluster = true)
    {a b : Participant} (ha : a ∈ s.participants) (hb : b ∈ s.participants)
    (hjoined : ∃ l ∈ plan.links, l.Joins a.name b.name) :
    ((plan.neighborsOf a.name).filter fun n => n.node = b.name) = [b.asNeighbor] := by
  have hnames : s.names.Nodup := plan_names h ▸ nodup_names_of_plan h
  obtain ⟨hacross, hfound⟩ := neighborsOf_of_plan h hmulti ha
  have hmem : b.name ∈ (plan.neighborsOf a.name).map Neighbor.node := by
    rw [hacross]
    exact Topology.mem_across_iff.mpr hjoined
  obtain ⟨n, hn, hname⟩ := List.mem_map.mp hmem
  obtain ⟨b', hb', rfl⟩ := hfound n hn
  -- the gateway that is listed is that of the one participant of the name
  have hsame : b' = b := by
    have hlast := lastNamed?_of_nodup hnames hb'
    rw [show b'.name = b.name from hname, lastNamed?_of_nodup hnames hb] at hlast
    exact (Option.some.inj hlast).symm
  subst hsame
  apply filter_eq_singleton_of_nodup _ hn
  rw [hacross]
  exact Topology.nodup_across (simple_links_of_plan h) a.name

/-- The neighbors of a slice of several clusters. Every participant has one
edge device. Two participants list each other exactly when a link of the plan
joins them, whichever way it is written, and then once and with the address of
the other's gateway. Nobody lists itself or a stranger, a list follows the
order of the links, and all lists together have two entries for each link. -/
theorem plan_neighbors (h : c.plan s .slice = .ok plan) (hmulti : s.isMultiCluster = true) :
    (plan.participants.map ParticipantPlan.participant = s.names
        ∧ ∀ q ∈ plan.participants,
          ∃ device, q.descriptors.filterMap Descriptor.edgeDevice? = [device])
      ∧ (∀ a ∈ s.participants, ∀ b ∈ s.participants,
          ((∃ n ∈ plan.neighborsOf a.name, n.node = b.name)
              ↔ ∃ l ∈ plan.links, l.Joins a.name b.name)
            ∧ ((∃ l ∈ plan.links, l.Joins a.name b.name) →
                ((plan.neighborsOf a.name).filter fun n => n.node = b.name) = [b.asNeighbor]
                  ∧ ((plan.neighborsOf b.name).filter fun n => n.node = a.name)
                    = [a.asNeighbor]))
      ∧ (∀ a ∈ s.participants,
          (plan.neighborsOf a.name).map Neighbor.node = Topology.across plan.links a.name
            ∧ ∀ n ∈ plan.neighborsOf a.name, n.node ≠ a.name ∧ n.node ∈ s.names)
      ∧ (plan.participants.flatMap ParticipantPlan.neighbors).length = 2 * plan.links.length := by
  have hsimple := simple_links_of_plan h
  have hnames : s.names.Nodup := plan_names h ▸ nodup_names_of_plan h
  refine ⟨⟨plan_names h, fun q hq => (edgeDevice_of_plan h hmulti hq).1⟩, ?_, ?_, ?_⟩
  · intro a ha b hb
    constructor
    · rw [← Topology.mem_across_iff, ← (neighborsOf_of_plan h hmulti ha).1, List.mem_map]
    · rintro ⟨l, hl, hjoins⟩
      exact ⟨filter_neighborsOf h hmulti ha hb ⟨l, hl, hjoins⟩,
        filter_neighborsOf h hmulti hb ha ⟨l, hl, hjoins.symm⟩⟩
  · intro a ha
    have hacross := (neighborsOf_of_plan h hmulti ha).1
    refine ⟨hacross, ?_⟩
    intro n hn
    apply hsimple.across
    rw [← hacross]
    exact List.mem_map_of_mem hn
  · have hlists : (plan.participants.flatMap ParticipantPlan.neighbors).map Neighbor.node
        = s.names.flatMap (Topology.across plan.links) := by
      rw [List.map_flatMap, ← plan_names h, List.flatMap_map, List.flatMap_def, List.flatMap_def,
        List.map_congr_left fun q hq => (edgeDevice_of_plan h hmulti hq).2.1]
    calc (plan.participants.flatMap ParticipantPlan.neighbors).length
        = ((plan.participants.flatMap ParticipantPlan.neighbors).map Neighbor.node).length := by
          rw [List.length_map]
      _ = (s.names.flatMap (Topology.across plan.links)).length := by rw [hlists]
      _ = 2 * plan.links.length := Topology.length_across hsimple hnames

/-- Three clusters in a row, with the second named last in both links. -/
def rowSlice : Slice :=
  { Slice.named "blue" [
      Participant.named "north" "north-gate" "10.0.0.1",
      Participant.named "south" "south-gate" "10.0.0.2",
      Participant.named "west" "west-gate" "10.0.0.3"] with
    links := some [⟨"west", "south"⟩, ⟨"north", "south"⟩] }

/-- The cluster in the middle lists the other two, and each of them lists it. -/
theorem plan_neighbors_rowSlice :
    ∃ plan, (ofSettings Settings.standard).plan rowSlice .slice = .ok plan
      ∧ rowSlice.isMultiCluster = true
      ∧ (plan.neighborsOf "south").map Neighbor.node = ["west", "north"]
      ∧ ((plan.neighborsOf "south").filter fun n => n.node = "north") = [⟨"north", "10.0.0.1"⟩]
      ∧ ((plan.neighborsOf "north").filter fun n => n.node = "south") = [⟨"south", "10.0.0.2"⟩]
      ∧ (plan.participants.flatMap ParticipantPlan.neighbors).length = 4 := by
  have hlinks : ((ofSettings Settings.standard).plan rowSlice .slice).map Plan.links
      = .ok [⟨"west", "south"⟩, ⟨"north", "south"⟩] := by rfl
  cases hplan : (ofSettings Settings.standard).plan rowSlice .slice with
  | error e => rw [hplan] at hlinks; cases hlinks
  | ok plan =>
      rw [hplan] at hlinks
      replace hlinks : plan.links = _ := Except.ok.inj hlinks
      obtain ⟨-, hpairs, hlists, hsum⟩ := plan_neighbors hplan rfl
      rw [hlinks] at hpairs hlists hsum
      have hjoined := (hpairs (Participant.named "south" "south-gate" "10.0.0.2") (by decide)
        (Participant.named "north" "north-gate" "10.0.0.1") (by decide)).2
          ⟨⟨"north", "south"⟩, by decide, Or.inr ⟨rfl, rfl⟩⟩
      have hsouth := (hlists (Participant.named "south" "south-gate" "10.0.0.2") (by decide)).1
      exact ⟨plan, rfl, rfl, hsouth, hjoined.1, hjoined.2, hsum⟩

end Composer

end NetworkSlice
