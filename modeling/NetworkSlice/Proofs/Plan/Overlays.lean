import NetworkSlice.Proofs.Plan.Steps
import NetworkSlice.Proofs.Slice.Graph

/-
The overlays of a plan.

An overlay takes its links from the participant or, if it gives none, from the
mesh over its nodes. What is given was checked against the nodes, and the mesh
links nothing but nodes, so the ends are nodes in any case. But nothing compares
the nodes with each other, as validation compares the names of participants:
over nodes of which one is repeated the mesh has a loop, and those are all the
overlays that are not simple graphs (`plan_overlays`).
-/
namespace NetworkSlice.Composer

variable {c : Composer} {s : Slice} {plan : Plan} {p : Participant} {o : Overlay}

/-- An overlay has the nodes of its participant and the links that are resolved
over them. -/
theorem overlay_eq_ok (h : c.overlay s p = .ok o) :
    o.spec.topology.nodes = overlayNodes p
      ∧ Topology.resolve (overlayNodes p) p.overlayLinks c.emptyLinks
        = .ok o.spec.topology.links := by
  obtain ⟨links, hlinks, rfl⟩ := overlay_eq_ok_iff.mp h
  exact ⟨rfl, hlinks⟩

/-- The nodes of an overlay are different where the participant's are. -/
theorem nodup_overlayNodes_iff : (overlayNodes p).Nodup ↔ p.nodes.Nodup := by
  unfold overlayNodes
  cases p.nodes with
  | nil =>
      -- the gateway stands for them, and it is the only one
      simp
  | cons node rest => rfl

/-- A participant of a plan has an overlay where the participants are joined,
and then it is the one composed for it. -/
theorem overlay?_of_participantPlan {links : List Link} {assignment : Option Assignment}
    {scope : Scope} {index : Nat} {q : ParticipantPlan}
    (h : c.participantPlan s links assignment scope index p = .ok q) :
    (joins s scope = true → ∃ o, q.overlay? = some o)
      ∧ ∀ o, q.overlay? = some o → c.overlay s p = .ok o := by
  obtain ⟨segment, -, -, ⟨hjoins, hds⟩ | ⟨ns, overlay, -, -, hoverlay, hds⟩⟩ :=
    participantPlan_cases h
  · have hnone : q.overlay? = none := by
      rw [ParticipantPlan.overlay?, hds]
      rfl
    rw [hjoins, hnone]
    exact ⟨(fun h => nomatch h), fun o ho => nomatch ho⟩
  · have hsome : q.overlay? = some overlay := by
      rw [ParticipantPlan.overlay?, hds]
      rfl
    rw [hsome]
    exact ⟨fun _ => ⟨overlay, rfl⟩, fun o ho => Option.some.inj ho ▸ hoverlay⟩

/-- The overlays of a slice that is planned in full. Every participant of a
slice of several clusters has one, over its own nodes, and its links never lead
elsewhere. They are a simple graph unless they are the mesh over nodes of which
one is repeated. -/
theorem plan_overlays (h : c.plan s .slice = .ok plan) {i : Nat}
    (hp : s.participants[i]? = some p) :
    ∃ q, plan.participants[i]? = some q ∧ q.participant = p.name
      ∧ (s.isMultiCluster = true → ∃ o, q.overlay? = some o)
      ∧ ∀ o, q.overlay? = some o →
          o.spec.topology.nodes = overlayNodes p
            ∧ (∀ l ∈ o.spec.topology.links,
                l.endpointA ∈ o.spec.topology.nodes ∧ l.endpointB ∈ o.spec.topology.nodes)
            ∧ (Topology.Simple o.spec.topology.nodes o.spec.topology.links
                ↔ (Topology.Meshed p.overlayLinks c.emptyLinks → p.nodes.Nodup)) := by
  obtain ⟨q, hq, hplan⟩ := plan_participant h hp
  obtain ⟨hexists, hcomposed⟩ := overlay?_of_participantPlan hplan
  refine ⟨q, hq, (participantPlan_eq_ok hplan).1, ?_, ?_⟩
  · intro hmulti
    exact hexists (by rw [joins, hmulti]; rfl)
  · intro o ho
    obtain ⟨hnodes, hlinks⟩ := overlay_eq_ok (hcomposed o ho)
    rw [hnodes, ← nodup_overlayNodes_iff]
    exact ⟨rfl, Topology.ends_of_resolve hlinks, Topology.resolve_simple_iff hlinks⟩

/-- Two clusters, of which the first names its one node twice. -/
def twinSlice : Slice :=
  Slice.named "blue" [
    { Participant.named "north" "north-gate" "10.0.0.1" with nodes := ["n1", "n1"] },
    Participant.named "south" "south-gate" "10.0.0.2"]

/-- The node that is named twice is linked to itself. -/
theorem plan_overlays_twinSlice :
    ∃ plan q o, (ofSettings Settings.standard).plan twinSlice .slice = .ok plan
      ∧ plan.participants[0]? = some q ∧ q.participant = "north" ∧ q.overlay? = some o
      ∧ o.spec.topology.nodes = ["n1", "n1"]
      ∧ ¬Topology.Simple o.spec.topology.nodes o.spec.topology.links := by
  have hok : ((ofSettings Settings.standard).plan twinSlice .slice).isOk = true := by rfl
  cases hplan : (ofSettings Settings.standard).plan twinSlice .slice with
  | error e => rw [hplan] at hok; cases hok
  | ok plan =>
      obtain ⟨q, hq, hname, hexists, hoverlay⟩ := plan_overlays hplan (i := 0) rfl
      obtain ⟨o, ho⟩ := hexists rfl
      obtain ⟨hnodes, -, hsimple⟩ := hoverlay o ho
      refine ⟨plan, q, o, rfl, hq, hname, ho, hnodes, ?_⟩
      rw [hsimple]
      exact fun hnodup => absurd (hnodup (Or.inl rfl)) (by decide)

/-- A participant that names a node twice gets a link from the node to itself.
-/
theorem exists_overlay_not_simple :
    ¬∀ (c : Composer) (s : Slice) (plan : Plan), c.plan s .slice = .ok plan →
      ∀ q ∈ plan.participants, ∀ o, q.overlay? = some o →
        Topology.Simple o.spec.topology.nodes o.spec.topology.links := by
  intro hall
  have hlinks : ((ofSettings Settings.standard).plan twinSlice .slice).map (fun plan =>
        plan.participants.map fun q => q.overlay?.map fun o => o.spec.topology.links)
      = .ok [some [⟨"n1", "n1"⟩], some []] := by rfl
  cases hplan : (ofSettings Settings.standard).plan twinSlice .slice with
  | error e => rw [hplan] at hlinks; cases hlinks
  | ok plan =>
      rw [hplan] at hlinks
      replace hlinks : plan.participants.map _ = _ := Except.ok.inj hlinks
      have hloop : some [Link.mk "n1" "n1"] ∈ plan.participants.map fun q =>
          q.overlay?.map fun o => o.spec.topology.links := by
        rw [hlinks]
        exact List.mem_cons_self
      obtain ⟨q, hq, hsome⟩ := List.mem_map.mp hloop
      obtain ⟨o, ho, hlinks⟩ := Option.map_eq_some_iff.mp hsome
      have hsimple := hall _ _ plan hplan q hq o ho
      rw [hlinks] at hsimple
      exact hsimple.loopFree ⟨"n1", "n1"⟩ List.mem_cons_self rfl

end NetworkSlice.Composer
