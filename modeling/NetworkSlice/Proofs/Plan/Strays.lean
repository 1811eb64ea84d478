import NetworkSlice.Proofs.Plan.Acceptance
import NetworkSlice.Proofs.Plan.Errors

/-
Links that lead out of a slice.

Planning checks its links before it composes anything. Composing takes any
links and never goes through them: it follows them from one participant after
another, and an end that is no participant is noticed where somebody is across
from it. So a link that joins a participant to a stranger stops the
composition (`exists_neighbors_iff`), while a link between two strangers is
seen from nowhere and changes nothing (`compose_filter_touches`).

What else can stop it is no matter of links: a block that cannot be read, which
is met first, and an overlay (`exists_compose_iff`).
-/
namespace NetworkSlice

namespace Link

variable {l : Link} {names : List String}

/-- The link joins one of the names to a name that is not. -/
def Leaves (l : Link) (names : List String) : Prop :=
  ∃ a ∈ names, ∃ b, b ∉ names ∧ l.Joins a b

/-- An end of the link is one of the names. -/
def touches (l : Link) (names : List String) : Bool :=
  l.endpointA ∈ names || l.endpointB ∈ names

/-- From a link that does not touch a name it leads nowhere. -/
theorem otherEnd?_of_not_touches (h : l.touches names = false) {name : String}
    (hname : name ∈ names) : l.otherEnd? name = none := by
  simp only [touches, Bool.or_eq_false_iff, decide_eq_false_iff_not] at h
  have hA : l.endpointA ≠ name := fun heq => h.1 (heq ▸ hname)
  have hB : l.endpointB ≠ name := fun heq => h.2 (heq ▸ hname)
  simp [otherEnd?, hA, hB]

end Link

namespace Composer

variable {c : Composer} {s : Slice} {scope : Scope} {links : List Link}
  {assignment : Option Assignment}

-- =============================================================== neighbors

/-- All participants find their neighbors when no link leads out of the slice. -/
theorem exists_neighbors_iff :
    (∀ p ∈ s.participants, ∃ ns, neighbors s links p.name = .ok ns)
      ↔ ∀ l ∈ links, ¬l.Leaves s.names := by
  constructor
  · rintro h l hl ⟨a, ha, b, hb, hjoins⟩
    obtain ⟨p, hp, rfl⟩ := List.mem_map.mp ha
    obtain ⟨ns, hns⟩ := h p hp
    obtain ⟨hnames, hfound⟩ := neighborsOf_eq_ok hns
    have hacross : b ∈ ns.map Neighbor.node := by
      rw [hnames]
      exact Topology.mem_across_iff.mpr ⟨l, hl, hjoins⟩
    obtain ⟨n, hn, rfl⟩ := List.mem_map.mp hacross
    obtain ⟨q, hq, rfl⟩ := hfound n hn
    exact hb (List.mem_map_of_mem hq)
  · intro h p hp
    apply neighborsOf_of_subset
    intro b hb
    obtain ⟨l, hl, hjoins⟩ := Topology.mem_across_iff.mp hb
    exact Decidable.byContradiction fun hout =>
      h l hl ⟨p.name, List.mem_map_of_mem hp, b, hout, hjoins⟩

/-- From no participant there is anything across a link between strangers. -/
theorem across_filter_touches (links : List Link) {names : List String} {name : String}
    (hname : name ∈ names) :
    Topology.across (links.filter fun l => l.touches names) name
      = Topology.across links name := by
  unfold Topology.across
  induction links with
  | nil => rfl
  | cons l rest ih =>
      cases htouches : l.touches names with
      | true => simp [List.filterMap_cons, htouches, ih]
      | false =>
          have hnone := Link.otherEnd?_of_not_touches htouches hname
          simp [htouches, hnone, ih]

/-- So links that touch nobody make no neighbors. -/
theorem neighbors_filter_touches {name : String} (hname : name ∈ s.names) :
    neighbors s (links.filter fun l => l.touches s.names) name = neighbors s links name :=
  congrArg (neighborsOf s) (across_filter_touches links hname)

/-- So without such links the same is composed. -/
theorem compose_filter_touches :
    c.compose s (links.filter fun l => l.touches s.names) assignment scope
      = c.compose s links assignment scope :=
  compose_congr_links fun _ hp => neighbors_filter_touches (List.mem_map_of_mem hp)

-- =============================================================== composing

/-- A joined participant with addresses at hand is composed when it has its
neighbors and its overlay. -/
theorem exists_participantPlan_iff (hjoins : joins s scope = true) {p : Participant} {index : Nat}
    (hsegment : ∃ segment, c.segment s assignment index p = .ok segment) :
    (∃ q, c.participantPlan s links assignment scope index p = .ok q)
      ↔ (∃ ns, neighbors s links p.name = .ok ns) ∧ p.HasSimpleOverlay := by
  rw [← overlay_ok_iff (c := c) (s := s)]
  constructor
  · rintro ⟨q, h⟩
    obtain ⟨-, -, -, ⟨hapart, -⟩ | ⟨ns, overlay, -, hns, hoverlay, -⟩⟩ := participantPlan_cases h
    · rw [hjoins] at hapart
      cases hapart
    · exact ⟨⟨ns, hns⟩, overlay, hoverlay⟩
  · rintro ⟨⟨ns, hns⟩, overlay, hoverlay⟩
    obtain ⟨segment, hsegment⟩ := hsegment
    refine ⟨⟨p.name,
      [.segment segment, .edgeDevice (c.edgeDevice s ns p), .overlay overlay]⟩, ?_⟩
    unfold participantPlan
    refine bind_eq_ok.mpr ⟨segment, hsegment, ?_⟩
    rw [if_pos hjoins]
    exact bind_eq_ok.mpr ⟨ns, hns, bind_eq_ok.mpr ⟨overlay, hoverlay, rfl⟩⟩

/-- So a joined slice with addresses is composed when no link leads out of it
and the overlays are simple graphs. -/
theorem exists_compose_iff (hjoins : joins s scope = true)
    (hsegments : ∀ i p, s.participants[i]? = some p →
      ∃ segment, c.segment s assignment i p = .ok segment) :
    (∃ plans, c.compose s links assignment scope = .ok plans)
      ↔ (∀ l ∈ links, ¬l.Leaves s.names) ∧ ∀ p ∈ s.participants, p.HasSimpleOverlay := by
  rw [← exists_neighbors_iff]
  refine exists_composeFrom_iff.trans ?_
  constructor
  · intro h
    have hboth : ∀ p ∈ s.participants,
        (∃ ns, neighbors s links p.name = .ok ns) ∧ p.HasSimpleOverlay := by
      intro p hp
      obtain ⟨i, hi⟩ := List.mem_iff_getElem?.mp hp
      have hplan := h i p hi
      rw [Nat.zero_add] at hplan
      exact (exists_participantPlan_iff hjoins (hsegments i p hi)).mp hplan
    exact ⟨fun p hp => (hboth p hp).1, fun p hp => (hboth p hp).2⟩
  · rintro ⟨hneighbors, hoverlays⟩ i p hi
    have hp := List.mem_of_getElem? hi
    rw [Nat.zero_add]
    exact (exists_participantPlan_iff hjoins (hsegments i p hi)).mpr
      ⟨hneighbors p hp, hoverlays p hp⟩

/-- A block that all share and that cannot be read is met at the first
participant, before any link. -/
theorem compose_of_block_error (hsome : s.participants ≠ []) {e : SliceError}
    (hblock : s.block = .error e) : c.compose s links none scope = .error e := by
  unfold compose
  cases hps : s.participants with
  | nil => exact absurd hps hsome
  | cons p rest =>
      unfold composeFrom participantPlan segment addresses
      rw [hblock]
      rfl

/-- What becomes of the links that composing is handed for a slice of several
clusters, without an assignment or with one that covers them. A link that joins
a participant to a stranger is a composition error, unless there is a shared
block that cannot be read, which is the error then. Where no link does, the
slice is composed if its overlays are simple graphs. A link between strangers
is passed over: what is composed with it is composed without it. -/
theorem compose_links (c : Composer) (links : List Link) (hmulti : s.isMultiCluster = true)
    (hcovered : ∀ a, assignment = some a → s.participants.length ≤ a.blocks.length) :
    (∀ e, assignment = none → s.block = .error e →
        c.compose s links assignment .slice = .error e)
      ∧ ((assignment = none → ∃ given, s.block = .ok given) →
          ((∃ l ∈ links, l.Leaves s.names) →
              ∃ text, c.compose s links assignment .slice = .error (.composition text))
            ∧ ((∀ l ∈ links, ¬l.Leaves s.names) →
              ((∃ plans, c.compose s links assignment .slice = .ok plans)
                ↔ ∀ p ∈ s.participants, p.HasSimpleOverlay)))
      ∧ c.compose s (links.filter fun l => l.touches s.names) assignment .slice
        = c.compose s links assignment .slice := by
  have hjoins : joins s .slice = true := by rw [joins, hmulti]; rfl
  refine ⟨?_, fun hshared => ?_, compose_filter_touches⟩
  · rintro e rfl hblock
    refine compose_of_block_error ?_ hblock
    intro hnone
    rw [Slice.isMultiCluster, hnone] at hmulti
    cases hmulti
  · have hsegments : ∀ i p, s.participants[i]? = some p →
        ∃ segment, c.segment s assignment i p = .ok segment :=
      fun i p => segment_of_covered hshared hcovered
    have hcomposed : (∃ plans, c.compose s links assignment .slice = .ok plans)
        ↔ (∀ l ∈ links, ¬l.Leaves s.names) ∧ ∀ p ∈ s.participants, p.HasSimpleOverlay :=
      exists_compose_iff hjoins hsegments
    constructor
    · rintro ⟨l, hl, hleaves⟩
      have hfails : FailsOnly (fun e => ∃ text, e = .composition text)
          (c.compose s links assignment .slice) := by
        refine composeFrom_failsOnly (fun text => ⟨text, rfl⟩) fun i p hp => ?_
        rw [Nat.zero_add]
        obtain ⟨segment, hsegment⟩ := hsegments i p hp
        exact hsegment ▸ failsOnly_ok segment
      cases h : c.compose s links assignment .slice with
      | ok plans => exact absurd hleaves ((hcomposed.mp ⟨plans, h⟩).1 l hl)
      | error e =>
          obtain ⟨text, rfl⟩ := hfails e h
          exact ⟨text, rfl⟩
    · intro hlinks
      rw [hcomposed]
      exact and_iff_right hlinks

/-- Two clusters that have nothing to say of links. -/
def pairSlice : Slice :=
  Slice.named "blue" [
    Participant.named "north" "north-gate" "10.0.0.1",
    Participant.named "south" "south-gate" "10.0.0.2"]

/-- A link out of the pair is an error, the one between strangers is none. -/
theorem compose_links_pairSlice :
    pairSlice.isMultiCluster = true
      ∧ (∃ text, (ofSettings .standard).compose pairSlice [⟨"east", "south"⟩] none .slice
          = .error (.composition text))
      ∧ (ofSettings .standard).compose pairSlice [] none .slice
        = (ofSettings .standard).compose pairSlice [⟨"east", "west"⟩] none .slice := by
  have hleaves : (Link.mk "east" "south").Leaves pairSlice.names :=
    ⟨"south", by decide, "east", by decide, Or.inr ⟨rfl, rfl⟩⟩
  have hcovered : ∀ a, (none : Option Assignment) = some a →
      pairSlice.participants.length ≤ a.blocks.length := nofun
  have hleaving := (compose_links (ofSettings .standard) [⟨"east", "south"⟩] rfl hcovered).2.1
  have hpassed := (compose_links (ofSettings .standard) [⟨"east", "west"⟩] rfl hcovered).2.2
  exact ⟨rfl, (hleaving fun _ => ⟨none, rfl⟩).1 ⟨_, List.mem_cons_self, hleaves⟩, hpassed⟩

/-- A link between two strangers is composed without an error. -/
theorem exists_stranger_composed :
    ¬∀ (c : Composer) (s : Slice) (links : List Link) (assignment : Option Assignment),
      s.isMultiCluster = true → s.names.Nodup →
      (∀ a, assignment = some a → s.participants.length ≤ a.blocks.length) →
      (∃ l ∈ links, l.endpointA ∉ s.names ∨ l.endpointB ∉ s.names) →
        ∃ text, c.compose s links assignment .slice = .error (.composition text) := by
  intro hall
  have hok : ((ofSettings .standard).compose pairSlice [⟨"east", "west"⟩] none .slice).isOk
      = true := by rfl
  obtain ⟨text, h⟩ := hall (ofSettings .standard) pairSlice [⟨"east", "west"⟩] none rfl (by decide)
    nofun ⟨_, List.mem_cons_self, Or.inl (by decide)⟩
  rw [h] at hok
  cases hok

end Composer

end NetworkSlice
