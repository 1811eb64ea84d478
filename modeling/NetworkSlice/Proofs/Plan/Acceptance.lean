import NetworkSlice.Proofs.Plan.Addresses
import NetworkSlice.Proofs.Plan.Neighbors
import NetworkSlice.Proofs.Slice.Faults

/-
Which slices are planned, and what the others are told.

A plan is a chain of steps, and what each of them fails with is one check of
the slice: validation with the structural checks, then the links that are
given, the room in the block, and the overlays of the participants. All other
ways to fail are closed by then: links that were checked are resolved
(`links_of_checked`), an assignment has a block for every participant
(`segment_of_assigned`), and the ends of a simple graph are participants
(`neighbors_of_simple`).

So a plan fails with the first fault of the slice, in the order of `checks`,
and it is made exactly when there is none, which `Slice.Acceptable` and
`Participant.HasSimpleOverlay` say without any order (`plan_accepts`).
-/
namespace NetworkSlice

/-- What a slice has to be to be planned. An empty list of links is always a
simple graph. -/
structure Slice.Acceptable (s : Slice) : Prop where
  named : Text.isBlankText s.name = false
  inhabited : 1 ≤ s.participants.length
  namesGiven : ∀ n ∈ s.names, Text.isBlankText n = false
  namesDiffer : s.names.Nodup
  /-- The block, if there is one, is one of more than one address. -/
  block : ∃ given, s.block = .ok given ∧ ∀ b, given = some b → b.len < b.width
  links : ∀ links, s.links = some links → Topology.Simple s.names links
  /-- To be divided there must be a block, and enough of it. -/
  divided : s.partition = true → ∃ b, s.block = .ok (some b)
    ∧ b.len + bitLength s.participants.length ≤ b.width

/-- The links inside the participant, if any are given, are a simple graph over
its nodes. -/
def Participant.HasSimpleOverlay (p : Participant) : Prop :=
  ∀ links, p.overlayLinks = some links → Topology.Simple (Composer.overlayNodes p) links

namespace Slice

/-- The first participant whose overlay cannot be made. -/
def OverlayFault (s : Slice) (e : SliceError) : Prop :=
  1 < s.participants.length ∧ ∃ before p after links fault,
    s.participants = before ++ p :: after ∧ (∀ q ∈ before, q.HasSimpleOverlay)
      ∧ p.overlayLinks = some links ∧ Topology.Fault (Composer.overlayNodes p) links fault
      ∧ e = .composition s!"overlay of {p.name}: {fault.toSliceError.message}"

/-- All checks of a slice that is planned, in their order. -/
def checks (s : Slice) (scope : Scope) : List (SliceError → Prop) :=
  s.structuralChecks ++ ([LinksFault s] ++ ([RoomFault s] ++
    match scope with
    | .network => []
    | .slice => [OverlayFault s]))

variable {s : Slice}

-- ============================================================= no fault

/-- There is no fault in names that are all different and not blank. -/
theorem not_namesFault_iff :
    (∀ e, ¬ NamesFault s e) ↔ (∀ n ∈ s.names, Text.isBlankText n = false) ∧ s.names.Nodup := by
  simp only [← checkNames_eq_error_iff, ← passes_iff, checkNames_eq_ok_iff]
  simp

/-- There is no fault in a block that has room, or that nobody needs. -/
theorem not_blockFault_iff :
    (∀ e, ¬ BlockFault s e)
      ↔ ∃ given, s.block = .ok given ∧ (∀ b, given = some b → b.len < b.width)
        ∧ (s.partition = true → given ≠ none) := by
  unfold BlockFault
  cases s.block with
  | error e => simp
  | ok given =>
      cases given with
      | none => simp
      | some b => simp

/-- There is no fault in links that are simple, or not given. -/
theorem not_linksFault_iff :
    (∀ e, ¬ LinksFault s e) ↔ ∀ links, s.links = some links → Topology.Simple s.names links := by
  unfold LinksFault
  simp only [← Topology.not_fault_iff]
  constructor
  · intro h links hlinks fault hfault
    exact h _ ⟨links, fault, hlinks, hfault, rfl⟩
  · rintro h e ⟨links, fault, hlinks, hfault, -⟩
    exact h links hlinks fault hfault

/-- There is room where the participants' numbers fit into the bits that are
left. -/
theorem not_roomFault_iff :
    (∀ e, ¬ RoomFault s e)
      ↔ (s.partition = true → ∀ b, s.block = .ok (some b) →
          b.len + bitLength s.participants.length ≤ b.width) := by
  unfold RoomFault
  constructor
  · intro h hpart b hblock
    rw [← Nat.not_lt]
    exact fun hlt => h _ ⟨hpart, b, hblock, hlt, rfl⟩
  · rintro h e ⟨hpart, b, hblock, hlt, -⟩
    exact absurd hlt (Nat.not_lt.mpr (h hpart b hblock))

/-- There is no fault in overlays that are simple, or not made. -/
theorem not_overlayFault_iff :
    (∀ e, ¬ OverlayFault s e)
      ↔ (1 < s.participants.length → ∀ p ∈ s.participants, p.HasSimpleOverlay) := by
  unfold OverlayFault
  constructor
  · intro h hmulti
    apply forall_mem_of_first
    intro before p after hps hbefore links hlinks
    rw [← Topology.not_fault_iff]
    intro fault hfault
    exact h _ ⟨hmulti, before, p, after, links, fault, hps, hbefore, hlinks, hfault, rfl⟩
  · rintro h e ⟨hmulti, before, p, after, links, fault, hps, -, hlinks, hfault, -⟩
    have hp : p ∈ s.participants := hps ▸ List.mem_append_right before List.mem_cons_self
    exact Topology.not_fault_iff.mpr (h hmulti p hp links hlinks) fault hfault

/-- The checks of a network find nothing in a slice that can be planned. -/
theorem not_firstOf_checks_network_iff :
    (∀ e, ¬ FirstOf (s.checks .network) e) ↔ s.Acceptable := by
  rw [not_firstOf_iff]
  simp only [checks, structuralChecks, List.cons_append, List.nil_append, List.forall_mem_cons,
    not_namesFault_iff, not_blockFault_iff, not_linksFault_iff, not_roomFault_iff]
  constructor
  · rintro ⟨hname, hsome, ⟨hgiven, hdiffer⟩, ⟨given, hblock, hlen, hpart⟩, hlinks, hroom, -⟩
    refine ⟨?_, ?_, hgiven, hdiffer, ⟨given, hblock, hlen⟩, hlinks, ?_⟩
    · cases hblank : Text.isBlankText s.name with
      | true => exact absurd ⟨hblank, rfl⟩ (hname _)
      | false => rfl
    · cases hps : s.participants with
      | nil => exact absurd ⟨hps, rfl⟩ (hsome _)
      | cons p rest => exact Nat.succ_pos rest.length
    · intro hp
      cases given with
      | none => exact absurd rfl (hpart hp)
      | some b => exact ⟨b, hblock, hroom hp b hblock⟩
  · rintro ⟨hname, hsome, hgiven, hdiffer, ⟨given, hblock, hlen⟩, hlinks, hdivided⟩
    refine ⟨?_, ?_, ⟨hgiven, hdiffer⟩, ⟨given, hblock, hlen, ?_⟩, hlinks, ?_, ?_⟩
    · rintro e ⟨hblank, -⟩
      rw [hname] at hblank
      cases hblank
    · rintro e ⟨hps, -⟩
      rw [hps] at hsome
      cases hsome
    · rintro hp rfl
      obtain ⟨b, hb, -⟩ := hdivided hp
      rw [hblock] at hb
      cases hb
    · intro hp b hb
      obtain ⟨b', hb', hroom⟩ := hdivided hp
      rw [hb] at hb'
      injection hb' with hb'
      injection hb' with hb'
      exact hb' ▸ hroom
    · intro check hcheck
      cases hcheck

/-- Where a slice is planned in full, the overlays count, too. -/
theorem not_firstOf_checks_slice_iff :
    (∀ e, ¬ FirstOf (s.checks .slice) e)
      ↔ s.Acceptable
        ∧ (1 < s.participants.length → ∀ p ∈ s.participants, p.HasSimpleOverlay) := by
  have hchecks : s.checks .slice = s.checks .network ++ [OverlayFault s] := rfl
  rw [hchecks, not_firstOf_iff, List.forall_mem_append, ← not_firstOf_iff,
    not_firstOf_checks_network_iff, List.forall_mem_singleton, not_overlayFault_iff]

end Slice

namespace Composer

variable {c : Composer} {s : Slice} {scope : Scope} {links : List Link}
  {assignment : Option Assignment} {e : SliceError}

-- ========================================================= before composing

theorem checkGiven_eq_error_iff : checkGiven s = .error e ↔ Slice.LinksFault s e := by
  unfold checkGiven Slice.LinksFault
  cases s.links with
  | none => simp
  | some links =>
      rw [show (Topology.check s.names links = .error e ↔ _) from Topology.check_eq_error_iff]
      constructor
      · rintro ⟨fault, hfault, he⟩
        exact ⟨links, fault, rfl, hfault, he⟩
      · rintro ⟨links', fault, hlinks, hfault, he⟩
        injection hlinks with hlinks
        subst hlinks
        exact ⟨fault, hfault, he⟩

/-- Where the block can be read, all that can go wrong with the assignment is
the room. -/
theorem assign_eq_error_iff {given : Option Cidr} (hcount : s.participants.length ≠ 0)
    (hgiven : s.block = .ok given) : assign s = .error e ↔ Slice.RoomFault s e := by
  unfold assign Slice.RoomFault
  rw [hgiven]
  cases given with
  | none => simp [bind, Except.bind, pure, Except.pure]
  | some block =>
      cases hpart : s.partition with
      | false => simp [bind, Except.bind, pure, Except.pure]
      | true =>
          have hassign : ((Assignment.compute block s.participants.length >>= fun a =>
                .ok (some a)) : Except SliceError (Option Assignment)) = .error e
              ↔ block.partition s.participants.length = .error e := by
            simp [Assignment.compute, bind_eq_error, pure, Except.pure]
          refine Iff.trans hassign ((Cidr.partition_eq_error_iff hcount).trans ?_)
          simp

/-- Links that passed the check are resolved. -/
theorem links_of_checked (c : Composer) (scope : Scope) (hgiven : checkGiven s = .ok ()) :
    ∃ links, c.links s scope = .ok links := by
  refine exists_ok_iff.mpr fun e h => ?_
  unfold Composer.links at h
  split at h
  · obtain ⟨links, hlinks, hcheck⟩ := Topology.resolve_eq_error_iff.mp h
    rw [checkGiven, hlinks] at hgiven
    rw [show Topology.check s.names links = .ok () from hgiven] at hcheck
    cases hcheck
  · cases h

-- ================================================================ composing

/-- A participant has addresses where the assignment covers it, and without an
assignment where the block that all share can be read. -/
theorem segment_of_covered (hshared : assignment = none → ∃ given, s.block = .ok given)
    (hcovered : ∀ a, assignment = some a → s.participants.length ≤ a.blocks.length) {i : Nat}
    {p : Participant} (hp : s.participants[i]? = some p) :
    ∃ segment, c.segment s assignment i p = .ok segment := by
  have haddresses : ∃ block, addresses s assignment i p = .ok block := by
    cases assignment with
    | none => exact hshared rfl
    | some a =>
        have hi : i < a.blocks.length :=
          Nat.lt_of_lt_of_le (List.getElem?_eq_some_iff.mp hp).1 (hcovered a rfl)
        refine ⟨some a.blocks[i], ?_⟩
        simp only [addresses, Assignment.get?, List.getElem?_eq_getElem hi]
  obtain ⟨block, hblock⟩ := haddresses
  exact ⟨_, segment_eq_ok_iff.mpr ⟨block, hblock, rfl⟩⟩

/-- An assignment that is made has a block for each participant. -/
theorem segment_of_assigned {given : Option Cidr} (hgiven : s.block = .ok given)
    (hassign : assign s = .ok assignment) {i : Nat} {p : Participant}
    (hp : s.participants[i]? = some p) :
    ∃ segment, c.segment s assignment i p = .ok segment := by
  refine segment_of_covered (fun _ => ⟨given, hgiven⟩) ?_ hp
  rintro a rfl
  obtain ⟨given', -, hassign⟩ := assign_eq_ok_iff.mp hassign
  cases given' with
  | none => cases hassign
  | some block =>
      dsimp only at hassign
      split at hassign
      · obtain ⟨blocks, hblocks, h⟩ := hassign
        injection h with h
        rw [h]
        exact Nat.le_of_eq (length_of_partition hblocks).symm
      · cases hassign

/-- Participants are found under their names. -/
theorem neighborsOf_of_subset {names : List String} (h : ∀ n ∈ names, n ∈ s.names) :
    ∃ ns, neighborsOf s names = .ok ns := by
  induction names with
  | nil => exact ⟨[], rfl⟩
  | cons name rest ih =>
      obtain ⟨hname, hrest⟩ := List.forall_mem_cons.mp h
      obtain ⟨more, hmore⟩ := ih hrest
      obtain ⟨p, hp, hpname⟩ := List.mem_map.mp hname
      have hfound : ∃ b, lastNamed? s name = some b := by
        refine Option.isSome_iff_exists.mp (List.find?_isSome.mpr ⟨p, List.mem_reverse.mpr hp, ?_⟩)
        simpa using hpname
      obtain ⟨b, hb⟩ := hfound
      refine ⟨⟨b.name, b.gateway.address⟩ :: more, ?_⟩
      unfold neighborsOf neighbor
      rw [hb, hmore]
      rfl

/-- So the neighbors across the links of a simple graph are found. -/
theorem neighbors_of_simple (h : Topology.Simple s.names links) (name : String) :
    ∃ ns, neighbors s links name = .ok ns :=
  neighborsOf_of_subset fun _ hn => (h.across hn).2

/-- An overlay fails with the fault of its own links. -/
theorem overlay_eq_error_iff {p : Participant} :
    c.overlay s p = .error e
      ↔ ∃ links fault, p.overlayLinks = some links ∧ Topology.Fault (overlayNodes p) links fault
        ∧ e = .composition s!"overlay of {p.name}: {fault.toSliceError.message}" := by
  unfold overlay
  rw [bind_eq_error, mapError_eq_error]
  constructor
  · rintro (⟨e', he', rfl⟩ | ⟨links, -, h⟩)
    · obtain ⟨links, hlinks, hcheck⟩ := Topology.resolve_eq_error_iff.mp he'
      obtain ⟨fault, hfault, rfl⟩ := Topology.check_eq_error_iff.mp hcheck
      exact ⟨links, fault, hlinks, hfault, rfl⟩
    · cases h
  · rintro ⟨links, fault, hlinks, hfault, rfl⟩
    exact Or.inl ⟨fault.toSliceError, Topology.resolve_eq_error_iff.mpr
      ⟨links, hlinks, Topology.check_eq_error_iff.mpr ⟨fault, hfault, rfl⟩⟩, rfl⟩

/-- An overlay is made when the links inside are a simple graph. -/
theorem overlay_ok_iff {p : Participant} : (∃ o, c.overlay s p = .ok o) ↔ p.HasSimpleOverlay := by
  rw [exists_ok_iff]
  simp only [overlay_eq_error_iff]
  unfold Participant.HasSimpleOverlay
  simp only [← Topology.not_fault_iff]
  constructor
  · intro h links hlinks fault hfault
    exact h _ ⟨links, fault, hlinks, hfault, rfl⟩
  · rintro h e ⟨links, fault, hlinks, hfault, -⟩
    exact h links hlinks fault hfault

/-- With addresses and neighbors at hand, a participant fails by its overlay
alone, where there is one. -/
theorem participantPlan_eq_error_iff {p : Participant} {index : Nat}
    (hsegment : ∃ segment, c.segment s assignment index p = .ok segment)
    (hneighbors : ∃ ns, neighbors s links p.name = .ok ns) :
    c.participantPlan s links assignment scope index p = .error e
      ↔ joins s scope = true ∧ c.overlay s p = .error e := by
  obtain ⟨segment, hsegment⟩ := hsegment
  obtain ⟨ns, hns⟩ := hneighbors
  unfold participantPlan
  rw [hsegment, hns]
  cases joins s scope with
  | false => simp [bind, Except.bind, pure, Except.pure]
  | true => cases c.overlay s p <;> simp [bind, Except.bind, pure, Except.pure]

/-- So participants fail by the first overlay that cannot be made. -/
theorem composeFrom_eq_error_iff {ps : List Participant} :
    ∀ (index : Nat),
      (∀ i p, ps[i]? = some p → ∃ segment, c.segment s assignment (index + i) p = .ok segment) →
      (∀ p ∈ ps, ∃ ns, neighbors s links p.name = .ok ns) →
      (c.composeFrom s links assignment scope index ps = .error e
        ↔ joins s scope = true ∧ ∃ before p after, ps = before ++ p :: after
          ∧ (∀ q ∈ before, q.HasSimpleOverlay) ∧ c.overlay s p = .error e) := by
  induction ps with
  | nil => intro index _ _; simp [composeFrom]
  | cons p rest ih =>
      intro index hsegments hneighbors
      obtain ⟨hneighbor, hneighbors⟩ := List.forall_mem_cons.mp hneighbors
      have hplan : ∀ e', c.participantPlan s links assignment scope index p = .error e'
          ↔ joins s scope = true ∧ c.overlay s p = .error e' := fun e' =>
        participantPlan_eq_error_iff (hsegments 0 p rfl) hneighbor
      have hmore := ih (index + 1)
        (fun i p' hp' => by rw [Nat.add_assoc, Nat.add_comm 1 i]; exact hsegments (i + 1) p' hp')
        hneighbors
      unfold composeFrom
      rw [bind_eq_error, hplan]
      constructor
      · rintro (⟨hjoins, hp⟩ | ⟨q, hq, h⟩)
        · exact ⟨hjoins, [], p, rest, rfl, List.forall_mem_nil _, hp⟩
        · rcases bind_eq_error.mp h with h | ⟨_, -, h⟩
          · obtain ⟨hjoins, before, p', after, rfl, hbefore, hp'⟩ := hmore.mp h
            refine ⟨hjoins, p :: before, p', after, rfl, List.forall_mem_cons.mpr ⟨?_, hbefore⟩,
              hp'⟩
            -- had its overlay failed, the participant would have
            rw [← overlay_ok_iff (c := c) (s := s), exists_ok_iff]
            intro e' he'
            have hfailed := (hplan e').mpr ⟨hjoins, he'⟩
            rw [hq] at hfailed
            cases hfailed
          · cases h
      · rintro ⟨hjoins, before, p', after, hps, hbefore, hp'⟩
        cases before with
        | nil =>
            injection hps with hps _
            exact Or.inl ⟨hjoins, hps ▸ hp'⟩
        | cons first before =>
            injection hps with hps hrest
            obtain ⟨hfirst, hbefore⟩ := List.forall_mem_cons.mp hbefore
            have hmade : ∃ q, c.participantPlan s links assignment scope index p = .ok q := by
              rw [exists_ok_iff]
              intro e' he'
              obtain ⟨-, he'⟩ := (hplan e').mp he'
              exact exists_ok_iff.mp (overlay_ok_iff.mpr (hps ▸ hfirst)) e' he'
            obtain ⟨q, hq⟩ := hmade
            have h := hmore.mpr ⟨hjoins, before, p', after, hrest, hbefore, hp'⟩
            exact Or.inr ⟨q, hq, bind_eq_error.mpr (Or.inl h)⟩

/-- What composing fails with in a scope. -/
theorem compose_eq_error_iff (scope : Scope) (e : SliceError)
    (hsegments : ∀ i p, s.participants[i]? = some p →
      ∃ segment, c.segment s assignment i p = .ok segment)
    (hneighbors : ∀ p ∈ s.participants, ∃ ns, neighbors s links p.name = .ok ns) :
    c.compose s links assignment scope = .error e
      ↔ scope = .slice ∧ Slice.OverlayFault s e := by
  unfold compose
  rw [composeFrom_eq_error_iff 0 (by simpa using hsegments) hneighbors]
  unfold Slice.OverlayFault joins Slice.isMultiCluster
  simp only [overlay_eq_error_iff, Bool.and_eq_true, decide_eq_true_eq]
  constructor
  · rintro ⟨⟨hscope, hmulti⟩, before, p, after, hps, hbefore, links, fault, hlinks, hfault, he⟩
    exact ⟨hscope, hmulti, before, p, after, links, fault, hps, hbefore, hlinks, hfault, he⟩
  · rintro ⟨hscope, hmulti, before, p, after, links, fault, hps, hbefore, hlinks, hfault, he⟩
    exact ⟨⟨hscope, hmulti⟩, before, p, after, hps, hbefore, links, fault, hlinks, hfault, he⟩

-- ============================================================== whole plans

/-- A plan fails with the first fault of its slice. -/
theorem plan_eq_error_iff : c.plan s scope = .error e ↔ FirstOf (s.checks scope) e := by
  unfold Composer.plan Slice.checks
  refine bind_eq_error_iff_firstOf (fun _ => Slice.validate_eq_error_iff) ?_ e
  intro _ hvalid e
  obtain ⟨-, hsome, -, given, hgiven, -⟩ := Slice.validate_eq_ok_iff.mp hvalid
  have hcount : s.participants.length ≠ 0 := fun h => hsome (List.length_eq_zero_iff.mp h)
  refine bind_eq_error_iff_firstOf
    (fun _ => checkGiven_eq_error_iff.trans firstOf_singleton_iff.symm) ?_ e
  intro _ hchecked e
  refine bind_eq_error_iff_firstOf
    (fun _ => (assign_eq_error_iff hcount hgiven).trans firstOf_singleton_iff.symm) ?_ e
  intro assignment hassign e
  obtain ⟨links, hlinks⟩ := links_of_checked c scope hchecked
  have hcompose := compose_eq_error_iff (c := c) scope e
    (fun i p hp => segment_of_assigned hgiven hassign hp)
    (fun p _ => neighbors_of_simple (links_simple hvalid hlinks) p.name)
  rw [hlinks]
  show ((c.compose s links assignment scope >>= fun participants =>
    .ok ⟨s.name, links, assignment, participants⟩) : Except SliceError Plan) = .error e ↔ _
  rw [bind_eq_error, hcompose]
  cases scope <;> simp [FirstOf]

/-- Which slices are planned. A network of a slice is planned when the slice is
acceptable, the slice in full when its overlays are simple graphs as well,
unless it is a slice of one cluster. The rest fail with the first fault in the
order of the checks. -/
theorem plan_accepts (c : Composer) (s : Slice) :
    ((∃ plan, c.plan s .network = .ok plan) ↔ s.Acceptable)
      ∧ ((∃ plan, c.plan s .slice = .ok plan)
        ↔ s.Acceptable
          ∧ (1 < s.participants.length → ∀ p ∈ s.participants, p.HasSimpleOverlay))
      ∧ ∀ scope e, c.plan s scope = .error e ↔ FirstOf (s.checks scope) e := by
  refine ⟨?_, ?_, fun scope e => plan_eq_error_iff⟩
  · rw [exists_ok_iff]
    simp only [plan_eq_error_iff]
    exact Slice.not_firstOf_checks_network_iff
  · rw [exists_ok_iff]
    simp only [plan_eq_error_iff]
    exact Slice.not_firstOf_checks_slice_iff

end Composer

end NetworkSlice
