import NetworkSlice.Proofs.Address.Carving
import NetworkSlice.Proofs.Plan.Steps

/-
Which addresses the participants of a plan get.

A plan divides the block of its slice, or shares it. Where it divides, the
segment under every index carries the sub-block of that index, and what the
participants get is disjoint, inside the block and clear of the block's own
base; where it shares, all segments carry the block as it was read, or none
does. Both are `plan_addresses`; the geometry is that of `Cidr.Carved`.
-/
namespace NetworkSlice.Composer

variable {c : Composer} {s : Slice} {scope : Scope} {plan : Plan} {block : Cidr}
  {blocks : List Cidr} {n : Nat}

-- ======================================================== carved blocks

/-- Every block is carved for one taker. -/
theorem length_of_partition (h : block.partition n = .ok blocks) : blocks.length = n := by
  by_cases hn : n = 0
  · subst hn
    injection h with h
    subst h
    rfl
  · exact (Cidr.carved_of_partition h hn).length_eq

/-- Blocks carved for different takers share no address. -/
theorem disjoint_of_partition (h : block.partition n = .ok blocks) {i j : Nat} {b d : Cidr}
    (hij : i ≠ j) (hb : blocks[i]? = some b) (hd : blocks[j]? = some d) : b.Disjoint d := by
  have hi : i < n := length_of_partition h ▸ (List.getElem?_eq_some_iff.mp hb).1
  exact (Cidr.carved_of_partition h (by omega)).disjoint hij hb hd

/-- A carved block lies in the block it is carved from, without that block's
base. -/
theorem within_of_partition (h : block.partition n = .ok blocks) {b : Cidr}
    (hb : b ∈ blocks) : b.Within block ∧ block.network ∉ b := by
  have hpos : 0 < n := length_of_partition h ▸ List.length_pos_of_mem hb
  have hcarved := Cidr.carved_of_partition h (by omega)
  exact ⟨Cidr.contains_iff_within.mp (hcarved.contained b hb), hcarved.network_not_mem hb⟩

-- ============================================================== segments

/-- The one segment of a participant carries the addresses that the
participant is given. -/
theorem segment_of_plan (h : c.plan s scope = .ok plan) {i : Nat} {q : ParticipantPlan}
    (hq : plan.participants[i]? = some q) :
    ∃ p segment, s.participants[i]? = some p
      ∧ q.descriptors.filterMap Descriptor.segment? = [segment]
      ∧ addresses s plan.assignment i p = .ok segment.spec.addresses := by
  have hi : i < s.participants.length :=
    length_plan h ▸ (List.getElem?_eq_some_iff.mp hq).1
  have hp := List.getElem?_eq_getElem hi
  obtain ⟨q', hq', hplan⟩ := plan_participant h hp
  rw [hq] at hq'
  injection hq' with hq'
  subst hq'
  obtain ⟨-, segment, rest, hsegment, hds, hrest⟩ := participantPlan_eq_ok hplan
  refine ⟨_, segment, hp, ?_, ?_⟩
  · rw [hds, List.filterMap_cons_some (f := Descriptor.segment?) (b := segment) rfl,
      List.filterMap_eq_nil_iff.mpr hrest]
  · obtain ⟨given, hgiven, rfl⟩ := segment_eq_ok_iff.mp hsegment
    exact hgiven

/-- The addresses of a plan. Divided, the segment of the `i`-th participant
carries the `i`-th of the blocks carved for all participants, and these are
disjoint, inside the slice's block and without its base. Shared, every segment
carries the slice's block as it was read, or none where there is none. -/
theorem plan_addresses (h : c.plan s scope = .ok plan) :
    plan.participants.map ParticipantPlan.participant = s.names
      ∧ (s.partition = true →
          ∃ block assignment, s.block = .ok (some block)
            ∧ plan.assignment = some assignment
            ∧ block.partition s.participants.length = .ok assignment.blocks
            ∧ (∀ i q, plan.participants[i]? = some q →
                ∃ segment b, q.descriptors.filterMap Descriptor.segment? = [segment]
                  ∧ segment.spec.addresses = some b
                  ∧ assignment.get? i = some b ∧ assignment.blocks[i]? = some b)
            ∧ (∀ i j b d, i ≠ j → assignment.get? i = some b → assignment.get? j = some d →
                b.Disjoint d)
            ∧ ∀ b ∈ assignment.blocks, b.Within block ∧ block.network ∉ b)
      ∧ (s.partition = false →
          plan.assignment = none
            ∧ ∃ block, s.block = .ok block
              ∧ ∀ q ∈ plan.participants,
                  ∃ segment, q.descriptors.filterMap Descriptor.segment? = [segment]
                    ∧ segment.spec.addresses = block) := by
  obtain ⟨hvalid, -, hassign, -, -, -⟩ := plan_eq_ok_iff.mp h
  obtain ⟨given, hgiven, hassign⟩ := assign_eq_ok_iff.mp hassign
  refine ⟨plan_names h, ?_, ?_⟩
  · intro hpart
    obtain ⟨block, hblock⟩ := Slice.block_of_validate hvalid hpart
    rw [hblock] at hgiven
    injection hgiven with hgiven
    subst hgiven
    dsimp only at hassign
    rw [if_pos hpart] at hassign
    obtain ⟨blocks, hblocks, hassign⟩ := hassign
    refine ⟨block, ⟨blocks⟩, hblock, hassign, hblocks, ?_, ?_, ?_⟩
    · intro i q hq
      obtain ⟨p, segment, hp, hsegment, haddresses⟩ := segment_of_plan h hq
      have hi : i < blocks.length := by
        rw [length_of_partition hblocks]
        exact (List.getElem?_eq_some_iff.mp hp).1
      have hget := List.getElem?_eq_getElem hi
      refine ⟨segment, blocks[i], hsegment, ?_, hget, hget⟩
      rw [hassign] at haddresses
      simp only [addresses, Assignment.get?, hget] at haddresses
      injection haddresses with haddresses
      exact haddresses.symm
    · intro i j b d hij hb hd
      exact disjoint_of_partition hblocks hij hb hd
    · intro b hb
      exact within_of_partition hblocks hb
  · intro hpart
    have hnone : plan.assignment = none := by
      cases given with
      | none => exact hassign
      | some block =>
          dsimp only at hassign
          rwa [hpart] at hassign
    refine ⟨hnone, given, hgiven, ?_⟩
    intro q hq
    obtain ⟨i, hi⟩ := List.mem_iff_getElem?.mp hq
    obtain ⟨p, segment, -, hsegment, haddresses⟩ := segment_of_plan h hi
    refine ⟨segment, hsegment, ?_⟩
    rw [hnone] at haddresses
    simp only [addresses, hgiven] at haddresses
    injection haddresses with haddresses
    exact haddresses.symm

/-- Three clusters that divide a block, which is written with bits beyond its
length. -/
def dividedSlice : Slice :=
  { Slice.named "blue" [
      Participant.named "north" "north-gate" "10.0.0.1",
      Participant.named "south" "south-gate" "10.0.0.2",
      Participant.named "west" "west-gate" "10.0.0.3"] with
    addressBlock := some " 2001:db8::9/126 "
    partition := true }

/-- The block of three clusters leaves each of them a single address. -/
theorem plan_addresses_dividedSlice :
    ∃ plan, (ofSettings Settings.standard).plan dividedSlice .slice = .ok plan
      ∧ dividedSlice.partition = true
      ∧ ∃ block assignment, dividedSlice.block = .ok (some block)
        ∧ plan.assignment = some assignment
        ∧ (∀ i j b d, i ≠ j → assignment.get? i = some b → assignment.get? j = some d →
            b.Disjoint d)
        ∧ ∀ b ∈ assignment.blocks, b.Within block ∧ block.network ∉ b := by
  have hok : ((ofSettings Settings.standard).plan dividedSlice .slice).isOk = true := by rfl
  cases hplan : (ofSettings Settings.standard).plan dividedSlice .slice with
  | error e => rw [hplan] at hok; cases hok
  | ok plan =>
      obtain ⟨-, hdivided, -⟩ := plan_addresses hplan
      obtain ⟨block, assignment, hblock, hassign, -, -, hdisjoint, hwithin⟩ := hdivided rfl
      exact ⟨plan, rfl, rfl, block, assignment, hblock, hassign, hdisjoint, hwithin⟩

end NetworkSlice.Composer
