import NetworkSlice.Proofs.Attempt
import NetworkSlice.Proofs.Address.Sets

/-
What is carved from a block.

`Cidr.Carved` says of a list of blocks all that is promised of the parts of a
block: how many there are, where each of them begins, and how they lie to one
another, to the whole and to the part that is kept back. It is what carving
gives whenever it gives anything (`carved_of_partition`), since the parts are
sub-blocks of one length by their numbers from 1 on. How many bits carving
takes from the host part is a matter of the count alone, and is the least that
is enough (`partition_exact`).
-/
namespace NetworkSlice.Cidr

/-- The list holds `count` parts of a block, each `bits` longer than the block,
from the second such part on. -/
structure Carved (parent : Cidr) (bits count : Nat) (blocks : List Cidr) : Prop where
  length_eq : blocks.length = count
  placed : ∀ i b, blocks[i]? = some b →
    b.family = parent.family ∧ b.len = parent.len + bits
      ∧ b.base = parent.base + (i + 1) * 2 ^ (parent.width - (parent.len + bits))
  /-- No part runs over the end of the family. -/
  fits : ∀ b ∈ blocks, b.base + b.size ≤ 2 ^ parent.width
  ascending : blocks.Pairwise fun b d => b.base < d.base
  contained : ∀ b ∈ blocks, parent.contains b = true
  apart : blocks.Pairwise Disjoint
  /-- The first part, where the block itself begins, is in none of them. -/
  reserved : ∃ first : Cidr, first.family = parent.family ∧ first.len = parent.len + bits
    ∧ first.base = parent.base ∧ ∀ b ∈ blocks, first.Disjoint b

variable {parent : Cidr} {count : Nat} {blocks : List Cidr}

/-- What carving for at least one taker gives. -/
theorem carved_of_partition (h : parent.partition count = .ok blocks) (hcount : count ≠ 0) :
    Carved parent (bitLength count) count blocks := by
  obtain ⟨s, rfl, hlen, hroom, hslice⟩ := partition_eq_slice h hcount
  have hstretch : s.IsStretch 1 blocks := hslice ▸ s.isStretch_slice 1 count
  refine
    { length_eq := ?length_eq
      placed := ?placed
      fits := ?fits
      ascending := hstretch.ascending
      contained := ?contained
      apart := hstretch.apart
      reserved := ?reserved }
  case length_eq =>
    rw [hslice, s.length_slice]
    omega
  case placed =>
    intro i b hb
    obtain ⟨-, hb⟩ := hstretch i b hb
    refine ⟨hb.family, hb.len.trans hlen, ?_⟩
    rw [hb.base, ← hlen, Nat.add_comm 1 i]
    rfl
  case fits =>
    intro b hb
    obtain ⟨j, -, -, hb⟩ := hstretch.exists_isNth hb
    have hend := SubBlocks.base_add_size_le b
    rwa [width, hb.family] at hend
  case contained =>
    intro b hb
    obtain ⟨j, -, hj, hb⟩ := hstretch.exists_isNth hb
    exact contains_iff_within.mpr (hb.within hj)
  case reserved =>
    obtain ⟨first, -, hfirst⟩ := SubBlocks.get?_of_lt (s := s) (k := 0) (by omega)
    refine ⟨first, hfirst.family, hfirst.len.trans hlen, ?_, ?_⟩
    · rw [hfirst.base, Nat.zero_mul, Nat.add_zero]
    · intro b hb
      obtain ⟨j, hj, -, hb⟩ := hstretch.exists_isNth hb
      exact hfirst.disjoint_of_lt hb hj

/-- Parts in different places share no address. -/
theorem Carved.disjoint {bits i j : Nat} {b d : Cidr} (h : Carved parent bits count blocks)
    (hij : i ≠ j) (hb : blocks[i]? = some b) (hd : blocks[j]? = some d) : b.Disjoint d :=
  rel_of_pairwise Disjoint.symm h.apart hij hb hd

/-- A part does not have the base of the block, which is that of the first. -/
theorem Carved.network_not_mem {bits : Nat} {b : Cidr} (h : Carved parent bits count blocks)
    (hb : b ∈ blocks) : parent.network ∉ b := by
  obtain ⟨first, hfamily, -, hbase, hdisjoint⟩ := h.reserved
  have hmem : parent.network ∈ first :=
    ⟨hfamily.symm, Nat.le_of_eq hbase, hbase ▸ Nat.lt_add_of_pos_right first.size_pos⟩
  exact hdisjoint b hb _ hmem

/-- Carving, exactly. For nobody there is nothing to carve. For `count` takers
the parts are longer than the block by the least number of bits of which one
more than `count` parts can be told apart; if such parts are longer than an
address there is no room, and otherwise the takers get the parts from the second
one on. -/
theorem partition_exact (parent : Cidr) (count : Nat) :
    parent.partition 0 = .ok []
      ∧ (count ≠ 0 → ∃ bits,
          (count + 1 ≤ 2 ^ bits ∧ ∀ fewer, count + 1 ≤ 2 ^ fewer → bits ≤ fewer)
            ∧ (parent.width < parent.len + bits →
                parent.partition count
                  = .error (.addressSpaceExhausted (parent.len + bits) parent.width))
            ∧ (parent.len + bits ≤ parent.width →
                ∃ blocks, parent.partition count = .ok blocks
                  ∧ Carved parent bits count blocks)) := by
  refine ⟨rfl, fun hcount => ⟨bitLength count, ⟨?_, ?_⟩, ?_, ?_⟩⟩
  · exact lt_two_pow_bitLength count
  · intro fewer hfewer
    exact bitLength_le_iff.mpr hfewer
  · intro hroom
    exact (partition_eq_error_iff hcount).mpr ⟨hroom, rfl⟩
  · intro hroom
    have hok : ∃ blocks, parent.partition count = .ok blocks := by
      refine exists_ok_iff.mpr fun e he => ?_
      exact absurd ((partition_eq_error_iff hcount).mp he).1 (Nat.not_lt.mpr hroom)
    obtain ⟨blocks, hblocks⟩ := hok
    exact ⟨blocks, hblocks, carved_of_partition hblocks hcount⟩

/-- The four addresses at the end of the wide family. -/
def lastAddresses : Cidr := ⟨.v6, 2 ^ Family.v6.width - 4, 126, by decide, by decide, by decide⟩

/-- For three takers they are a block each, and for four they are too few. -/
theorem partition_exact_lastAddresses :
    (∃ blocks, lastAddresses.partition 3 = .ok blocks ∧ Carved lastAddresses 2 3 blocks)
      ∧ lastAddresses.partition 4 = .error (.addressSpaceExhausted 129 128) := by
  have hmore : ∀ {bits k n : Nat}, 2 ^ k < n → n ≤ 2 ^ bits → k < bits := fun hk hn =>
    (Nat.pow_lt_pow_iff_right Nat.one_lt_two).mp (Nat.lt_of_lt_of_le hk hn)
  obtain ⟨bits, ⟨henough, hleast⟩, -, hroom⟩ := (partition_exact lastAddresses 3).2 (by decide)
  obtain rfl : bits = 2 :=
    Nat.le_antisymm (hleast 2 (by decide)) (hmore (k := 1) (by decide) henough)
  obtain ⟨bits, ⟨henough, hleast⟩, hfull, -⟩ := (partition_exact lastAddresses 4).2 (by decide)
  obtain rfl : bits = 3 :=
    Nat.le_antisymm (hleast 3 (by decide)) (hmore (k := 2) (by decide) henough)
  exact ⟨hroom (by decide), hfull (by decide)⟩

end NetworkSlice.Cidr
