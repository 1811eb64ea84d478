import NetworkSlice.Address.Partition
import NetworkSlice.Proofs.Place

/-
Sub-blocks as intervals of addresses.

A sub-block is found by its number: `IsNth s k b` says that `b` is the `k`-th
sub-block of `s`, by its family, its base and its length, whatever its proofs.
What is claimed of sub-blocks elsewhere (they are disjoint, they lie in their
parent) is a fact about `k` steps from one base, so it is shown here once, for
any two numbers.

A slice is a stretch of them (`isStretch_slice`), and what holds of any two
sub-blocks in order holds along a stretch.

# Carving

`partition_eq_slice` opens `Cidr.partition`: where it succeeds, the blocks are
the sub-blocks 1 to `count` of one length, and there are more than `count`
sub-blocks of it. The one arithmetic fact behind it is `bitLength_le_iff`.
-/
namespace NetworkSlice

namespace Cidr

/-- Membership, spelled out. -/
theorem mem_iff {a : Addr} {c : Cidr} :
    a ∈ c ↔ a.family = c.family ∧ c.base ≤ a.bits ∧ a.bits < c.base + c.size :=
  Iff.rfl

/-- The blocks share no address. -/
def Disjoint (c d : Cidr) : Prop := ∀ a : Addr, a ∈ c → a ∉ d

theorem Disjoint.symm {c d : Cidr} (h : c.Disjoint d) : d.Disjoint c :=
  fun a hd hc => h a hc hd

/-- All addresses of `c` are in `d`. -/
def Within (c d : Cidr) : Prop := ∀ a : Addr, a ∈ c → a ∈ d

namespace SubBlocks

variable {s : SubBlocks} {b d : Cidr} {blocks : List Cidr} {i j k : Nat}

theorem step_pos (s : SubBlocks) : 0 < s.step := Nat.two_pow_pos _

/-- `b` is the `k`-th sub-block, counted from 0. -/
structure IsNth (s : SubBlocks) (k : Nat) (b : Cidr) : Prop where
  family : b.family = s.parent.family
  base : b.base = s.parent.base + k * s.step
  len : b.len = s.len

/-- What is found under a number below the count. -/
theorem get?_of_lt (h : k < s.count) : ∃ b, s.get? k = some b ∧ s.IsNth k b := by
  unfold get?
  rw [dif_pos h]
  exact ⟨_, rfl, rfl, rfl, rfl⟩

theorem get?_of_le (h : s.count ≤ k) : s.get? k = none := dif_neg (Nat.not_lt.mpr h)

/-- A sub-block has as many addresses as there are from one to the next. -/
theorem IsNth.size_eq (h : s.IsNth k b) : b.size = s.step := by
  unfold Cidr.size step Cidr.width
  rw [h.family, h.len]

/-- Membership in a sub-block, by its number. -/
theorem IsNth.mem_iff (h : s.IsNth k b) {a : Addr} :
    a ∈ b ↔ a.family = s.parent.family
      ∧ s.parent.base + k * s.step ≤ a.bits
      ∧ a.bits < s.parent.base + (k + 1) * s.step := by
  rw [Cidr.mem_iff, h.family, h.base, h.size_eq, Nat.add_mul, Nat.one_mul, Nat.add_assoc]

/-- Of two numbers the lower sub-block ends where the higher begins, or
before. -/
theorem IsNth.disjoint_of_lt (hb : s.IsNth i b) (hd : s.IsNth j d) (hij : i < j) :
    b.Disjoint d := by
  intro a ha had
  have hstep : (i + 1) * s.step ≤ j * s.step := Nat.mul_le_mul_right _ hij
  have hlt := (hb.mem_iff.mp ha).2.2
  have hle := (hd.mem_iff.mp had).2.1
  omega

/-- A sub-block lies in its parent. -/
theorem IsNth.within (hb : s.IsNth k b) (hk : k < s.count) : b.Within s.parent := by
  intro a ha
  obtain ⟨hfam, hle, hlt⟩ := hb.mem_iff.mp ha
  have hend : (k + 1) * s.step ≤ s.parent.size := by
    rw [← s.count_mul_step]
    exact Nat.mul_le_mul_right _ hk
  refine ⟨hfam, ?_, ?_⟩
  · exact Nat.le_trans (Nat.le_add_right ..) hle
  · omega

-- ============================================================= stretches

/-- The blocks are sub-blocks one after another, from number `k` on. -/
def IsStretch (s : SubBlocks) (k : Nat) (blocks : List Cidr) : Prop :=
  ∀ i b, blocks[i]? = some b → k + i < s.count ∧ s.IsNth (k + i) b

/-- An entry of a stretch, by its number. -/
theorem IsStretch.exists_isNth (h : s.IsStretch k blocks) (hb : b ∈ blocks) :
    ∃ j, k ≤ j ∧ j < s.count ∧ s.IsNth j b := by
  obtain ⟨i, hi⟩ := List.mem_iff_getElem?.mp hb
  obtain ⟨hlt, hnth⟩ := h i b hi
  exact ⟨k + i, Nat.le_add_right .., hlt, hnth⟩

/-- What holds of any two sub-blocks in the order of their numbers holds along
a stretch. -/
theorem IsStretch.pairwise {R : Cidr → Cidr → Prop} (h : s.IsStretch k blocks)
    (hR : ∀ {i j b d}, s.IsNth i b → s.IsNth j d → i < j → R b d) : blocks.Pairwise R := by
  refine List.pairwise_iff_getElem.mpr fun i j hi hj hij => ?_
  have hb := (h i _ (List.getElem?_eq_getElem hi)).2
  have hd := (h j _ (List.getElem?_eq_getElem hj)).2
  exact hR hb hd (Nat.add_lt_add_left hij k)

/-- A stretch rises. -/
theorem IsStretch.ascending (h : s.IsStretch k blocks) :
    blocks.Pairwise fun b d => b.base < d.base := by
  refine h.pairwise fun hb hd hij => ?_
  rw [hb.base, hd.base]
  exact Nat.add_lt_add_left (Nat.mul_lt_mul_of_pos_right hij s.step_pos) _

theorem IsStretch.apart (h : s.IsStretch k blocks) : blocks.Pairwise Disjoint :=
  h.pairwise IsNth.disjoint_of_lt

/-- The numbers that a slice goes through are all below the count. -/
theorem isSome_get?_of_mem_range {skip limit : Nat} :
    ∀ i ∈ List.range (min limit (s.count - skip)), (s.get? (skip + i)).isSome = true := by
  intro i hi
  have hi := List.mem_range.mp hi
  obtain ⟨b, hb, -⟩ := get?_of_lt (s := s) (k := skip + i) (by omega)
  rw [hb]
  rfl

/-- No entry of a slice is missing. -/
theorem length_slice (s : SubBlocks) (skip limit : Nat) :
    (s.slice skip limit).length = min limit (s.count - skip) := by
  unfold slice
  rw [List.length_filterMap_eq_countP, List.countP_eq_length.mpr isSome_get?_of_mem_range,
    List.length_range]

/-- The entries of a slice are the sub-blocks after the skipped ones. -/
theorem getElem?_slice (s : SubBlocks) (skip limit i : Nat) :
    (s.slice skip limit)[i]? = if i < limit then s.get? (skip + i) else none := by
  unfold slice
  rw [getElem?_filterMap_of_isSome isSome_get?_of_mem_range]
  by_cases hi : i < min limit (s.count - skip)
  · rw [List.getElem?_range hi, if_pos (by omega)]
    rfl
  · rw [List.getElem?_eq_none (by rw [List.length_range]; omega)]
    split
    case isFalse => rfl
    case isTrue hlimit =>
        -- the slice ends before its limit: the sub-blocks are used up
        exact (get?_of_le (by omega)).symm

theorem isStretch_slice (s : SubBlocks) (skip limit : Nat) :
    s.IsStretch skip (s.slice skip limit) := by
  intro i b hb
  rw [getElem?_slice] at hb
  split at hb
  case isFalse => cases hb
  case isTrue =>
      have hlt : skip + i < s.count := by
        refine Nat.lt_of_not_le fun hle => ?_
        rw [get?_of_le hle] at hb
        cases hb
      obtain ⟨d, hd, hnth⟩ := get?_of_lt hlt
      obtain rfl : b = d := Option.some.inj (hb.symm.trans hd)
      exact ⟨hlt, hnth⟩

end SubBlocks

/-- What is found is the sub-blocks asked for. -/
theorem subBlocks_eq_ok_iff {parent : Cidr} {len : Nat} {s : SubBlocks} :
    parent.subBlocks len = .ok s ↔ s.parent = parent ∧ s.len = len := by
  unfold subBlocks
  split
  case isTrue =>
      constructor
      · intro h
        injection h with h
        exact ⟨congrArg SubBlocks.parent h.symm, congrArg SubBlocks.len h.symm⟩
      · rintro ⟨rfl, rfl⟩
        rfl
  case isFalse hlen =>
      constructor
      · intro h
        cases h
      · rintro ⟨rfl, rfl⟩
        exact absurd ⟨s.parent_le, s.len_le⟩ hlen

/-- There are sub-blocks of the lengths from the block's own to an address. -/
theorem exists_subBlocks_iff {parent : Cidr} {len : Nat} :
    (∃ s, parent.subBlocks len = .ok s) ↔ parent.len ≤ len ∧ len ≤ parent.width := by
  constructor
  · rintro ⟨s, hs⟩
    obtain ⟨rfl, rfl⟩ := subBlocks_eq_ok_iff.mp hs
    exact ⟨s.parent_le, s.len_le⟩
  · rintro ⟨hle, hwidth⟩
    exact ⟨⟨parent, len, hle, hwidth⟩, subBlocks_eq_ok_iff.mpr ⟨rfl, rfl⟩⟩

end Cidr

-- ================================================================ carving

/-- A number has at most `b` binary digits when it lies below two to the `b`. -/
theorem bitLength_le_iff {n b : Nat} : bitLength n ≤ b ↔ n < 2 ^ b := by
  unfold bitLength
  by_cases h : n = 0
  · rw [if_pos h, h]
    exact iff_of_true (Nat.zero_le b) (Nat.two_pow_pos b)
  · rw [if_neg h, Nat.succ_le_iff, Nat.log2_lt h]

theorem lt_two_pow_bitLength (n : Nat) : n < 2 ^ bitLength n :=
  bitLength_le_iff.mp (Nat.le_refl _)

namespace Cidr

variable {parent : Cidr} {count : Nat} {blocks : List Cidr}

/-- What carving for at least one taker comes to: the sub-blocks of the length
that `count` asks for, from number 1 on, or the word that they do not fit. -/
theorem partition_of_pos (parent : Cidr) (h : count ≠ 0) :
    parent.partition count
      = if hfit : parent.len + bitLength count ≤ parent.width then
          .ok (SubBlocks.slice ⟨parent, parent.len + bitLength count, by omega, hfit⟩ 1 count)
        else .error (.addressSpaceExhausted (parent.len + bitLength count) parent.width) := by
  unfold partition
  rw [if_neg h]
  by_cases hfit : parent.len + bitLength count ≤ parent.width
  · rw [dif_pos hfit]
    have hs : parent.subBlocks (parent.len + bitLength count)
        = .ok ⟨parent, parent.len + bitLength count, by omega, hfit⟩ :=
      subBlocks_eq_ok_iff.mpr ⟨rfl, rfl⟩
    simp only [if_neg (Nat.not_lt.mpr hfit), hs]
    rfl
  · rw [dif_neg hfit]
    simp only [if_pos (Nat.lt_of_not_le hfit)]

/-- Carving fails when the sub-blocks would be longer than an address. -/
theorem partition_eq_error_iff {e : SliceError} (h : count ≠ 0) :
    parent.partition count = .error e
      ↔ parent.width < parent.len + bitLength count
        ∧ e = .addressSpaceExhausted (parent.len + bitLength count) parent.width := by
  rw [partition_of_pos parent h]
  split
  case isTrue hfit =>
      constructor
      · intro h; cases h
      · rintro ⟨hlt, -⟩; exact absurd hfit (Nat.not_le.mpr hlt)
  case isFalse hfit =>
      constructor
      · intro h; injection h with h; exact ⟨Nat.lt_of_not_le hfit, h.symm⟩
      · rintro ⟨-, rfl⟩; rfl

/-- Successful carving for at least one taker hands out the sub-blocks 1 to
`count` of one length, of which there are more than `count`. -/
theorem partition_eq_slice (h : parent.partition count = .ok blocks) (hcount : count ≠ 0) :
    ∃ s : SubBlocks, s.parent = parent ∧ s.len = parent.len + bitLength count
      ∧ count < s.count ∧ blocks = s.slice 1 count := by
  rw [partition_of_pos parent hcount] at h
  split at h
  case isFalse => cases h
  case isTrue hfit =>
      injection h with hblocks
      refine ⟨⟨parent, parent.len + bitLength count, by omega, hfit⟩, rfl, rfl, ?_, hblocks.symm⟩
      show count < 2 ^ (parent.len + bitLength count - parent.len)
      rw [Nat.add_sub_cancel_left]
      exact lt_two_pow_bitLength count

end Cidr

end NetworkSlice
