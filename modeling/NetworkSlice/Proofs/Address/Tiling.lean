import Mathlib.Data.List.Sort
import NetworkSlice.Proofs.Address.Carving

/-
The sub-blocks of one length, all together.

`SubBlocks` numbers its blocks and never lists them. `toList` is the list that
going through all the numbers would give, and a slice is a piece of it: some
blocks are skipped, and after some more the walk stops (`slice_eq_take_drop`).

What this list has to be is said without numbers by `Enumerates`: the blocks of
one length that lie in the parent, each once, in address order. Only one list is
so (`enumerates_iff`), because two blocks of one length with a common address
are the same block, and every address of the parent is in the sub-block whose
number is its distance from the base divided by the step (`exists_get?_of_mem`).
The same division makes the blocks a `Tiling`: they fill the parent from its
first address to its last with no gap and no address twice. Carving then cuts
the list into the block that is kept back, the blocks that are handed out, and
the rest (`toList_of_partition`).
-/
namespace NetworkSlice.Cidr

/-- The blocks of length `len` that lie in `parent`, in address order. -/
structure Enumerates (parent : Cidr) (len : Nat) (blocks : List Cidr) : Prop where
  mem_iff : ∀ b, b ∈ blocks ↔ b.len = len ∧ parent.contains b = true
  ascending : blocks.Pairwise fun b d => b.base < d.base

/-- The blocks are of length `len`, lie side by side and make up `parent`. -/
structure Tiling (parent : Cidr) (len : Nat) (blocks : List Cidr) : Prop where
  length_eq : blocks.length = 2 ^ (len - parent.len)
  placed : ∀ k b, blocks[k]? = some b →
    b.family = parent.family ∧ b.len = len
      ∧ b.base = parent.base + k * 2 ^ (parent.width - len)
  ascending : blocks.Pairwise fun b d => b.base < d.base
  /-- The first block begins where `parent` begins. -/
  first : blocks.head?.map network = some parent.network
  /-- The last one ends where `parent` ends. -/
  last : blocks.getLast?.map Cidr.last = some parent.last
  /-- Each address of `parent` is in the block at one place and in no other. -/
  covered : ∀ a, a ∈ parent → ∃! k : Nat, ∃ b, blocks[k]? = some b ∧ a ∈ b
  /-- An address outside `parent` is in none. -/
  confined : ∀ a, a ∉ parent → ∀ b ∈ blocks, a ∉ b

namespace SubBlocks

variable {s : SubBlocks} {a : Addr} {b : Cidr} {k : Nat}

/-- All the sub-blocks. -/
def toList (s : SubBlocks) : List Cidr := s.slice 0 s.count

/-- The whole listing is the stretch of all places. -/
theorem isStretch_toList (s : SubBlocks) : s.IsStretch 0 s.toList := s.isStretch_slice 0 s.count

theorem length_toList (s : SubBlocks) : s.toList.length = s.count := by
  rw [toList, length_slice, Nat.sub_zero, Nat.min_self]

theorem getElem?_toList (s : SubBlocks) (k : Nat) : s.toList[k]? = s.get? k := by
  rw [toList, getElem?_slice, Nat.zero_add]
  split
  case isTrue => rfl
  case isFalse h => exact (get?_of_le (Nat.not_lt.mp h)).symm

/-- A slice is what remains of the list when the first `skip` blocks are passed
over and the walk stops after `limit` more. -/
theorem slice_eq_take_drop (s : SubBlocks) (skip limit : Nat) :
    s.slice skip limit = (s.toList.drop skip).take limit := by
  apply List.ext_getElem?
  intro i
  rw [getElem?_slice, List.getElem?_take, List.getElem?_drop, getElem?_toList]

/-- An entry of the list, by its number. -/
theorem isNth_of_getElem? (h : s.toList[k]? = some b) : k < s.count ∧ s.IsNth k b := by
  have hnth := s.isStretch_toList k b h
  rwa [Nat.zero_add] at hnth

/-- An address of the parent is in the sub-block that its distance from the
base, counted in steps, is the number of. -/
theorem exists_get?_of_mem (h : a ∈ s.parent) : ∃ k b, s.get? k = some b ∧ a ∈ b := by
  obtain ⟨hfamily, hle, hlt⟩ := h
  have hdist : a.bits - s.parent.base < s.count * s.step := by
    rw [s.count_mul_step]
    omega
  have hk : (a.bits - s.parent.base) / s.step < s.count :=
    (Nat.div_lt_iff_lt_mul s.step_pos).mpr hdist
  obtain ⟨b, hb, hnth⟩ := get?_of_lt hk
  refine ⟨_, b, hb, hnth.mem_iff.mpr ⟨hfamily, ?_, ?_⟩⟩
  · have hbegin := Nat.div_mul_le_self (a.bits - s.parent.base) s.step
    omega
  · have hend := Nat.lt_div_mul_add (a := a.bits - s.parent.base) s.step_pos
    rw [Nat.add_mul, Nat.one_mul]
    omega

/-- The list has just the blocks of the length that lie in the parent. -/
theorem mem_toList_iff : b ∈ s.toList ↔ b.len = s.len ∧ s.parent.contains b = true := by
  rw [contains_iff_within]
  constructor
  · intro hb
    obtain ⟨k, -, hk, hnth⟩ := s.isStretch_toList.exists_isNth hb
    exact ⟨hnth.len, hnth.within hk⟩
  · rintro ⟨hlen, hwithin⟩
    -- the sub-block that has the base of `b` can be no other than `b`
    obtain ⟨k, d, hd, hmem⟩ := exists_get?_of_mem (hwithin _ b.network_mem)
    rw [← getElem?_toList] at hd
    have hnth := (isNth_of_getElem? hd).2
    obtain rfl : b = d := eq_of_mem (hlen.trans hnth.len.symm) b.network_mem hmem
    exact List.mem_of_getElem? hd

theorem enumerates_toList (s : SubBlocks) : Enumerates s.parent s.len s.toList :=
  ⟨fun _ => mem_toList_iff, s.isStretch_toList.ascending⟩

/-- The last sub-block ends where the parent ends. -/
theorem IsNth.last_eq (h : s.IsNth k b) (hk : k + 1 = s.count) : b.last = s.parent.last := by
  have hsize := s.count_mul_step
  rw [← hk, Nat.add_mul, Nat.one_mul] at hsize
  have hpos := s.step_pos
  simp only [Cidr.last, h.base, h.size_eq]
  omega

/-- The sub-blocks of a length tile their parent. -/
theorem tiling_toList (s : SubBlocks) : Tiling s.parent s.len s.toList := by
  have hpos : 0 < s.count := Nat.two_pow_pos _
  refine
    { length_eq := s.length_toList
      placed := ?placed
      ascending := s.isStretch_toList.ascending
      first := ?first
      last := ?last
      covered := ?covered
      confined := ?confined }
  case placed =>
    intro k b hb
    obtain ⟨-, hb⟩ := isNth_of_getElem? hb
    exact ⟨hb.family, hb.len, hb.base⟩
  case first =>
    obtain ⟨b, hb, hnth⟩ := get?_of_lt hpos
    rw [List.head?_eq_getElem?, getElem?_toList, hb]
    have hbase := hnth.base
    rw [Nat.zero_mul, Nat.add_zero] at hbase
    simp only [Option.map_some, network, hnth.family, hbase]
  case last =>
    obtain ⟨b, hb, hnth⟩ := get?_of_lt (Nat.sub_one_lt_of_lt hpos)
    rw [List.getLast?_eq_getElem?, length_toList, getElem?_toList, hb, Option.map_some,
      hnth.last_eq (Nat.sub_add_cancel hpos)]
  case covered =>
    intro a ha
    obtain ⟨k, b, hb, hmem⟩ := exists_get?_of_mem ha
    rw [← getElem?_toList] at hb
    have hapart : s.toList.Pairwise fun b d => a ∈ b → a ∉ d :=
      s.isStretch_toList.apart.imp fun h => h a
    exact existsUnique_getElem? hapart ⟨b, List.mem_of_getElem? hb, hmem⟩
  case confined =>
    intro a ha b hb hmem
    obtain ⟨k, -, hk, hnth⟩ := s.isStretch_toList.exists_isNth hb
    exact ha (hnth.within hk a hmem)

end SubBlocks

-- =========================================================== enumerations

variable {parent : Cidr} {len count : Nat} {blocks : List Cidr}

/-- There is one enumeration at most: an ascending list is determined by its
members. -/
theorem Enumerates.eq {blocks' : List Cidr} (h : Enumerates parent len blocks)
    (h' : Enumerates parent len blocks') : blocks = blocks' := by
  have hirrefl : Std.Irrefl fun b d : Cidr => b.base < d.base := ⟨fun _ => Nat.lt_irrefl _⟩
  have hantisymm : Std.Antisymm fun b d : Cidr => b.base < d.base :=
    ⟨fun _ _ hlt hgt => absurd hgt (Nat.lt_asymm hlt)⟩
  exact h.ascending.eq_of_mem_iff h'.ascending fun b => (h.mem_iff b).trans (h'.mem_iff b).symm

/-- Nothing else enumerates the sub-blocks of a length. -/
theorem enumerates_iff (s : SubBlocks) :
    Enumerates s.parent s.len blocks ↔ blocks = s.toList := by
  constructor
  · intro h
    exact h.eq s.enumerates_toList
  · rintro rfl
    exact s.enumerates_toList

-- ================================================================ carving

/-- The sub-blocks of the length that carving chooses are the one that is kept
back, those that are handed out, and the rest. -/
theorem toList_of_partition (h : parent.partition count = .ok blocks) (hcount : count ≠ 0) :
    ∃ s first rest, parent.subBlocks (parent.len + bitLength count) = .ok s
      ∧ s.toList = first :: (blocks ++ rest) := by
  obtain ⟨s, hparent, hlen, hroom, hslice⟩ := partition_eq_slice h hcount
  rw [s.slice_eq_take_drop] at hslice
  cases hlist : s.toList with
  | nil =>
      have hlength := s.length_toList
      rw [hlist, List.length_nil] at hlength
      omega
  | cons first others =>
      rw [hlist, List.drop_one, List.tail_cons] at hslice
      refine ⟨s, first, others.drop count, subBlocks_eq_ok_iff.mpr ⟨hparent, hlen⟩, ?_⟩
      rw [hslice, List.take_append_drop, hlist]

/-- The sub-blocks of a length tile the block. There are such sub-blocks for the
lengths from the block's own to that of an address. They make one list, of which
every slice is a piece: the only list that has the blocks of that length inside
the block in address order. They are as many as the added bits can tell apart,
they reach from the first address of the block to the last, and every address of
the block, but no other, is in one of them. Where carving for at least one taker
succeeds, the sub-blocks of its length are the one at the base of the block,
those of the takers in their order, and those that nobody gets. -/
theorem subBlocks_tile (parent : Cidr) (len : Nat) :
    ((∃ s, parent.subBlocks len = .ok s) ↔ parent.len ≤ len ∧ len ≤ parent.width)
      ∧ (∀ s, parent.subBlocks len = .ok s →
          (∀ skip limit, s.slice skip limit = (s.toList.drop skip).take limit)
            ∧ (∀ blocks, Enumerates parent len blocks ↔ blocks = s.toList)
            ∧ Tiling parent len s.toList)
      ∧ ∀ count blocks, count ≠ 0 → parent.partition count = .ok blocks →
          ∃ s first rest, parent.subBlocks (parent.len + bitLength count) = .ok s
            ∧ s.toList = first :: (blocks ++ rest)
            ∧ first.network = parent.network ∧ blocks.length = count := by
  refine ⟨exists_subBlocks_iff, ?sub, ?carved⟩
  case sub =>
    intro s hs
    obtain ⟨rfl, rfl⟩ := subBlocks_eq_ok_iff.mp hs
    exact ⟨s.slice_eq_take_drop, fun _ => enumerates_iff s, s.tiling_toList⟩
  case carved =>
    intro count blocks hcount hblocks
    obtain ⟨s, first, rest, hs, hlist⟩ := toList_of_partition hblocks hcount
    refine ⟨s, first, rest, hs, hlist, ?_, (carved_of_partition hblocks hcount).length_eq⟩
    obtain ⟨rfl, -⟩ := subBlocks_eq_ok_iff.mp hs
    have hfirst := s.tiling_toList.first
    rw [hlist] at hfirst
    exact Option.some.inj hfirst

/-- The last four addresses are a block each; when two takers are served, the
first of the four is kept back and one is left over. -/
theorem subBlocks_tile_lastAddresses :
    (∃ s, lastAddresses.subBlocks 128 = .ok s ∧ Tiling lastAddresses 128 s.toList)
      ∧ ∃ blocks s first rest, lastAddresses.partition 2 = .ok blocks
          ∧ lastAddresses.subBlocks 128 = .ok s
          ∧ s.toList = first :: (blocks ++ rest) ∧ rest.length = 1 := by
  obtain ⟨hexists, htiling, hcarved⟩ := subBlocks_tile lastAddresses 128
  refine ⟨?_, ?_⟩
  · obtain ⟨s, hs⟩ := hexists.mpr (by decide)
    exact ⟨s, hs, (htiling s hs).2.2⟩
  · have hblocks : ∃ blocks, lastAddresses.partition 2 = .ok blocks := ⟨_, rfl⟩
    obtain ⟨blocks, hblocks⟩ := hblocks
    obtain ⟨s, first, rest, hs, hlist, -, hlength⟩ := hcarved 2 blocks (by decide) hblocks
    have hcount := (htiling s hs).2.2.length_eq
    refine ⟨blocks, s, first, rest, hblocks, hs, hlist, ?_⟩
    rw [hlist, List.length_cons, List.length_append, hlength] at hcount
    have hfour : 2 ^ (128 - lastAddresses.len) = 4 := by decide
    omega

end NetworkSlice.Cidr
