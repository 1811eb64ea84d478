import NetworkSlice.Error
import NetworkSlice.Power

/-
Addresses and address blocks.

An address is a family and a number below 2 to the family's width. A block is
given by its length and its first address, and that address has no bit set
beyond the length: this is part of the type, so every block in the library is
aligned. Membership of an address in a block is the reading of a block that
the operations answer to; `contains` and `overlaps` themselves compare only
the ends.
-/
namespace NetworkSlice

-- ================================================== addresses

/-- The two address families. -/
inductive Family where
  | v4
  | v6
deriving DecidableEq, Repr, Inhabited

/-- How many bits an address of the family has. -/
def Family.width : Family → Nat
  | .v4 => 32
  | .v6 => 128

/-- An address, as the number its bits spell. -/
structure Addr where
  family : Family
  bits : Nat
  bits_lt : bits < 2 ^ family.width
deriving DecidableEq, Repr

-- ===================================================== blocks

/-- A block: all addresses of a family that begin with the same `len` bits. -/
structure Cidr where
  family : Family
  /-- The first address. -/
  base : Nat
  /-- The number of leading bits the addresses share. -/
  len : Nat
  len_le : len ≤ family.width
  base_lt : base < 2 ^ family.width
  aligned : base % 2 ^ (family.width - len) = 0
deriving DecidableEq, Repr

namespace Cidr

/-- The width of the block's family. -/
def width (c : Cidr) : Nat := c.family.width

/-- How many addresses the block has. -/
def size (c : Cidr) : Nat := 2 ^ (c.width - c.len)

/-- The last address of the block, as a number. -/
def last (c : Cidr) : Nat := c.base + (c.size - 1)

/-- The first address of the block. -/
def network (c : Cidr) : Addr := ⟨c.family, c.base, c.base_lt⟩

/-- Whether the block is of the 32-bit family. -/
def isV4 (c : Cidr) : Bool := c.family = .v4

/-- An address is in a block when it lies between the block's ends. -/
instance : Membership Addr Cidr where
  mem c a := a.family = c.family ∧ c.base ≤ a.bits ∧ a.bits < c.base + c.size

instance (a : Addr) (c : Cidr) : Decidable (a ∈ c) :=
  inferInstanceAs (Decidable (_ ∧ _ ∧ _))

/-- The block of length `len` around `a`: the later bits of `a` are cleared. -/
def around (a : Addr) (len : Nat) (h : len ≤ a.family.width) : Cidr where
  family := a.family
  base := a.bits - a.bits % 2 ^ (a.family.width - len)
  len := len
  len_le := h
  base_lt := Nat.lt_of_le_of_lt (Nat.sub_le ..) a.bits_lt
  aligned := Nat.mod_eq_zero_of_dvd (Nat.dvd_sub_mod a.bits)

/-- Whether `d` lies entirely in `c`. -/
def contains (c d : Cidr) : Bool :=
  c.family = d.family && decide (c.base ≤ d.base) && decide (d.last ≤ c.last)

/-- Whether the two blocks share an address: of two aligned blocks that do,
one contains the other. -/
def overlaps (c d : Cidr) : Bool :=
  c.contains d || d.contains c

-- ================================================= sub-blocks

/-- The sub-blocks of one length, in address order. They are counted and
numbered, never listed whole: a wide block has more of them than any memory. -/
structure SubBlocks where
  parent : Cidr
  len : Nat
  parent_le : parent.len ≤ len
  len_le : len ≤ parent.width

namespace SubBlocks

/-- How many there are. -/
def count (s : SubBlocks) : Nat := 2 ^ (s.len - s.parent.len)

/-- How many addresses each has. -/
def step (s : SubBlocks) : Nat := 2 ^ (s.parent.width - s.len)

/-- Sub-blocks are as many as fit into their parent. -/
theorem count_mul_step (s : SubBlocks) : s.count * s.step = s.parent.size := by
  unfold count step size
  rw [← Nat.pow_add]
  congr 1
  have := s.parent_le
  have := s.len_le
  omega

/-- An aligned block ends inside its address family. -/
theorem base_add_size_le (c : Cidr) : c.base + c.size ≤ 2 ^ c.width := by
  have hdvd : c.size ∣ c.base := Nat.dvd_of_mod_eq_zero c.aligned
  have hpow : c.size ∣ 2 ^ c.width := by
    unfold size
    exact Nat.pow_dvd_pow 2 (Nat.sub_le ..)
  obtain ⟨m, hm⟩ := hdvd
  obtain ⟨n, hn⟩ := hpow
  have hlt : c.size * m < c.size * n := by
    rw [← hm, ← hn]
    exact c.base_lt
  have hmn : m < n := Nat.lt_of_mul_lt_mul_left hlt
  rw [hm, hn]
  calc c.size * m + c.size = c.size * (m + 1) := by rw [Nat.mul_add, Nat.mul_one]
    _ ≤ c.size * n := Nat.mul_le_mul_left _ hmn

/-- The `k`-th sub-block, counted from 0. -/
def get? (s : SubBlocks) (k : Nat) : Option Cidr :=
  if h : k < s.count then
    some {
      family := s.parent.family
      base := s.parent.base + k * s.step
      len := s.len
      len_le := s.len_le
      base_lt := by
        have h1 : k * s.step < s.parent.size := by
          rw [← s.count_mul_step]
          exact Nat.mul_lt_mul_of_pos_right h (Nat.two_pow_pos _)
        have h2 := base_add_size_le s.parent
        unfold width at h2
        omega
      aligned := by
        refine Nat.mod_eq_zero_of_dvd (Nat.dvd_add ?_ (Nat.dvd_mul_left ..))
        have hsize : s.step ∣ s.parent.size := ⟨s.count, by rw [Nat.mul_comm, s.count_mul_step]⟩
        exact Nat.dvd_trans hsize (Nat.dvd_of_mod_eq_zero s.parent.aligned) }
  else none

/-- At most `limit` sub-blocks after the first `skip`. -/
def slice (s : SubBlocks) (skip limit : Nat) : List Cidr :=
  (List.range (min limit (s.count - skip))).filterMap fun i => s.get? (skip + i)

end SubBlocks

/-- The sub-blocks of length `len`, which must be neither shorter than the
block's own nor longer than an address. -/
def subBlocks (c : Cidr) (len : Nat) : Except SliceError SubBlocks :=
  if h : c.len ≤ len ∧ len ≤ c.width then .ok ⟨c, len, h.1, h.2⟩
  else .error (.addressSpaceExhausted len c.width)

end Cidr

end NetworkSlice
