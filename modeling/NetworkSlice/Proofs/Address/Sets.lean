import NetworkSlice.Proofs.Address.BlockText
import NetworkSlice.Proofs.Address.SubBlocks
import NetworkSlice.Wire.Format

/-
Blocks as sets of addresses.

A block begins at a multiple of its size. So the addresses between its ends
are those that division by the size takes to one number (`mem_iff_div`), which
is to say those that agree in the bits the block fixes (`mem_iff_testBit`).

Comparing blocks is comparing these sets. The ends of a block are among its
addresses, so a block lies in another when its ends do (`contains_iff_within`),
and the set determines the block (`eq_of_same_addresses`). That two blocks
with a common address are nested is one division after another: the bits that
the wider block fixes are among those that the narrower one fixes
(`within_of_mem`). With lengths of one family always in some order, `overlaps`
needs to look at nothing but containment (`overlaps_iff`).
-/
namespace NetworkSlice.Cidr

variable {c d : Cidr} {a : Addr}

-- ============================================================== the bits

theorem size_pos (c : Cidr) : 0 < c.size := Nat.two_pow_pos _

/-- A block begins at a multiple of its size. -/
theorem base_div_mul_size (c : Cidr) : c.base / c.size * c.size = c.base :=
  Nat.div_mul_cancel (Nat.dvd_of_mod_eq_zero c.aligned)

/-- The addresses of a block are all in the place of its base among the
stretches of the block's size. -/
theorem mem_iff_div : a ∈ c ↔ a.family = c.family ∧ a.bits / c.size = c.base / c.size := by
  have hpos := c.size_pos
  rw [mem_iff, Nat.div_eq_iff hpos, c.base_div_mul_size]
  constructor
  · rintro ⟨hfamily, hle, hlt⟩
    exact ⟨hfamily, hle, by omega⟩
  · rintro ⟨hfamily, hle, hlast⟩
    exact ⟨hfamily, hle, by omega⟩

/-- They have the leading bits of the base in common. -/
theorem mem_iff_testBit :
    a ∈ c ↔ a.family = c.family
      ∧ ∀ i, c.width - c.len ≤ i → a.bits.testBit i = c.base.testBit i := by
  rw [mem_iff_div]
  apply and_congr_right
  intro _
  unfold size
  constructor
  · intro h i hi
    have hbit := congrArg (fun n => n.testBit (i - (c.width - c.len))) h
    simpa only [Nat.testBit_div_two_pow, Nat.sub_add_cancel hi] using hbit
  · intro h
    apply Nat.eq_of_testBit_eq
    intro i
    rw [Nat.testBit_div_two_pow, Nat.testBit_div_two_pow]
    exact h _ (Nat.le_add_left ..)

/-- And the base has no others. -/
theorem testBit_base_of_lt (c : Cidr) {i : Nat} (h : i < c.width - c.len) :
    c.base.testBit i = false := by
  rw [← c.base_div_mul_size]
  unfold size
  rw [Nat.testBit_mul_two_pow, decide_eq_false (by omega), Bool.false_and]

-- ============================================================== the ends

theorem network_mem (c : Cidr) : c.network ∈ c :=
  ⟨rfl, Nat.le_refl _, Nat.lt_add_of_pos_right c.size_pos⟩

theorem exists_last_mem (c : Cidr) : ∃ a ∈ c, a.bits = c.last := by
  have hpos := c.size_pos
  have hend : c.base + c.size ≤ 2 ^ c.family.width := SubBlocks.base_add_size_le c
  refine ⟨⟨c.family, c.last, ?_⟩, ⟨rfl, ?_, ?_⟩, rfl⟩
  all_goals
    simp only [last]
    omega

/-- A block contains another when it begins no later and ends no earlier. -/
theorem contains_eq_true_iff :
    c.contains d = true ↔ c.family = d.family ∧ c.base ≤ d.base ∧ d.last ≤ c.last := by
  simp [contains, and_assoc]

/-- A block is contained in another when all its addresses are in the other. -/
theorem contains_iff_within : c.contains d = true ↔ d.Within c := by
  rw [contains_eq_true_iff]
  constructor
  · rintro ⟨hfamily, hbase, hlast⟩ a ⟨ha, hle, hlt⟩
    have hc := c.size_pos
    simp only [last] at hlast
    exact ⟨ha.trans hfamily.symm, by omega, by omega⟩
  · intro h
    obtain ⟨a, ha, hlast⟩ := d.exists_last_mem
    have hbase := h _ d.network_mem
    have hlt := (h a ha).2.2
    refine ⟨hbase.1.symm, hbase.2.1, ?_⟩
    rw [← hlast]
    simp only [last]
    omega

/-- A block that lies in another is of the same family. -/
theorem Within.family_eq (h : d.Within c) : c.family = d.family :=
  (h _ d.network_mem).1.symm

/-- Blocks with the same addresses begin and end at the same addresses, so they
are of one length. -/
theorem eq_of_same_addresses (h : ∀ a, a ∈ c ↔ a ∈ d) : c = d := by
  have hcd : c.contains d = true := contains_iff_within.mpr fun a => (h a).mpr
  have hdc : d.contains c = true := contains_iff_within.mpr fun a => (h a).mp
  rw [contains_eq_true_iff] at hcd hdc
  obtain ⟨hfamily, hbase, hlast⟩ := hcd
  obtain ⟨-, hbase', hlast'⟩ := hdc
  simp only [last] at hlast hlast'
  have hc := c.size_pos
  have hd := d.size_pos
  have hsize : c.size = d.size := by omega
  have hlen : c.len = d.len := by
    simp only [size, width, ← hfamily] at hsize
    have hhost := (Nat.pow_right_inj Nat.one_lt_two).mp hsize
    have hcle := c.len_le
    have hdle := d.len_le
    rw [← hfamily] at hdle
    omega
  exact (mk.injEq ..).mpr ⟨hfamily, Nat.le_antisymm hbase hbase', hlen⟩

-- ======================================================= nested or disjoint

/-- The size of a wider block of the family is a multiple of that of a
narrower one. -/
theorem size_eq_mul (hfamily : c.family = d.family) (hlen : c.len ≤ d.len) :
    c.size = d.size * 2 ^ (d.len - c.len) := by
  have hdle := d.len_le
  simp only [size, width, hfamily]
  rw [← Nat.pow_add]
  congr 1
  omega

/-- Of two blocks with a common address the narrower lies in the wider. -/
theorem within_of_mem (hlen : c.len ≤ d.len) (hc : a ∈ c) (hd : a ∈ d) : d.Within c := by
  intro b hb
  rw [mem_iff_div] at hc hd hb ⊢
  have hfamily : c.family = d.family := hc.1.symm.trans hd.1
  have hsize := size_eq_mul hfamily hlen
  refine ⟨hb.1.trans hfamily.symm, ?_⟩
  calc b.bits / c.size
      = b.bits / d.size / 2 ^ (d.len - c.len) := by rw [hsize, Nat.div_div_eq_div_mul]
    _ = a.bits / d.size / 2 ^ (d.len - c.len) := by rw [hb.2, hd.2]
    _ = a.bits / c.size := by rw [hsize, Nat.div_div_eq_div_mul]
    _ = c.base / c.size := hc.2

/-- Two blocks of one length with a common address are one block. -/
theorem eq_of_mem (hlen : c.len = d.len) (hc : a ∈ c) (hd : a ∈ d) : c = d :=
  eq_of_same_addresses fun b =>
    ⟨within_of_mem (Nat.le_of_eq hlen.symm) hd hc b, within_of_mem (Nat.le_of_eq hlen) hc hd b⟩

/-- Blocks overlap when they have a common address. -/
theorem overlaps_iff : c.overlaps d = true ↔ ∃ a, a ∈ c ∧ a ∈ d := by
  unfold overlaps
  rw [Bool.or_eq_true, contains_iff_within, contains_iff_within]
  constructor
  · rintro (h | h)
    · exact ⟨d.network, h _ d.network_mem, d.network_mem⟩
    · exact ⟨c.network, c.network_mem, h _ c.network_mem⟩
  · rintro ⟨a, hc, hd⟩
    rcases Nat.le_total c.len d.len with hlen | hlen
    · exact Or.inl (within_of_mem hlen hc hd)
    · exact Or.inr (within_of_mem hlen hd hc)

-- ================================================================= making

/-- The ways to come by a block: it is read from a text or a document, made of
an address and a length, or carved from one that is there. -/
inductive Made : Cidr → Prop
  | parsed {text : String} {c : Cidr} (h : parse text = .ok c) : Made c
  | decoded {src : Wire.Source} {doc : Doc} {c : Cidr}
      (h : Wire.Format.cidr.decode src doc = .ok c) : Made c
  | ofParts {a : Addr} {len : Nat} {c : Cidr} (h : Cidr.ofParts a len = .ok c) : Made c
  | subBlock {c b : Cidr} {len k : Nat} {s : SubBlocks} (hc : Made c)
      (hs : c.subBlocks len = .ok s) (hb : s.get? k = some b) : Made b
  | carved {c b : Cidr} {count : Nat} {blocks : List Cidr} (hc : Made c)
      (hblocks : c.partition count = .ok blocks) (hb : b ∈ blocks) : Made b
  | assigned {c b : Cidr} {count i : Nat} {assignment : Assignment} (hc : Made c)
      (hassignment : Assignment.compute c count = .ok assignment)
      (hb : assignment.get? i = some b) : Made b

/-- A length within the family and a number within the length make a block. -/
theorem exists_made_of_clear {family : Family} {base len : Nat} (hlen : len ≤ family.width)
    (hbase : base < 2 ^ family.width)
    (hclear : ∀ i, i < family.width - len → base.testBit i = false) :
    ∃ c, Made c ∧ c.family = family ∧ c.base = base ∧ c.len = len := by
  let a : Addr := ⟨family, base, hbase⟩
  have hmod : base % 2 ^ (family.width - len) = 0 := by
    apply Nat.eq_of_testBit_eq
    intro i
    rw [Nat.testBit_mod_two_pow, Nat.zero_testBit]
    by_cases hi : i < family.width - len
    · rw [hclear i hi, Bool.and_false]
    · rw [decide_eq_false hi, Bool.false_and]
  have hmade : Cidr.ofParts a len = .ok (around a len hlen) :=
    ofParts_eq_ok_iff.mpr (around?_eq_some_iff.mpr ⟨hlen, rfl⟩)
  refine ⟨around a len hlen, .ofParts hmade, rfl, ?_, rfl⟩
  show base - base % 2 ^ (family.width - len) = base
  rw [hmod, Nat.sub_zero]

/-- Blocks stand for the aligned sets of addresses. However a block is made, its
length is within its family's width and no bit of its base is set beyond the
length, and every such base and length is that of a block. An address is in the
block when it has the bits of the base up to the length. Of any two blocks one
contains the other when it has all the other's addresses, they overlap when they
have a common address, and they are equal when they have the same addresses;
blocks of different families do none of this. -/
theorem set_faithful :
    (∀ family base len,
        (∃ c, Made c ∧ c.family = family ∧ c.base = base ∧ c.len = len)
          ↔ len ≤ family.width ∧ base < 2 ^ family.width
            ∧ ∀ i, i < family.width - len → base.testBit i = false)
      ∧ (∀ (c : Cidr) (a : Addr),
          a ∈ c ↔ a.family = c.family
            ∧ ∀ i, c.width - c.len ≤ i → a.bits.testBit i = c.base.testBit i)
      ∧ ∀ c d : Cidr,
          (c.contains d = true ↔ c.family = d.family ∧ ∀ a, a ∈ d → a ∈ c)
            ∧ (c.overlaps d = true ↔ ∃ a, a ∈ c ∧ a ∈ d)
            ∧ (c = d ↔ c.family = d.family ∧ ∀ a, a ∈ c ↔ a ∈ d)
            ∧ (c.family ≠ d.family → c.contains d = false ∧ c.overlaps d = false) := by
  refine ⟨fun family base len => ⟨?_, ?_⟩, fun c a => mem_iff_testBit, fun c d => ⟨?_, ?_, ?_, ?_⟩⟩
  · -- a block is aligned by its type, whichever way it was made
    rintro ⟨c, -, rfl, rfl, rfl⟩
    exact ⟨c.len_le, c.base_lt, fun i => c.testBit_base_of_lt⟩
  · rintro ⟨hlen, hbase, hclear⟩
    exact exists_made_of_clear hlen hbase hclear
  · rw [contains_iff_within]
    exact ⟨fun h => ⟨h.family_eq, h⟩, And.right⟩
  · exact overlaps_iff
  · constructor
    · rintro rfl
      exact ⟨rfl, fun a => Iff.rfl⟩
    · rintro ⟨-, h⟩
      exact eq_of_same_addresses h
  · intro hfamily
    constructor
    · rw [Bool.eq_false_iff]
      exact fun h => hfamily (contains_iff_within.mp h).family_eq
    · rw [Bool.eq_false_iff]
      intro h
      obtain ⟨a, hc, hd⟩ := overlaps_iff.mp h
      exact hfamily (hc.1.symm.trans hd.1)

end NetworkSlice.Cidr
