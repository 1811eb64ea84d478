import NetworkSlice.Proofs.Address.Text
import NetworkSlice.Proofs.Text.Blank

/-
Blocks that are written and read again.

The text of an address and a length is read as the block of that length around
the address (`read?_chars`): the address is read as itself by the reader of its
family and by no other, and the length is a numeral at the end. A block is the
one around its own first address (`around?_network`), so it is read back from
its text, and blanks around a text are taken off before it is read
(`parse_eq_ok_iff`).
-/
namespace NetworkSlice

namespace Cidr

variable {len : Nat} {a : Addr} {c : Cidr} {before after : String}

/-- An address of a family that is read makes a block with the length that is
written after it. -/
theorem readBlock_of_address (most : Nat) {address : List Char → Option (Nat × List Char)}
    {cs : List Char} (haddress : address cs = some (a.bits, '/' :: decimal len)) (hmost : 0 < most)
    (hwidth : a.family.width + 1 ≤ 10 ^ most) :
    readBlock a.family most address cs = (around? a len).map fun block => (block, []) := by
  have haddr : Addr.ofBits? a.family a.bits = some a := dif_pos a.bits_lt
  have hnumber := readNumber_toDigits (n := len) (by omega) (by omega) hmost hwidth stops_nil
  rw [List.append_nil] at hnumber
  unfold readBlock
  rw [haddress]
  by_cases h : len ≤ a.family.width
  · rw [if_pos (by omega)] at hnumber
    simp only [readChar, if_pos, bind, Option.bind, pure, decimal, hnumber, haddr]
    unfold around?
    rw [dif_pos h]
    rfl
  · rw [if_neg (by omega)] at hnumber
    simp only [readChar, if_pos, bind, Option.bind, decimal, hnumber]
    unfold around?
    rw [dif_neg h]
    rfl

/-- The text of an address and a length is read as the block of that length
around the address, and not read if there is none. -/
theorem read?_chars (a : Addr) (len : Nat) :
    Cidr.read? (a.chars ++ '/' :: decimal len) = around? a len := by
  unfold Cidr.read? Addr.chars
  cases hfamily : a.family with
  | v4 =>
      have hbits : a.bits % UInt32.size = a.bits := by
        have hlt := a.bits_lt
        rw [hfamily] at hlt
        exact Nat.mod_eq_of_lt hlt
      have haddress := readDotted_dottedText a.bits (stops_stroke (decimal len))
      rw [hbits] at haddress
      have hblock := readBlock_of_address 2 haddress (by omega) (by rw [hfamily]; decide)
      have hother : readBlock .v6 3 (readColon .block) (dottedText a.bits ++ '/' :: decimal len)
          = none := by
        unfold readBlock
        rw [readColon_dottedText]
        rfl
      rw [hfamily] at hblock
      dsimp only
      rw [hblock, hother]
      cases around? a len with
      | none => rfl
      | some block => rfl
  | v6 =>
      have hlt : a.bits < 2 ^ Family.v6.width := hfamily ▸ a.bits_lt
      have hblock := readBlock_of_address 3 (readColon_colonText hlt (decimal len)) (by omega)
        (by rw [hfamily]; decide)
      have hother : readBlock .v4 2 (readDotted .block) (colonText a.bits ++ '/' :: decimal len)
          = none := by
        unfold readBlock
        rw [readDotted_colonText]
        rfl
      rw [hfamily] at hblock
      dsimp only
      rw [hblock, hother]
      cases around? a len with
      | none => rfl
      | some block => rfl

-- ============================================================ the block

/-- There is a block around an address up to the width of the family. -/
theorem around?_eq_some_iff :
    around? a len = some c ↔ ∃ h : len ≤ a.family.width, c = around a len h := by
  unfold around?
  split
  · next h =>
      constructor
      · intro hc; exact ⟨h, (Option.some.inj hc).symm⟩
      · rintro ⟨_, rfl⟩; rfl
  · next h =>
      constructor
      · intro hc; cases hc
      · rintro ⟨h', -⟩; exact absurd h' h

/-- And it is made of the two where there is one. -/
theorem ofParts_eq_ok_iff : ofParts a len = .ok c ↔ around? a len = some c := by
  unfold ofParts
  split
  · next block h => rw [h]; simp
  · next h => rw [h]; simp

/-- The base of a block around an address has the address's bits, as far as
they belong to the block, and no others. -/
theorem testBit_base_around (h : len ≤ a.family.width) (i : Nat) :
    (around a len h).base.testBit i
      = (decide (a.family.width - len ≤ i) && a.bits.testBit i) := by
  have hbase : (around a len h).base
      = a.bits / 2 ^ (a.family.width - len) * 2 ^ (a.family.width - len) := by
    have hsplit := Nat.div_add_mod' a.bits (2 ^ (a.family.width - len))
    show a.bits - a.bits % 2 ^ (a.family.width - len) = _
    omega
  rw [hbase, Nat.testBit_mul_two_pow, Nat.testBit_div_two_pow]
  by_cases hi : a.family.width - len ≤ i
  · simp [hi]
  · simp [hi]

theorem around?_network (c : Cidr) : around? c.network c.len = some c := by
  rw [around?_eq_some_iff]
  refine ⟨c.len_le, ?_⟩
  obtain ⟨family, base, len, hlen, hbase, haligned⟩ := c
  simp [around, network, haligned]

-- ============================================================== the text

theorem toList_text (a : Addr) (len : Nat) :
    (a.text ++ "/" ++ toString len).toList = a.chars ++ '/' :: decimal len := by
  simp [Addr.text, decimal]

/-- The text of a block is that of its first address and its length. -/
theorem text_eq (c : Cidr) : c.text = c.network.text ++ "/" ++ toString c.len := by
  rw [← String.ofList_toList (s := c.network.text ++ "/" ++ toString c.len), toList_text]
  rfl

/-- The text of an address and a length, with blanks around it, is read as the
block of that length around the address, if there is one. -/
theorem parse_eq_ok_iff (hbefore : Text.isBlankText before = true)
    (hafter : Text.isBlankText after = true) :
    parse (before ++ (a.text ++ "/" ++ toString len) ++ after) = .ok c
      ↔ around? a len = some c := by
  have hvisible : ∀ x ∈ (a.text ++ "/" ++ toString len).toList, Text.isBlank x = false := by
    intro x hx
    rw [toList_text] at hx
    rcases List.mem_append.mp hx with hx | hx
    · exact (Addr.addressChar_of_mem_chars hx).isBlank
    · rcases List.mem_cons.mp hx with rfl | hx
      · decide
      · exact (addressChar_of_mem_decimal hx).isBlank
  unfold parse
  rw [Text.trim_pad hbefore hafter hvisible]
  dsimp only
  rw [toList_text, read?_chars]
  split
  · next block h => rw [h]; simp
  · next h => rw [h]; simp

/-- So a block is parsed from its text. -/
theorem parse_text (c : Cidr) : parse c.text = .ok c := by
  have hblank : Text.isBlankText "" = true := rfl
  have hread := (parse_eq_ok_iff hblank hblank).mpr (around?_network c)
  rw [String.append_empty, String.empty_append, ← text_eq] at hread
  exact hread

/-- And no two blocks have one text. -/
theorem text_injective {c d : Cidr} (h : c.text = d.text) : c = d := by
  have hread := parse_text c
  rw [h, parse_text d] at hread
  exact (Except.ok.inj hread).symm

/-- Blocks and their texts. An address and a length make a block unless the
length is beyond the address's width, their text is read exactly then and as
the same block, whatever blanks stand around it, and the block is the address
with the bits after the length cleared. So every block is read back from its
own text, and no two blocks have one text. -/
theorem text_faithful :
    (∀ (a : Addr) (len : Nat),
        ((∃ c, ofParts a len = .ok c) ↔ len ≤ a.family.width)
        ∧ (∀ before after : String,
            Text.isBlankText before = true → Text.isBlankText after = true → ∀ c,
              parse (before ++ (a.text ++ "/" ++ toString len) ++ after) = .ok c
                ↔ ofParts a len = .ok c)
        ∧ ∀ c, ofParts a len = .ok c →
            c.family = a.family ∧ c.len = len
              ∧ ∀ i, c.base.testBit i = (decide (c.width - len ≤ i) && a.bits.testBit i))
      ∧ (∀ c, parse c.text = .ok c)
      ∧ ∀ c d : Cidr, c.text = d.text → c = d := by
  refine ⟨fun a len => ⟨?_, ?_, ?_⟩, parse_text, fun c d => text_injective⟩
  · constructor
    · rintro ⟨c, hc⟩
      obtain ⟨h, -⟩ := around?_eq_some_iff.mp (ofParts_eq_ok_iff.mp hc)
      exact h
    · intro h
      exact ⟨around a len h, ofParts_eq_ok_iff.mpr (around?_eq_some_iff.mpr ⟨h, rfl⟩)⟩
  · intro before after hbefore hafter c
    rw [parse_eq_ok_iff hbefore hafter, ofParts_eq_ok_iff]
  · intro c hc
    obtain ⟨h, rfl⟩ := around?_eq_some_iff.mp (ofParts_eq_ok_iff.mp hc)
    exact ⟨rfl, rfl, testBit_base_around h⟩

/-- An address with two runs of zeros of one length. -/
def gappedAddr : Addr := ⟨.v6, 0x20010db8000000000001000000000001, by decide⟩

/-- Its text leaves out the first of them, and is read between blanks. -/
theorem text_faithful_gappedAddr :
    Text.isBlankText "\u3000 " = true ∧ Text.isBlankText "\t" = true
      ∧ gappedAddr.text = "2001:db8::1:0:0:1"
      ∧ ∃ c, parse "\u3000 2001:db8::1:0:0:1/48\t" = .ok c ∧ ofParts gappedAddr 48 = .ok c
        ∧ c.len = 48 ∧ c.text = "2001:db8::/48" := by
  have htext : gappedAddr.text = "2001:db8::1:0:0:1" := by decide +kernel
  obtain ⟨hmade, hread, hblock⟩ := text_faithful.1 gappedAddr 48
  obtain ⟨c, hc⟩ := hmade.mpr (by decide)
  have hparse := (hread "\u3000 " "\t" (by decide) (by decide) c).mpr hc
  have hmasked : ((ofParts gappedAddr 48).map text).toOption = some "2001:db8::/48" := by
    decide +kernel
  rw [hc] at hmasked
  rw [htext] at hparse
  exact ⟨by decide, by decide, htext, c, hparse, hc, (hblock c hc).2.1, Option.some.inj hmasked⟩

end Cidr

end NetworkSlice
