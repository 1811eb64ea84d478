import NetworkSlice.Text.Base64

/-
Base64 is read exactly as it is written.

A digit is a number below 64 in one character (`value?_digit`,
`eq_digit_of_value?`), and the four digits of a group are the three bytes of the
group: both spell the same number (`bytes_of_group`, `digits_of_bytes`). Groups
come one after another, and only the last may be short, with padding in the place
of the digits that it lacks. So bytes that are written are read back
(`decode_encode`). The other way round, text that is read is what its bytes are
written as (`decode_eq_some_iff`), because the bits that no byte needs must be
zero.
-/
namespace NetworkSlice.Text.Base64

variable {c : Char} {n p q r s : Nat} {cs : List Char} {bs : List UInt8}

-- =================================================================== digits

/-- A digit has the value it was made of. -/
theorem value?_digit : ∀ n < 64, value? (digit n) = some n := by decide

theorem value?_pad : value? '=' = none := by decide

/-- And what has a value is the digit of it. -/
theorem eq_digit_of_value? (h : value? c = some n) : n < 64 ∧ c = digit n := by
  have hofNat : ∀ m, c.toNat = m → c = Char.ofNat m := fun m hm => by
    rw [← hm, Char.ofNat_toNat]
  unfold value? at h
  split at h
  · next hc =>
      have hlow : 65 ≤ c.toNat := hc.1
      have hhigh : c.toNat ≤ 90 := hc.2
      have hn : c.toNat - 65 = n := Option.some.inj h
      refine ⟨by omega, ?_⟩
      rw [digit, if_pos (by omega)]
      exact hofNat _ (by show c.toNat = 65 + n; omega)
  · split at h
    · next hc =>
        have hlow : 97 ≤ c.toNat := hc.1
        have hhigh : c.toNat ≤ 122 := hc.2
        have hn : c.toNat - 97 + 26 = n := Option.some.inj h
        refine ⟨by omega, ?_⟩
        rw [digit, if_neg (by omega), if_pos (by omega)]
        exact hofNat _ (by show c.toNat = 97 + (n - 26); omega)
    · split at h
      · next hc =>
          have hlow : 48 ≤ c.toNat := hc.1
          have hhigh : c.toNat ≤ 57 := hc.2
          have hn : c.toNat - 48 + 52 = n := Option.some.inj h
          refine ⟨by omega, ?_⟩
          rw [digit, if_neg (by omega), if_neg (by omega), if_pos (by omega)]
          exact hofNat _ (by show c.toNat = 48 + (n - 52); omega)
      · split at h
        · next hc =>
            cases h
            exact ⟨by decide, hc⟩
        · split at h
          · next hc =>
              cases h
              exact ⟨by decide, hc⟩
          · cases h

theorem digit_ne_pad (h : n < 64) : digit n ≠ '=' := by
  intro heq
  have hvalue := value?_digit n h
  rw [heq, value?_pad] at hvalue
  cases hvalue

-- =================================================================== groups

/-- The digits of three bytes are read as those bytes. -/
theorem bytes_of_group (a b c : UInt8) :
    bytes (a.toNat / 4) (a.toNat % 4 * 16 + b.toNat / 16) (b.toNat % 16 * 4 + c.toNat / 64)
      (c.toNat % 64) = (a, b, c) := by
  have hb := b.toNat_lt
  have hc := c.toNat_lt
  have hfirst : a.toNat / 4 * 4 + (a.toNat % 4 * 16 + b.toNat / 16) / 16 = a.toNat := by omega
  have hsecond : (a.toNat % 4 * 16 + b.toNat / 16) % 16 * 16
      + (b.toNat % 16 * 4 + c.toNat / 64) / 4 = b.toNat := by omega
  have hthird : (b.toNat % 16 * 4 + c.toNat / 64) % 4 * 64 + c.toNat % 64 = c.toNat := by omega
  rw [bytes, hfirst, hsecond, hthird, UInt8.ofNat_toNat, UInt8.ofNat_toNat, UInt8.ofNat_toNat]

/-- Four digits are the digits of the bytes that they are read as. -/
theorem digits_of_bytes (hp : p < 64) (hq : q < 64) (hr : r < 64) (hs : s < 64) :
    (bytes p q r s).1.toNat / 4 = p
      ∧ (bytes p q r s).1.toNat % 4 * 16 + (bytes p q r s).2.1.toNat / 16 = q
      ∧ (bytes p q r s).2.1.toNat % 16 * 4 + (bytes p q r s).2.2.toNat / 64 = r
      ∧ (bytes p q r s).2.2.toNat % 64 = s := by
  have hfirst : (bytes p q r s).1.toNat = p * 4 + q / 16 := by
    rw [bytes, UInt8.toNat_ofNat']
    omega
  have hsecond : (bytes p q r s).2.1.toNat = q % 16 * 16 + r / 4 := by
    rw [bytes, UInt8.toNat_ofNat']
    omega
  have hthird : (bytes p q r s).2.2.toNat = r % 4 * 64 + s := by
    rw [bytes, UInt8.toNat_ofNat']
    omega
  rw [hfirst, hsecond, hthird]
  omega

-- =================================================================== reading

/-- A group without padding. -/
theorem decode_group (hp : p < 64) (hq : q < 64) (hr : r < 64) (hs : s < 64) (cs : List Char) :
    decode (digit p :: digit q :: digit r :: digit s :: cs)
      = (decode cs).map fun more =>
        (bytes p q r s).1 :: (bytes p q r s).2.1 :: (bytes p q r s).2.2 :: more := by
  rw [decode]
  simp only [value?_digit p hp, value?_digit q hq, value?_digit r hr, value?_digit s hs,
    if_neg (digit_ne_pad hr), if_neg (digit_ne_pad hs), Option.bind_eq_bind, Option.bind_some]
  cases decode cs <;> rfl

/-- What was written is read back. -/
theorem decode_encode (bs : List UInt8) : decode (encode bs) = some bs := by
  fun_induction encode bs with
  | case1 => rfl
  | case2 a =>
      have ha := a.toNat_lt
      have hq : a.toNat % 4 * 16 % 16 = 0 := by omega
      have hbytes := bytes_of_group a 0 0
      simp only [UInt8.toNat_zero, Nat.zero_div, Nat.zero_mod, Nat.zero_mul, Nat.add_zero] at hbytes
      simp [decode, value?_digit (a.toNat / 4) (by omega),
        value?_digit (a.toNat % 4 * 16) (by omega), hq, hbytes]
  | case3 a b =>
      have ha := a.toNat_lt
      have hb := b.toNat_lt
      have hr : b.toNat % 16 * 4 % 4 = 0 := by omega
      have hbytes := bytes_of_group a b 0
      simp only [UInt8.toNat_zero, Nat.zero_div, Nat.zero_mod, Nat.add_zero] at hbytes
      simp [decode, value?_digit (a.toNat / 4) (by omega),
        value?_digit (a.toNat % 4 * 16 + b.toNat / 16) (by omega),
        value?_digit (b.toNat % 16 * 4) (by omega),
        digit_ne_pad (n := b.toNat % 16 * 4) (by omega), hr, hbytes]
  | case4 a b c rest ih =>
      have ha := a.toNat_lt
      have hb := b.toNat_lt
      have hc := c.toNat_lt
      rw [decode_group (by omega) (by omega) (by omega) (by omega), ih, bytes_of_group]
      rfl

/-- Text that is read is what its bytes are written as. -/
theorem eq_encode_of_decode : ∀ {cs : List Char} {bs : List UInt8},
    decode cs = some bs → cs = encode bs
  | [], bs, h => by
      cases h
      rfl
  | [_], bs, h => nomatch h
  | [_, _], bs, h => nomatch h
  | [_, _, _], bs, h => nomatch h
  | a :: b :: c :: d :: rest, bs, h => by
      rw [decode] at h
      obtain ⟨p, hpvalue, hafter⟩ := Option.bind_eq_some_iff.mp h
      obtain ⟨q, hqvalue, htail⟩ := Option.bind_eq_some_iff.mp hafter
      obtain ⟨hp, rfl⟩ := eq_digit_of_value? hpvalue
      obtain ⟨hq, rfl⟩ := eq_digit_of_value? hqvalue
      by_cases hc : c = '='
      · -- two digits: of the second only the bits that the byte needs
        rw [if_pos hc] at htail
        split at htail
        · next hpad =>
            obtain ⟨hd, rfl, hbits⟩ := hpad
            cases htail
            obtain ⟨hfirst, hsecond, -⟩ :=
              digits_of_bytes hp hq (r := 0) (s := 0) (by decide) (by decide)
            have hzero : (bytes p q 0 0).2.1.toNat = 0 := by
              rw [bytes, UInt8.toNat_ofNat', hbits]
            rw [hzero, Nat.zero_div, Nat.add_zero] at hsecond
            rw [encode, hfirst, hsecond, hc, hd]
        · cases htail
      · rw [if_neg hc] at htail
        obtain ⟨r, hrvalue, hlast⟩ := Option.bind_eq_some_iff.mp htail
        obtain ⟨hr, rfl⟩ := eq_digit_of_value? hrvalue
        by_cases hd : d = '='
        · -- three digits, and the same of the third
          rw [if_pos hd] at hlast
          split at hlast
          · next hpad =>
              obtain ⟨rfl, hbits⟩ := hpad
              cases hlast
              obtain ⟨hfirst, hsecond, hthird, -⟩ := digits_of_bytes hp hq hr (s := 0) (by decide)
              have hzero : (bytes p q r 0).2.2.toNat = 0 := by
                rw [bytes, UInt8.toNat_ofNat', hbits]
              rw [hzero, Nat.zero_div, Nat.add_zero] at hthird
              rw [encode, hfirst, hsecond, hthird, hd]
          · cases hlast
        · rw [if_neg hd] at hlast
          obtain ⟨s, hsvalue, hmore⟩ := Option.bind_eq_some_iff.mp hlast
          obtain ⟨hs, rfl⟩ := eq_digit_of_value? hsvalue
          obtain ⟨more, hdecoded, hbytes⟩ := Option.bind_eq_some_iff.mp hmore
          cases hbytes
          obtain ⟨hfirst, hsecond, hthird, hfourth⟩ := digits_of_bytes hp hq hr hs
          rw [encode, hfirst, hsecond, hthird, hfourth, ← eq_encode_of_decode hdecoded]

/-- Nothing else is read as the same bytes. -/
theorem decode_eq_some_iff : decode cs = some bs ↔ cs = encode bs := by
  refine ⟨eq_encode_of_decode, ?_⟩
  rintro rfl
  exact decode_encode bs

end NetworkSlice.Text.Base64
