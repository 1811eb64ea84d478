import NetworkSlice.Address.Text
import NetworkSlice.Power

/-
Numerals that are written and read again.

A number in a base up to sixteen is written in digits of that base, and they
spell the number (`numeral_toDigits`). A reader takes the digits a text begins
with, so what follows the numeral must not go on with one (`Stops`); then the
reader finds the number, if the number is below its bound and the bound leaves
room for no longer numeral (`readNumber_toDigits`).
-/
namespace NetworkSlice

variable {radix most bound n : Nat} {c : Char} {rest : List Char}

-- =================================================================== digits

/-- A digit has the value it was made of. -/
theorem digitValue_digitChar : ∀ d < 16, digitValue d.digitChar = d := by
  decide

/-- A number is written in digits of its base. -/
theorem isDigitOf_of_mem_toDigits (hradix : 1 < radix) (hhex : radix ≤ 16)
    (hc : c ∈ Nat.toDigits radix n) : isDigitOf radix c = true := by
  induction n using Nat.strongRecOn with
  | ind n ih =>
      have hdigit : ∀ d < radix, isDigitOf radix d.digitChar = true := by
        intro d hd
        unfold isDigitOf
        rw [digitValue_digitChar d (by omega)]
        exact decide_eq_true hd
      by_cases hn : n < radix
      · rw [Nat.toDigits_of_lt_base hn] at hc
        rw [List.mem_singleton.mp hc]
        exact hdigit n hn
      · rw [Nat.toDigits_of_base_le hradix (by omega)] at hc
        rcases List.mem_append.mp hc with hc | hc
        · exact ih (n / radix) (Nat.div_lt_self (by omega) hradix) hc
        · rw [List.mem_singleton.mp hc]
          exact hdigit (n % radix) (Nat.mod_lt n (by omega))

/-- And they spell the number. -/
theorem numeral_toDigits (hradix : 1 < radix) (hhex : radix ≤ 16) :
    numeral radix (Nat.toDigits radix n) = n := by
  induction n using Nat.strongRecOn with
  | ind n ih =>
      unfold numeral at ih ⊢
      by_cases hn : n < radix
      · rw [Nat.toDigits_of_lt_base hn]
        simp [digitValue_digitChar n (by omega)]
      · have hlast : n % radix < radix := Nat.mod_lt n (by omega)
        rw [Nat.toDigits_of_base_le hradix (by omega), List.foldl_append,
          ih (n / radix) (Nat.div_lt_self (by omega) hradix), List.foldl_cons, List.foldl_nil,
          digitValue_digitChar _ (by omega), Nat.mul_comm]
        exact Nat.div_add_mod n radix

/-- No digit is blank. -/
theorem isBlank_of_isDigitOf (hhex : radix ≤ 16) (h : isDigitOf radix c = true) :
    Text.isBlank c = false := by
  -- the digits are in three ranges, between ! and ~ all of them
  have hrange : ∀ lo hi : Char, 0x21 ≤ lo.toNat → hi.toNat ≤ 0x7e → lo ≤ c ∧ c ≤ hi →
      0x21 ≤ c.toNat ∧ c.toNat ≤ 0x7e :=
    fun lo hi hlo hhi h => ⟨Nat.le_trans hlo (UInt32.le_iff_toNat_le.mp h.1),
      Nat.le_trans (UInt32.le_iff_toNat_le.mp h.2) hhi⟩
  have hcode : 0x21 ≤ c.toNat ∧ c.toNat ≤ 0x7e := by
    unfold isDigitOf digitValue at h
    split at h
    · next hc => exact hrange '0' '9' (by decide) (by decide) hc
    · split at h
      · next hc => exact hrange 'a' 'f' (by decide) (by decide) hc
      · split at h
        · next hc => exact hrange 'A' 'F' (by decide) (by decide) hc
        · rw [decide_eq_true_eq] at h
          omega
  unfold Text.isBlank
  simp only [Bool.or_eq_false_iff, Bool.and_eq_false_iff, decide_eq_false_iff_not,
    beq_eq_false_iff_ne]
  omega

-- ================================================================== reading

/-- The text does not go on with a digit. -/
def Stops (radix : Nat) (cs : List Char) : Prop :=
  ∀ c ∈ cs.head?, isDigitOf radix c = false

theorem stops_nil : Stops radix [] := by
  intro c hc
  cases hc

/-- It stops at whatever is no digit. -/
theorem stops_cons (h : isDigitOf radix c = false) : Stops radix (c :: rest) := by
  intro c' hc'
  rw [← Option.some.inj hc']
  exact h

theorem Stops.takeWhile (h : Stops radix rest) : rest.takeWhile (isDigitOf radix) = [] := by
  cases rest with
  | nil => rfl
  | cons c rest => exact List.takeWhile_cons_of_neg (by rw [h c rfl]; exact Bool.false_ne_true)

theorem Stops.dropWhile (h : Stops radix rest) : rest.dropWhile (isDigitOf radix) = rest := by
  cases rest with
  | nil => rfl
  | cons c rest => exact List.dropWhile_cons_of_neg (by rw [h c rfl]; exact Bool.false_ne_true)

/-- Where no digit comes first, no number is read. -/
theorem readNumber_of_stops (h : Stops radix rest) : readNumber radix most bound rest = none := by
  unfold readNumber
  rw [h.takeWhile]
  rfl

/-- What a reader leaves begins where the digits end. -/
theorem rest_of_readNumber {cs : List Char} (h : readNumber radix most bound cs = some (n, rest)) :
    rest = cs.dropWhile (isDigitOf radix) := by
  unfold readNumber at h
  dsimp only at h
  split at h
  · cases h
  · split at h
    · injection h with h
      injection h with _ h
      exact h.symm
    · cases h

/-- A reader that has room for all numbers below its bound finds the number
that is written, and refuses it from the bound on. -/
theorem readNumber_toDigits (hradix : 1 < radix) (hhex : radix ≤ 16) (hmost : 0 < most)
    (hbound : bound ≤ radix ^ most) (hrest : Stops radix rest) :
    readNumber radix most bound (Nat.toDigits radix n ++ rest)
      = if n < bound then some (n, rest) else none := by
  have hdigits : ∀ c ∈ Nat.toDigits radix n, isDigitOf radix c = true :=
    fun c hc => isDigitOf_of_mem_toDigits hradix hhex hc
  unfold readNumber
  rw [List.takeWhile_append_of_pos hdigits, List.dropWhile_append_of_pos hdigits,
    hrest.takeWhile, hrest.dropWhile, List.append_nil]
  dsimp only
  rw [numeral_toDigits hradix hhex]
  split
  case isFalse => rfl
  case isTrue hlong =>
      -- a numeral with more digits than there is room for is not below the bound
      have hlength := (Nat.length_toDigits_le_iff (n := n) hradix hmost).mpr
      have hpos := Nat.length_toDigits_pos (b := radix) (n := n)
      rw [if_neg]
      omega

end NetworkSlice
