import NetworkSlice.Text.Percent

/-
Percent-encoded text is read as the text it was.

A byte is written as a percent sign and two digits that spell it
(`percentBytes_percentByte`), and a character that is kept stands for its own
bytes. So the bytes of the text come back one after another, as long as the
percent sign itself is not kept (`percentDecode?_percentEncode`), and no two
texts are encoded alike. What stands in encoded text is kept, a percent sign or
a digit (`mem_percentEncode`), so the marks that divide an address do not stand
in it and are left to divide.
-/
namespace NetworkSlice.Text

variable {keep : Char → Bool} {c : Char} {cs rest : List Char}

-- ==================================================================== bytes

/-- A digit in upper case has the value it was made of. -/
theorem digitValue_upperHexDigit : ∀ n < 16, digitValue (upperHexDigit n) = n := by
  decide

/-- A byte that is written with a percent sign is read back. -/
theorem percentBytes_percentByte (b : UInt8) :
    percentBytes (percentByte b ++ rest) = b :: percentBytes rest := by
  have hb : b.toNat < 256 := b.toNat_lt
  have hhigh : b.toNat / 16 < 16 := by omega
  have hlow : b.toNat % 16 < 16 := by omega
  have hspelled : b.toNat / 16 * 16 + b.toNat % 16 = b.toNat := by omega
  simp [percentByte, percentBytes, isDigitOf, numeral, digitValue_upperHexDigit _ hhigh,
    digitValue_upperHexDigit _ hlow, hhigh, hlow, hspelled]

/-- So are many, one after another. -/
theorem percentBytes_flatMap (bytes : List UInt8) :
    percentBytes (bytes.flatMap percentByte ++ rest) = bytes ++ percentBytes rest := by
  induction bytes with
  | nil => rfl
  | cons b more ih => simp [percentBytes_percentByte, ih]

/-- A character that is no percent sign is read as its own bytes. -/
theorem percentBytes_cons_of_ne (h : c ≠ '%') :
    percentBytes (c :: rest) = String.utf8EncodeChar c ++ percentBytes rest := by
  rw [percentBytes]
  intro a b rest' hc
  exact absurd hc h

/-- Encoded text is read as the bytes of the text, if no percent sign is kept.
-/
theorem percentBytes_percentEncode (hkeep : keep '%' = false) (cs : List Char) :
    percentBytes (percentEncode keep cs) = cs.flatMap String.utf8EncodeChar := by
  induction cs with
  | nil => rfl
  | cons c rest ih =>
      unfold percentEncode at ih ⊢
      rw [List.flatMap_cons, List.flatMap_cons]
      by_cases hc : keep c = true
      · have hne : c ≠ '%' := by
          intro heq
          rw [heq, hkeep] at hc
          cases hc
        rw [if_pos hc, List.singleton_append, percentBytes_cons_of_ne hne, ih]
      · rw [if_neg hc, percentBytes_flatMap, ih]

-- ==================================================================== texts

/-- A text is found in its bytes. -/
theorem fromUTF8?_toByteArray (s : String) : String.fromUTF8? s.toByteArray = some s :=
  dif_pos s.isValidUTF8

/-- So the text itself comes back. -/
theorem percentDecode?_percentEncode (hkeep : keep '%' = false) (cs : List Char) :
    percentDecode? (percentEncode keep cs) = some cs := by
  have hbytes : ByteArray.mk (cs.flatMap String.utf8EncodeChar).toArray
      = (String.ofList cs).toByteArray := by
    refine ByteArray.ext ?_
    exact List.data_toByteArray.symm
  unfold percentDecode?
  rw [percentBytes_percentEncode hkeep, hbytes, fromUTF8?_toByteArray, Option.map_some,
    String.toList_ofList]

/-- No two texts are encoded alike. -/
theorem percentEncoded_inj {s t : String} : percentEncoded s = percentEncoded t ↔ s = t := by
  constructor
  · intro h
    have hchars := String.ofList_injective h
    have hdecoded := congrArg percentDecode? hchars
    rw [percentDecode?_percentEncode rfl, percentDecode?_percentEncode rfl] at hdecoded
    exact String.toList_inj.mp (Option.some.inj hdecoded)
  · intro h
    rw [h]

/-- What stands in encoded text is kept, a percent sign or a digit. -/
theorem mem_percentEncode (h : c ∈ percentEncode keep cs) :
    keep c = true ∨ c = '%' ∨ ∃ n < 16, c = upperHexDigit n := by
  unfold percentEncode at h
  obtain ⟨c', -, hc⟩ := List.mem_flatMap.mp h
  split at hc
  · next hkept =>
      rw [List.mem_singleton.mp hc]
      exact Or.inl hkept
  · obtain ⟨b, -, hc⟩ := List.mem_flatMap.mp hc
    have hb : b.toNat < 256 := b.toNat_lt
    simp only [percentByte, List.mem_cons, List.not_mem_nil, or_false] at hc
    rcases hc with rfl | rfl | rfl
    · exact Or.inr (Or.inl rfl)
    · exact Or.inr (Or.inr ⟨b.toNat / 16, by omega, rfl⟩)
    · exact Or.inr (Or.inr ⟨b.toNat % 16, by omega, rfl⟩)

/-- Digits need no encoding. -/
theorem isUnreserved_upperHexDigit : ∀ n < 16, isUnreserved (upperHexDigit n) = true := by
  decide

/-- The marks of an address do not stand in a piece of it. -/
theorem isUnreserved_of_mem_percentEncoded {s : String} (h : c ∈ (percentEncoded s).toList)
    (hne : c ≠ '%') : isUnreserved c = true := by
  rw [percentEncoded, String.toList_ofList] at h
  rcases mem_percentEncode h with hkept | hsign | ⟨n, hn, rfl⟩
  · exact hkept
  · exact absurd hsign hne
  · exact isUnreserved_upperHexDigit n hn

end NetworkSlice.Text
