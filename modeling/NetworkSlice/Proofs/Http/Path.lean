import NetworkSlice.Http.Path
import NetworkSlice.Proofs.Text.Percent

/-
Segments of a path that are percent-encoded text.

Such a segment holds plain characters only, so it is cut from its neighbours at
the slashes and nowhere else (`pieces_chars`), and is not encoded again
(`encodeAll_of_plain`). But the dot is plain, and a segment of one or two dots
is no name: it is followed, and it goes away with its neighbour. Segments that
are no dots stay as they are (`followDots_of_named`), and the encoded text of a
name is one of the two dot segments only if the name is (`isSingleDot_encoded`,
`isDoubleDot_encoded`).
-/
namespace NetworkSlice.Http

open Text

variable {c : Char} {s : String} {segment : List Char} {before segments more : List (List Char)}

-- ========================================================== plain characters

/-- A character that percent-encoded text may hold. -/
def IsPlain (c : Char) : Prop := isUnreserved c = true ∨ c = '%'

instance : DecidablePred IsPlain := fun _ => inferInstanceAs (Decidable (_ ∨ _))

/-- What is decided along a text. A bare quantifier over characters may be decided
over all the characters there are, which takes too long. -/
theorem forall_char_iff_all {p : Char → Prop} [DecidablePred p] {cs : List Char} :
    (∀ c ∈ cs, p c) ↔ cs.all (fun c => decide (p c)) = true := by simp

/-- The text of a name in an address. -/
def encoded (s : String) : List Char := (percentEncoded s).toList

/-- Encoded text is plain. -/
theorem plain_encoded (h : c ∈ encoded s) : IsPlain c := by
  by_cases hc : c = '%'
  · exact Or.inr hc
  · exact Or.inl (isUnreserved_of_mem_percentEncoded h hc)

/-- Plain characters are visible ones. -/
theorem IsPlain.range (h : IsPlain c) : 0x20 < c.toNat ∧ c.toNat < 0x7f := by
  rcases h with h | rfl
  · simp only [isUnreserved, Char.isAlphanum, Bool.or_eq_true, beq_iff_eq] at h
    have hletter : c.isAlpha = true → 65 ≤ c.toNat ∧ c.toNat ≤ 122 := by
      intro h
      rcases Bool.or_eq_true_iff.mp h with h | h
      · obtain ⟨hlow, hhigh⟩ : 65 ≤ c.toNat ∧ c.toNat ≤ 90 := of_decide_eq_true h
        omega
      · obtain ⟨hlow, hhigh⟩ : 97 ≤ c.toNat ∧ c.toNat ≤ 122 :=
          (Bool.and_eq_true_iff.mp h).imp of_decide_eq_true of_decide_eq_true
        omega
    have hdigit : c.isDigit = true → 48 ≤ c.toNat ∧ c.toNat ≤ 57 :=
      fun h => (Bool.and_eq_true_iff.mp h).imp of_decide_eq_true of_decide_eq_true
    rcases h with (((((h | h) | rfl) | rfl) | rfl) | rfl)
    · have := hletter h
      omega
    · have := hdigit h
      omega
    all_goals decide
  · decide

theorem IsPlain.ne {x : Char} (h : IsPlain c) (hx : ¬IsPlain x) : c ≠ x := by
  rintro rfl
  exact hx h

theorem IsPlain.isSlash (h : IsPlain c) (special : Bool) : isSlash special c = false := by
  have hslash : c ≠ '/' := h.ne (by decide)
  have hback : c ≠ '\\' := h.ne (by decide)
  simp [Http.isSlash, hslash, hback]

-- ================================================================= segments

/-- Plain text is not encoded again. -/
theorem encodeAll_of_plain (h : ∀ c ∈ segment, IsPlain c) :
    encodeAll pathSet segment = segment := by
  have hset : ∀ x ∈ pathSet, ¬IsPlain x := forall_char_iff_all.mpr rfl
  unfold encodeAll percentEncode
  induction segment with
  | nil => rfl
  | cons c rest ih =>
      obtain ⟨hc, hrest⟩ := List.forall_mem_cons.mp h
      obtain ⟨hlow, hhigh⟩ := hc.range
      have hcontrol : isControl c = false := by
        unfold isControl
        simp only [Bool.or_eq_false_iff, decide_eq_false_iff_not]
        omega
      have hmem : pathSet.contains c = false := by
        rw [List.contains_eq_mem, decide_eq_false_iff_not]
        exact fun hmem => hset c hmem hc
      have hkeep : (!(isControl c || pathSet.contains c)) = true := by rw [hcontrol, hmem]; rfl
      rw [List.flatMap_cons, ih hrest, if_pos hkeep]
      rfl

theorem pieces_ne_nil (isSep : Char → Bool) (cs : List Char) : pieces isSep cs ≠ [] := by
  cases cs with
  | nil => exact List.cons_ne_nil _ _
  | cons c rest =>
      rw [pieces]
      split
      · exact List.cons_ne_nil _ _
      · split
        · exact List.cons_ne_nil _ _
        · exact List.cons_ne_nil _ _

theorem pieces_of_not_sep {isSep : Char → Bool} {cs : List Char} (h : ∀ c ∈ cs, isSep c = false) :
    pieces isSep cs = [cs] := by
  induction cs with
  | nil => rfl
  | cons c rest ih =>
      obtain ⟨hc, hrest⟩ := List.forall_mem_cons.mp h
      rw [pieces, ih hrest]
      simp [hc]

/-- A separator in front leaves an empty piece before it. -/
theorem pieces_cons_sep {isSep : Char → Bool} (hc : isSep c = true) (rest : List Char) :
    pieces isSep (c :: rest) = [] :: pieces isSep rest := by
  rw [pieces]
  split
  · next h => exact absurd h (pieces_ne_nil _ _)
  · next h => rw [if_pos hc, h]

/-- A text is cut at each separator. -/
theorem pieces_append_sep {isSep : Char → Bool} (hc : isSep c = true) (cs rest : List Char) :
    pieces isSep (cs ++ c :: rest) = pieces isSep cs ++ pieces isSep rest := by
  induction cs with
  | nil => exact pieces_cons_sep hc rest
  | cons d more ih =>
      rw [List.cons_append, pieces, ih, pieces]
      cases hmore : pieces isSep more with
      | nil => exact absurd hmore (pieces_ne_nil _ _)
      | cons piece others =>
          simp only [List.cons_append]
          split
          · rfl
          · rfl

/-- The segments of a path are its pieces between slashes. -/
theorem pieces_chars (special : Bool) (h : ∀ segment ∈ segments, ∀ c ∈ segment, IsPlain c)
    (cs : List Char) :
    pieces (isSlash special) (cs ++ (UrlPath.segments segments).chars)
      = pieces (isSlash special) cs ++ segments := by
  have hslash : isSlash special '/' = true := rfl
  induction segments generalizing cs with
  | nil => simp [UrlPath.chars]
  | cons segment rest ih =>
      obtain ⟨hsegment, hrest⟩ := List.forall_mem_cons.mp h
      have hcons : (UrlPath.segments (segment :: rest)).chars
          = '/' :: (segment ++ (UrlPath.segments rest).chars) := rfl
      rw [hcons, pieces_append_sep hslash, ih hrest,
        pieces_of_not_sep fun c hc => (hsegment c hc).isSlash special]
      rfl

-- ============================================================= dot segments

/-- A character in lower case is itself, or was an upper case letter. -/
theorem toLower_cases (c : Char) :
    c.toLower = c ∨ c.toLower.toNat = c.toNat + 32 ∧ 65 ≤ c.toNat ∧ c.toNat ≤ 90 := by
  unfold Char.toLower
  split
  · next h =>
      obtain ⟨hlow, hhigh⟩ := h
      have hlow : 65 ≤ c.val.toNat := UInt32.le_iff_toNat_le.mp hlow
      have hhigh : c.val.toNat ≤ 90 := UInt32.le_iff_toNat_le.mp hhigh
      have hsum : (c.val + ('a'.val - 'A'.val)).toNat = c.val.toNat + 32 := by
        rw [UInt32.toNat_add, show ('a'.val - 'A'.val).toNat = 32 from rfl]
        omega
      exact Or.inr ⟨hsum, hlow, hhigh⟩
  · exact Or.inl rfl

/-- A mark or a digit is no lower-case form but its own. -/
theorem eq_of_toLower {x : Char} (h : c.toLower = x) (hx : x.toNat < 97) : c = x := by
  rcases toLower_cases c with hc | ⟨hc, hlow, -⟩
  · exact hc.symm.trans h
  · rw [h] at hc
    omega

/-- A dot segment is a dot as percent-encoded text. -/
theorem percentBytes_of_isSingleDot (h : isSingleDot segment = true) (rest : List Char) :
    percentBytes (segment ++ rest) = 46 :: percentBytes rest := by
  simp only [isSingleDot, Bool.or_eq_true, decide_eq_true_eq] at h
  rcases h with h | h
  · obtain ⟨c, rfl, hc⟩ := List.map_eq_singleton_iff.mp h
    rw [eq_of_toLower hc (by decide)]
    exact percentBytes_cons_of_ne (by decide)
  · have h : segment.map Char.toLower = ['%', '2', 'e'] := h
    obtain ⟨a, _, rfl, ha, h⟩ := List.map_eq_cons_iff.mp h
    obtain ⟨b, _, rfl, hb, h⟩ := List.map_eq_cons_iff.mp h
    obtain ⟨c, rfl, hc⟩ := List.map_eq_singleton_iff.mp h
    rw [eq_of_toLower ha (by decide), eq_of_toLower hb (by decide)]
    rcases toLower_cases c with hsame | ⟨hlower, -, -⟩
    · rw [hsame.symm.trans hc]
      rfl
    · rw [hc] at hlower
      have hlower : 101 = c.toNat + 32 := hlower
      have hupper : c.toNat = 'E'.toNat := by
        show c.toNat = 69
        omega
      rw [Char.toNat_inj.mp hupper]
      rfl

/-- Two dots are one dot and another, however they are written. -/
theorem isDoubleDot_split (h : isDoubleDot segment = true) :
    ∃ a b, segment = a ++ b ∧ isSingleDot a = true ∧ isSingleDot b = true := by
  have hsplit : ∀ x y : List Char, segment.map Char.toLower = x ++ y →
      (x = ['.'] ∨ x = "%2e".toList) → (y = ['.'] ∨ y = "%2e".toList) →
      ∃ a b, segment = a ++ b ∧ isSingleDot a = true ∧ isSingleDot b = true := by
    intro x y h hx hy
    obtain ⟨a, b, rfl, rfl, rfl⟩ := List.map_eq_append_iff.mp h
    exact ⟨a, b, rfl, by simpa [isSingleDot] using hx, by simpa [isSingleDot] using hy⟩
  simp only [isDoubleDot, Bool.or_eq_true, decide_eq_true_eq] at h
  rcases h with ((h | h) | h) | h
  · exact hsplit ['.'] ['.'] h (Or.inl rfl) (Or.inl rfl)
  · exact hsplit ['.'] "%2e".toList h (Or.inl rfl) (Or.inr rfl)
  · exact hsplit "%2e".toList ['.'] h (Or.inr rfl) (Or.inl rfl)
  · exact hsplit "%2e".toList "%2e".toList h (Or.inr rfl) (Or.inr rfl)

/-- Encoded text is decoded as the text. -/
theorem percentDecode?_encoded (s : String) : percentDecode? (encoded s) = some s.toList := by
  unfold encoded percentEncoded
  rw [String.toList_ofList]
  exact percentDecode?_percentEncode rfl s.toList

/-- What an encoded name spells is the name. -/
theorem eq_of_percentBytes_encoded {t : String}
    (h : percentBytes (encoded s) = percentBytes (encoded t)) : s = t := by
  have hsame : percentDecode? (encoded s) = percentDecode? (encoded t) := by
    unfold percentDecode?
    rw [h]
  rw [percentDecode?_encoded, percentDecode?_encoded] at hsame
  exact String.toList_inj.mp (Option.some.inj hsame)

/-- So it is a dot where the text is one. -/
theorem isSingleDot_encoded : isSingleDot (encoded s) = true ↔ s = "." := by
  constructor
  · intro h
    have hbytes := percentBytes_of_isSingleDot h []
    rw [List.append_nil] at hbytes
    exact eq_of_percentBytes_encoded (hbytes.trans rfl)
  · rintro rfl
    rfl

/-- And two dots where the text is. -/
theorem isDoubleDot_encoded : isDoubleDot (encoded s) = true ↔ s = ".." := by
  constructor
  · intro h
    obtain ⟨a, b, hab, ha, hb⟩ := isDoubleDot_split h
    have hbytes : percentBytes (encoded s) = [46, 46] := by
      rw [hab, percentBytes_of_isSingleDot ha, ← List.append_nil b, percentBytes_of_isSingleDot hb]
      rfl
    exact eq_of_percentBytes_encoded (hbytes.trans rfl)
  · rintro rfl
    rfl

-- =============================================================== following

/-- A segment that is no dot. -/
def IsNamed (segment : List Char) : Prop :=
  isDoubleDot segment = false ∧ isSingleDot segment = false

/-- Whether a name is written as a dot segment. -/
def IsDots (s : String) : Prop := s = "." ∨ s = ".."

instance : DecidablePred IsDots := fun _ => inferInstanceAs (Decidable (_ ∨ _))

/-- All other texts are names. -/
theorem isNamed_encoded_iff : IsNamed (encoded s) ↔ ¬IsDots s := by
  unfold IsNamed IsDots
  rw [Bool.eq_false_iff, Bool.eq_false_iff, Ne, Ne, isDoubleDot_encoded, isSingleDot_encoded,
    not_or, and_comm]

/-- A name is kept and the dots after it are followed. -/
theorem followDots_cons_of_named (h : IsNamed segment) :
    followDots false before (segment :: more) = followDots false (segment :: before) more := by
  rw [followDots]
  simp [h.1, h.2]

/-- So are names in a row. -/
theorem followDots_append_of_named (before more : List (List Char))
    (h : ∀ segment ∈ segments, IsNamed segment) :
    followDots false before (segments ++ more)
      = followDots false (segments.reverse ++ before) more := by
  induction segments generalizing before with
  | nil => rfl
  | cons segment rest ih =>
      obtain ⟨hsegment, hrest⟩ := List.forall_mem_cons.mp h
      rw [List.cons_append, followDots_cons_of_named hsegment, ih _ hrest, List.reverse_cons,
        List.append_assoc]
      rfl

/-- Names stay where they are. -/
theorem followDots_of_named (h : ∀ segment ∈ segments, IsNamed segment) :
    followDots false before segments = before.reverse ++ segments := by
  have hfollow := followDots_append_of_named before [] h
  rw [List.append_nil] at hfollow
  rw [hfollow, followDots, List.reverse_append, List.reverse_reverse]

/-- The segments, the last one first, when these were followed after those. -/
def climb (before : List (List Char)) : List (List Char) → List (List Char)
  | [] => before
  | segment :: rest =>
    if isDoubleDot segment then climb (above before) rest
    else if isSingleDot segment then climb before rest
    else climb (segment :: before) rest

/-- What comes later is followed from where the first have led. -/
theorem followDots_append (hmore : more ≠ []) :
    followDots false before (segments ++ more) = followDots false (climb before segments) more := by
  induction segments generalizing before with
  | nil => rfl
  | cons segment rest ih =>
      have hrest : (rest ++ more).isEmpty = false := by simp [hmore]
      rw [List.cons_append, followDots, climb, hrest]
      split
      · exact ih
      · split
        · exact ih
        · exact ih

theorem length_above_le (before : List (List Char)) : (above before).length ≤ before.length := by
  unfold above
  cases before with
  | nil => exact Nat.le_refl 0
  | cons segment rest =>
      dsimp only
      split
      · exact Nat.le_refl _
      · exact Nat.le_succ _

/-- Each segment leads to one more segment at most. -/
theorem length_followDots_le :
    (followDots false before segments).length ≤ before.length + segments.length := by
  induction segments generalizing before with
  | nil => exact Nat.le_of_eq List.length_reverse
  | cons segment rest ih =>
      have hstep : ∀ next : List (List Char), next.length ≤ before.length + 1 →
          (followDots false next rest).length ≤ before.length + (rest.length + 1) :=
        fun next hnext => Nat.le_trans ih (by omega)
      have hclosing : (if rest.isEmpty then [[]] else [] : List (List Char)).length ≤ 1 := by
        split <;> decide
      have habove := length_above_le before
      rw [followDots, List.length_cons]
      split
      · refine hstep _ ?_
        rw [List.length_append]
        omega
      · split
        · refine hstep _ ?_
          rw [List.length_append]
          omega
        · exact hstep _ (Nat.le_refl _)

/-- A dot that is not the last segment leads to none. -/
theorem length_followDots_of_dot (before : List (List Char)) (h : ¬IsNamed segment)
    (hmore : more ≠ []) :
    (followDots false before (segment :: more)).length ≤ before.length + more.length := by
  have hempty : more.isEmpty = false := by simp [hmore]
  rw [followDots, hempty]
  split
  · exact Nat.le_trans length_followDots_le (Nat.add_le_add_right (length_above_le before) _)
  · next hdouble =>
      split
      · exact length_followDots_le
      · next hsingle => exact absurd ⟨by simpa using hdouble, by simpa using hsingle⟩ h

end NetworkSlice.Http
