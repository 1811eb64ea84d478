import NetworkSlice.Text.Blank

/-
Blanks around a text, and texts of nothing else.

Trimming gives back a text between blanks, if there is no blank in it. A text
that is nothing but blanks gives way to a fallback, once and not again, since the
fallback stays even if it is blank itself (`orElse_orElse`); so only then what
comes of it is blank (`isBlankText_orElse`).
-/
namespace NetworkSlice.Text

variable {before cs after : List Char}

/-- Where there is no blank, none is dropped. -/
theorem dropWhile_isBlank (h : ∀ c ∈ cs, isBlank c = false) : cs.dropWhile isBlank = cs := by
  cases cs with
  | nil => rfl
  | cons c cs =>
      apply List.dropWhile_cons_of_neg
      rw [h c List.mem_cons_self]
      exact Bool.false_ne_true

/-- Trimming takes the blanks around a text. -/
theorem trimChars_pad (hbefore : ∀ c ∈ before, isBlank c = true)
    (hafter : ∀ c ∈ after, isBlank c = true) (h : ∀ c ∈ cs, isBlank c = false) :
    trimChars (before ++ cs ++ after) = cs := by
  have hblank : after.dropWhile isBlank = [] := by
    rw [← List.append_nil after, List.dropWhile_append_of_pos hafter]
    rfl
  -- blanks at the front end where the text begins, unless there is no text
  have hfront : (cs ++ after).dropWhile isBlank = cs ++ after ∨ cs = [] := by
    cases cs with
    | nil => exact Or.inr rfl
    | cons c cs =>
        refine Or.inl (List.dropWhile_cons_of_neg ?_)
        rw [h c List.mem_cons_self]
        exact Bool.false_ne_true
  unfold trimChars
  rw [List.append_assoc, List.dropWhile_append_of_pos hbefore]
  rcases hfront with hfront | rfl
  · rw [hfront, List.reverse_append,
      List.dropWhile_append_of_pos fun c hc => hafter c (List.mem_reverse.mp hc),
      dropWhile_isBlank fun c hc => h c (List.mem_reverse.mp hc), List.reverse_reverse]
  · rw [List.nil_append, hblank]
    rfl

/-- So a text without blanks comes out of blanks around it. -/
theorem trim_pad {before s after : String} (hbefore : isBlankText before = true)
    (hafter : isBlankText after = true) (h : ∀ c ∈ s.toList, isBlank c = false) :
    trim (before ++ s ++ after) = s := by
  unfold trim
  rw [String.toList_append, String.toList_append,
    trimChars_pad (List.all_eq_true.mp hbefore) (List.all_eq_true.mp hafter) h,
    String.ofList_toList]

-- ============================================================== fallbacks

/-- A text is blank unless it has a character that is not. -/
theorem exists_not_blank_iff {s : String} :
    (∃ c ∈ s.toList, isBlank c = false) ↔ isBlankText s = false := by
  unfold isBlankText
  simp

/-- A choice is blank where both are. -/
theorem isBlankText_orElse (given fallback : String) :
    isBlankText (orElse given fallback) = (isBlankText given && isBlankText fallback) := by
  unfold orElse
  by_cases h : isBlankText given = true
  · rw [if_pos h, h, Bool.true_and]
  · rw [if_neg h, Bool.eq_false_iff.mpr h, Bool.false_and]

/-- Choosing once is enough. -/
theorem orElse_orElse (given fallback : String) :
    orElse (orElse given fallback) fallback = orElse given fallback := by
  unfold orElse
  by_cases h : isBlankText given = true
  · rw [if_pos h, ite_self]
  · rw [if_neg h, if_neg h]

/-- A text that is asked for and not blank stays; else it is the fallback. -/
def Settled (asked : Option String) (fallback settled : String) : Prop :=
  (∀ t, asked = some t → isBlankText t = false → settled = t)
    ∧ ((∀ t, asked = some t → isBlankText t = true) → settled = fallback)

/-- A choice settles what was asked for, asked or not. -/
theorem settled_orElse (asked : Option String) (fallback : String) :
    Settled asked fallback (orElse (asked.getD "") fallback) := by
  unfold orElse
  by_cases h : isBlankText (asked.getD "") = true
  · rw [if_pos h]
    refine ⟨fun t ht hblank => ?_, fun _ => rfl⟩
    rw [ht, Option.getD_some, hblank] at h
    cases h
  · rw [if_neg h]
    cases asked with
    | none => exact absurd rfl h
    | some t => exact ⟨fun t' ht _ => Option.some.inj ht, fun hblank => absurd (hblank t rfl) h⟩

end NetworkSlice.Text
