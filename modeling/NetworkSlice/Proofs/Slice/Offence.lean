import NetworkSlice.Proofs.Slice.Faults

/-
The first offence among links.

`OffendsAt` says of a place in a list of links what is wrong there, given the
links before it and nothing else of the list. A list is a simple graph when
there is no such place (`simple_iff_not_offendsAt`), so the fault that checking
reports is the offence at the first of them (`fault_iff_first_offence`).

Which place that is depends on the order of the links, and whether there is one
does not: being simple is a matter of the links and their pairs
(`Simple.perm`).
-/
namespace NetworkSlice.Topology

variable {names : List String} {links links' : List Link} {e : LinkError} {i : Nat}

/-- What is wrong with the link at a place, given the links before it. -/
def OffendsAt (names : List String) (links : List Link) (i : Nat) (e : LinkError) : Prop :=
  ∃ l, links[i]? = some l
    ∧ Offends names l (∃ l' ∈ links.take i, l'.Joins l.endpointA l.endpointB) e

/-- The place as the point where the list is taken apart. -/
theorem offendsAt_iff_split :
    OffendsAt names links i e
      ↔ ∃ before l after, links = before ++ l :: after ∧ before.length = i
        ∧ Offends names l (∃ l' ∈ before, l'.Joins l.endpointA l.endpointB) e := by
  constructor
  · rintro ⟨l, hl, hoffends⟩
    obtain ⟨hi, rfl⟩ := List.getElem?_eq_some_iff.mp hl
    refine ⟨links.take i, links[i], links.drop (i + 1), ?_, ?_, hoffends⟩
    · rw [List.getElem_cons_drop, List.take_append_drop]
    · exact List.length_take_of_le (Nat.le_of_lt hi)
  · rintro ⟨before, l, after, rfl, rfl, hoffends⟩
    exact ⟨l, by simp, by simpa using hoffends⟩

/-- What comes after a place does not matter to it. -/
theorem offendsAt_append_iff (h : i < links.length) :
    OffendsAt names (links ++ links') i e ↔ OffendsAt names links i e := by
  unfold OffendsAt
  rw [List.getElem?_append_left h, List.take_append_of_le_length (Nat.le_of_lt h)]

-- ========================================================== simple graphs

/-- Links in another order have the same pairs. -/
theorem Simple.perm (h : Simple names links) (hperm : links.Perm links') :
    Simple names links' where
  loopFree l hl := h.loopFree l (hperm.mem_iff.mpr hl)
  ends l hl := h.ends l (hperm.mem_iff.mpr hl)
  distinct := by
    refine h.distinct.perm hperm ?_
    intro l l' hne
    rw [← Link.key_eq_iff] at hne ⊢
    exact Ne.symm hne

theorem Simple.not_offendsAt (h : Simple names links) : ¬OffendsAt names links i e := by
  rw [offendsAt_iff_split]
  rintro ⟨before, l, after, rfl, -, hoffends⟩
  have hmem : l ∈ before ++ l :: after := by simp
  cases hoffends with
  | selfLoop hloop => exact h.loopFree l hmem hloop
  | unknownFirst _ hA => exact hA (h.ends l hmem).1
  | unknownSecond _ _ hB => exact hB (h.ends l hmem).2
  | duplicate _ _ _ hagain =>
      obtain ⟨l', hl', hjoins⟩ := hagain
      exact (List.pairwise_append.mp h.distinct).2.2 l' hl' l List.mem_cons_self hjoins

theorem Fault.exists_offendsAt (h : Fault names links e) :
    ∃ i < links.length, OffendsAt names links i e := by
  obtain ⟨before, l, after, rfl, -, hoffends⟩ := h
  exact ⟨before.length, by simp, offendsAt_iff_split.mpr ⟨before, l, after, rfl, rfl, hoffends⟩⟩

/-- Links are a simple graph when nothing is wrong anywhere. -/
theorem simple_iff_not_offendsAt :
    Simple names links ↔ ∀ i < links.length, ∀ e, ¬OffendsAt names links i e := by
  constructor
  · exact fun h i _ e => h.not_offendsAt
  · intro h
    rw [← not_fault_iff]
    intro e hfault
    obtain ⟨i, hi, hoffends⟩ := hfault.exists_offendsAt
    exact h i hi e hoffends

/-- So the links before a place are one when it is the first at which something
is. -/
theorem fault_iff_first_offence :
    Fault names links e
      ↔ ∃ i, OffendsAt names links i e ∧ ∀ j < i, ∀ e', ¬OffendsAt names links j e' := by
  constructor
  · rintro ⟨before, l, after, rfl, hsimple, hoffends⟩
    refine ⟨before.length, offendsAt_iff_split.mpr ⟨before, l, after, rfl, rfl, hoffends⟩, ?_⟩
    intro j hj e'
    rw [offendsAt_append_iff hj]
    exact hsimple.not_offendsAt
  · rintro ⟨i, hat, hfirst⟩
    obtain ⟨before, l, after, rfl, rfl, hoffends⟩ := offendsAt_iff_split.mp hat
    refine ⟨before, l, after, rfl, simple_iff_not_offendsAt.mpr ?_, hoffends⟩
    intro j hj e'
    rw [← offendsAt_append_iff hj]
    exact hfirst j hj e'

-- =============================================================== checking

/-- What checking says of links. They pass when they are a simple graph over the
names. Else the error is that of the first link at which something is wrong,
given the links before it: it is a loop, or one of its ends is unknown, the
first end before the second, or its pair was there already, in this order.
Whether links pass does not depend on their order. -/
theorem check_exact (names : List String) (links : List Link) :
    (check names links = .ok () ↔ Simple names links)
      ∧ (∀ e, check names links = .error e
          ↔ ∃ i offence, OffendsAt names links i offence
            ∧ (∀ j < i, ∀ other, ¬OffendsAt names links j other)
            ∧ e = .composition offence.message)
      ∧ ∀ links', links.Perm links' →
          (check names links = .ok () ↔ check names links' = .ok ()) := by
  refine ⟨check_eq_ok_iff, ?_, ?_⟩
  · intro e
    rw [check_eq_error_iff]
    simp only [fault_iff_first_offence]
    constructor
    · rintro ⟨offence, ⟨i, hoffends, hfirst⟩, rfl⟩
      exact ⟨i, offence, hoffends, hfirst, rfl⟩
    · rintro ⟨i, offence, hoffends, hfirst, rfl⟩
      exact ⟨offence, ⟨i, hoffends, hfirst⟩, rfl⟩
  · intro links' hperm
    rw [check_eq_ok_iff, check_eq_ok_iff]
    exact ⟨fun h => h.perm hperm, fun h => h.perm hperm.symm⟩

/-- A link, a loop on a name that is unknown besides, and the first link again. -/
def loopedLinks : List Link := [⟨"b", "a"⟩, ⟨"z", "z"⟩, ⟨"a", "b"⟩]

/-- It is the loop that is reported. Two links of a row pass in both orders. -/
theorem check_exact_loopedLinks :
    check ["a", "b"] loopedLinks = .error (.composition "self-loop on z")
      ∧ [Link.mk "a" "b", Link.mk "c" "b"].Perm [Link.mk "c" "b", Link.mk "a" "b"]
      ∧ check ["a", "b", "c"] [⟨"c", "b"⟩, ⟨"a", "b"⟩] = .ok () := by
  obtain ⟨-, herror, -⟩ := check_exact ["a", "b"] loopedLinks
  obtain ⟨-, -, horder⟩ := check_exact ["a", "b", "c"] [⟨"a", "b"⟩, ⟨"c", "b"⟩]
  have hswap : [Link.mk "a" "b", Link.mk "c" "b"].Perm [Link.mk "c" "b", Link.mk "a" "b"] :=
    List.Perm.swap ..
  have hloop : OffendsAt ["a", "b"] loopedLinks 1 (.selfLoop "z") :=
    ⟨⟨"z", "z"⟩, rfl, .selfLoop rfl⟩
  have hbefore : Simple ["a", "b"] [Link.mk "b" "a"] :=
    check_eq_ok_iff.mp rfl
  refine ⟨(herror _).mpr ⟨1, _, hloop, ?_, rfl⟩, hswap, (horder _ hswap).mp rfl⟩
  intro j hj other hoffends
  have hsplit : loopedLinks = [⟨"b", "a"⟩] ++ [⟨"z", "z"⟩, ⟨"a", "b"⟩] := rfl
  rw [hsplit, offendsAt_append_iff hj] at hoffends
  exact hbefore.not_offendsAt hoffends

end NetworkSlice.Topology
