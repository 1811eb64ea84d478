import Mathlib.Logic.ExistsUnique

/-
Places in lists.

An entry of a list is found under its place, counted from 0, and one value may
stand at several places. What is said of the entries in order, and holds either
way round, is true of any two places (`rel_of_pairwise`); so a property that one
entry has, and no two entries have together, is found at one place
(`existsUnique_getElem?`).
-/
namespace NetworkSlice

variable {α β : Type}

/-- Reading the places of a list in order gives the list. -/
theorem map_getElem?_range (l : List α) :
    (List.range l.length).map (fun i => l[i]?) = l.map some := by
  refine List.ext_getElem (by simp) fun i hi hi' => ?_
  simp at hi'
  simp [hi']

/-- Where nothing is left out, the entries of a filtered list stay in their
places. -/
theorem getElem?_filterMap_of_isSome {f : α → Option β} :
    ∀ {l : List α}, (∀ x ∈ l, (f x).isSome) →
      ∀ i : Nat, (l.filterMap f)[i]? = l[i]?.bind f := by
  intro l
  induction l with
  | nil => intro _ i; rfl
  | cons x rest ih =>
      intro h i
      obtain ⟨y, hy⟩ := Option.isSome_iff_exists.mp (h x List.mem_cons_self)
      rw [List.filterMap_cons_some hy]
      cases i with
      | zero => simp [hy]
      | succ i =>
          rw [List.getElem?_cons_succ, List.getElem?_cons_succ]
          exact ih (fun z hz => h z (List.mem_cons_of_mem x hz)) i

variable {l : List α}

/-- What holds of the entries in order, and either way round, holds of the
entries at any two places. -/
theorem rel_of_pairwise {R : α → α → Prop} (hsymm : ∀ {x y}, R x y → R y x)
    (h : l.Pairwise R) {i j : Nat} {x y : α} (hij : i ≠ j) (hx : l[i]? = some x)
    (hy : l[j]? = some y) : R x y := by
  obtain ⟨hi, rfl⟩ := List.getElem?_eq_some_iff.mp hx
  obtain ⟨hj, rfl⟩ := List.getElem?_eq_some_iff.mp hy
  rcases Nat.lt_or_gt_of_ne hij with hlt | hlt
  · exact List.pairwise_iff_getElem.mp h i j hi hj hlt
  · exact hsymm (List.pairwise_iff_getElem.mp h j i hj hi hlt)

/-- What an entry has, and no two entries have together, is at one place. -/
theorem existsUnique_getElem? {P : α → Prop} (h : l.Pairwise fun x y => P x → ¬P y)
    (hex : ∃ x ∈ l, P x) : ∃! i : Nat, ∃ x, l[i]? = some x ∧ P x := by
  obtain ⟨x, hmem, hx⟩ := hex
  obtain ⟨i, hi⟩ := List.mem_iff_getElem?.mp hmem
  refine ⟨i, ⟨x, hi, hx⟩, ?_⟩
  rintro j ⟨y, hj, hy⟩
  refine Classical.byContradiction fun hne => ?_
  exact rel_of_pairwise (fun hxy hy hx => hxy hx hy) h hne hj hi hy hx

end NetworkSlice
