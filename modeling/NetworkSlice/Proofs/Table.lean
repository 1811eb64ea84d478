import NetworkSlice.Table

/-
Lists of named entries in ascending order.

`arrange` puts a list in order. A list in order stays as it is
(`arrange_eq_self`), so a table is what its own entries make (`ofList_entries`);
the values may be changed before or after (`arrange_map`); and where no name is
repeated nothing is lost (`lookup_arrange`). Where names are repeated a table
has what the last entry of a name says (`get?_ofList_filterMap_iff`).
-/
namespace NetworkSlice

variable {α β : Type} {l : List (String × α)} {k q : String} {v : α}

-- =================================================================== order

/-- What is arranged is in order. -/
theorem ordered_arrange (l : List (String × α)) : Ordered (arrange l) := by
  unfold arrange
  exact List.foldlRecOn l _ List.Pairwise.nil fun acc h e _ => h.place

/-- And holds nothing that was not there before. -/
theorem mem_of_mem_arrange {e : String × α} (h : e ∈ arrange l) : e ∈ l := by
  have hsub : ∀ e ∈ arrange l, e ∈ l := by
    unfold arrange
    refine List.foldlRecOn (motive := fun acc => ∀ e ∈ acc, e ∈ l) l _ ?_ ?_
    · exact fun e he => absurd he List.not_mem_nil
    · intro acc hacc e' he' e he
      rcases eq_or_mem_of_mem_place he with rfl | he
      · exact he'
      · exact hacc e he
  exact hsub e h

theorem mem_names_of_mem_arrange (h : k ∈ (arrange l).map Prod.fst) : k ∈ l.map Prod.fst := by
  obtain ⟨e, he, rfl⟩ := List.mem_map.mp h
  exact List.mem_map_of_mem (mem_of_mem_arrange he)

/-- In order no name stands twice. -/
theorem Ordered.nodup (h : Ordered l) : (l.map Prod.fst).Nodup := by
  refine List.pairwise_map.mpr (List.Pairwise.imp ?_ h)
  intro a b hlt heq
  rw [heq] at hlt
  exact String.lt_irrefl _ hlt

/-- A name above all others is placed at the end. -/
theorem place_eq_append (h : ∀ e ∈ l, e.1 < k) : place k v l = l ++ [(k, v)] := by
  induction l with
  | nil => rfl
  | cons e rest ih =>
      have hlt := h e List.mem_cons_self
      have hne : k ≠ e.1 := fun heq => String.lt_irrefl _ (heq ▸ hlt)
      rw [place, if_neg (String.lt_asymm hlt), if_neg hne,
        ih fun e' he' => h e' (List.mem_cons_of_mem e he')]
      rfl

/-- What is in order stays as it is. -/
theorem arrange_eq_self (h : Ordered l) : arrange l = l := by
  have hfold : ∀ acc : List (String × α), Ordered (acc ++ l) →
      l.foldl (fun acc e => place e.1 e.2 acc) acc = acc ++ l := by
    clear h
    induction l with
    | nil => exact fun acc _ => (List.append_nil acc).symm
    | cons e rest ih =>
        -- what was placed before stands in front, so the next name is above it
        intro acc h
        have hlast : ∀ e' ∈ acc, e'.1 < e.1 := by
          intro e' he'
          exact (List.pairwise_append.mp h).2.2 e' he' e List.mem_cons_self
        rw [List.append_cons] at h
        rw [List.foldl_cons, place_eq_append hlast, ih _ h, List.append_assoc]
        rfl
  exact hfold [] h

-- ================================================================== values

theorem place_map (f : α → β) :
    place k (f v) (l.map fun e => (e.1, f e.2)) = (place k v l).map fun e => (e.1, f e.2) := by
  induction l with
  | nil => rfl
  | cons e rest ih =>
      rw [List.map_cons, place, place]
      split
      · rfl
      · split
        · rfl
        · rw [ih]
          rfl

/-- Changing the values does not change the order. -/
theorem arrange_map (f : α → β) (l : List (String × α)) :
    arrange (l.map fun e => (e.1, f e.2)) = (arrange l).map fun e => (e.1, f e.2) := by
  have hfold : ∀ acc : List (String × α),
      (l.map fun e => (e.1, f e.2)).foldl (fun acc e => place e.1 e.2 acc)
          (acc.map fun e => (e.1, f e.2))
        = (l.foldl (fun acc e => place e.1 e.2 acc) acc).map fun e => (e.1, f e.2) := by
    induction l with
    | nil => exact fun acc => rfl
    | cons e rest ih =>
        intro acc
        have hplace := place_map (k := e.1) (v := e.2) (l := acc) f
        rw [List.map_cons, List.foldl_cons, List.foldl_cons, ← ih (place e.1 e.2 acc), ← hplace]
  exact hfold []

/-- Values may be changed before a name is looked up or after. -/
theorem lookup_map (f : α → β) (l : List (String × α)) (q : String) :
    (l.map fun e => (e.1, f e.2)).lookup q = (l.lookup q).map f := by
  induction l with
  | nil => rfl
  | cons e rest ih =>
      rw [List.map_cons, lookup_cons_eq_ite, lookup_cons_eq_ite, ih]
      split
      · rfl
      · rfl

-- ================================================================ look-ups

/-- A name that is not there is not found. -/
theorem lookup_eq_none_of_not_mem (h : q ∉ l.map Prod.fst) : l.lookup q = none := by
  induction l with
  | nil => rfl
  | cons e rest ih =>
      obtain ⟨hne, hrest⟩ := not_or.mp (mt List.mem_cons.mpr h)
      rw [lookup_cons_eq_ite, if_neg hne, ih hrest]

theorem not_mem_of_lookup_eq_none (h : l.lookup q = none) : q ∉ l.map Prod.fst := by
  intro hmem
  obtain ⟨e, he, rfl⟩ := List.mem_map.mp hmem
  simpa using List.lookup_eq_none_iff.mp h e he

/-- Nothing is lost of a list in which no name is repeated. -/
theorem lookup_arrange (h : (l.map Prod.fst).Nodup) : (arrange l).lookup q = l.lookup q := by
  have hfold : ∀ acc : List (String × α),
      (l.foldl (fun acc e => place e.1 e.2 acc) acc).lookup q
        = (l.lookup q).or (acc.lookup q) := by
    induction l with
    | nil => exact fun acc => rfl
    | cons e rest ih =>
        intro acc
        obtain ⟨hfirst, hrest⟩ := List.nodup_cons.mp h
        rw [List.foldl_cons, ih hrest, lookup_place, lookup_cons_eq_ite]
        by_cases hq : q = e.1
        · rw [if_pos hq, if_pos hq, lookup_eq_none_of_not_mem (hq ▸ hfirst)]
          rfl
        · rw [if_neg hq, if_neg hq]
  have hall := hfold []
  rw [List.lookup_nil, Option.or_none] at hall
  exact hall

/-- Where no name stands twice, what is found is what is there. -/
theorem lookup_eq_some_iff_mem (h : (l.map Prod.fst).Nodup) :
    l.lookup k = some v ↔ (k, v) ∈ l := by
  induction l with
  | nil => simp
  | cons e rest ih =>
      obtain ⟨hfirst, hrest⟩ := List.nodup_cons.mp h
      rw [lookup_cons_eq_ite, List.mem_cons]
      by_cases hk : k = e.1
      · subst hk
        have hout : (e.1, v) ∉ rest := fun hmem => hfirst (List.mem_map.mpr ⟨_, hmem, rfl⟩)
        simp [hout, Prod.ext_iff, eq_comm]
      · have hne : (k, v) ≠ e := fun heq => hk (congrArg Prod.fst heq)
        rw [if_neg hk, ih hrest]
        simp [hne]

/-- An entry can be taken out of a list in which no name is repeated: the others
stay where they are, and their names find what they found. -/
theorem exists_append_of_lookup (h : l.lookup k = some v) (hnodup : (l.map Prod.fst).Nodup) :
    ∃ before after, l = before ++ (k, v) :: after
      ∧ k ∉ before.map Prod.fst ∧ k ∉ after.map Prod.fst
      ∧ ((before ++ after).map Prod.fst).Nodup
      ∧ ∀ q, q ≠ k → (before ++ after).lookup q = l.lookup q := by
  obtain ⟨before, after, rfl, -⟩ := List.lookup_eq_some_iff.mp h
  rw [List.map_append, List.map_cons, List.perm_middle.nodup_iff] at hnodup
  obtain ⟨hout, hothers⟩ := List.nodup_cons.mp hnodup
  obtain ⟨hbefore, hafter⟩ := not_or.mp (mt List.mem_append.mpr hout)
  refine ⟨before, after, rfl, hbefore, hafter, ?_, fun q hq => ?_⟩
  · rw [List.map_append]
    exact hothers
  · rw [List.lookup_append, List.lookup_append, lookup_cons_eq_ite, if_neg hq]

/-- A table has its entries arranged. -/
theorem Table.entries_ofList (entries : List (String × α)) :
    (Table.ofList entries).entries = arrange entries := by
  have hfold : ∀ acc : Table α,
      (entries.foldl (fun t e => t.insert e.1 e.2) acc).entries
        = entries.foldl (fun acc e => place e.1 e.2 acc) acc.entries := by
    induction entries with
    | nil => exact fun acc => rfl
    | cons e rest ih => exact fun acc => ih _
  exact hfold Table.empty

/-- So it can be made of its own entries. -/
theorem Table.ofList_entries (t : Table α) : Table.ofList t.entries = t :=
  Table.ext_entries ((Table.entries_ofList t.entries).trans (arrange_eq_self t.ordered))

-- ============================================================ last entries

/-- The entry meets the condition, and none after it does. -/
def IsLast (P : β → Prop) (x : β) (l : List β) : Prop :=
  ∃ before after, l = before ++ x :: after ∧ P x ∧ ∀ y ∈ after, ¬P y

namespace IsLast

variable {P Q : β → Prop} {x y : β} {l : List β}

theorem mem (h : IsLast P x l) : x ∈ l := by
  obtain ⟨before, after, rfl, -, -⟩ := h
  exact List.mem_append_right before List.mem_cons_self

theorem holds (h : IsLast P x l) : P x := by
  obtain ⟨before, after, -, hx, -⟩ := h
  exact hx

theorem congr (h : ∀ x, P x ↔ Q x) : IsLast P x l ↔ IsLast Q x l := by
  rw [funext fun x => propext (h x)]

/-- One more in front is the last where there is none behind it. -/
theorem cons_iff : IsLast P x (y :: l) ↔ IsLast P x l ∨ x = y ∧ P y ∧ ∀ z ∈ l, ¬P z := by
  constructor
  · rintro ⟨before, after, hl, hx, hafter⟩
    cases before with
    | nil =>
        obtain ⟨rfl, rfl⟩ := List.cons.inj hl
        exact Or.inr ⟨rfl, hx, hafter⟩
    | cons y' before =>
        obtain ⟨-, rfl⟩ := List.cons.inj hl
        exact Or.inl ⟨before, after, rfl, hx, hafter⟩
  · rintro (⟨before, after, rfl, hx, hafter⟩ | ⟨rfl, hx, hafter⟩)
    · exact ⟨y :: before, after, rfl, hx, hafter⟩
    · exact ⟨[], l, rfl, hx, hafter⟩

/-- There is a last one as soon as there is one. -/
theorem exists_iff : (∃ x, IsLast P x l) ↔ ∃ x ∈ l, P x := by
  refine ⟨fun ⟨x, hx⟩ => ⟨x, hx.mem, hx.holds⟩, ?_⟩
  rintro ⟨x, hx, hP⟩
  induction l generalizing x with
  | nil => exact nomatch hx
  | cons y rest ih =>
      by_cases hrest : ∃ z ∈ rest, P z
      · obtain ⟨z, hz, hPz⟩ := hrest
        obtain ⟨w, hw⟩ := ih z hz hPz
        exact ⟨w, cons_iff.mpr (Or.inl hw)⟩
      · have hnone : ∀ z ∈ rest, ¬P z := fun z hz hPz => hrest ⟨z, hz, hPz⟩
        rcases List.mem_cons.mp hx with rfl | hx
        · exact ⟨x, cons_iff.mpr (Or.inr ⟨rfl, hP, hnone⟩)⟩
        · exact absurd hP (hnone x hx)

/-- Entries that fail a part of the condition play no part. -/
theorem filter_iff {p : β → Bool} :
    IsLast P x (l.filter p) ↔ IsLast (fun x => p x = true ∧ P x) x l := by
  induction l with
  | nil => simp [IsLast]
  | cons y rest ih =>
      rw [List.filter_cons, cons_iff]
      by_cases hy : p y = true
      · rw [if_pos hy, cons_iff, ih]
        simp [hy]
      · rw [if_neg hy, ih]
        simp [hy]

/-- An entry that fails the condition can be left out. -/
theorem skip_iff (hy : ¬P y) {before after : List β} :
    IsLast P x (before ++ y :: after) ↔ IsLast P x (before ++ after) := by
  induction before with
  | nil =>
      rw [List.nil_append, List.nil_append, cons_iff]
      simp [hy]
  | cons z rest ih =>
      have hnone : (∀ w ∈ rest ++ y :: after, ¬P w) ↔ ∀ w ∈ rest ++ after, ¬P w := by
        simp only [List.forall_mem_append, List.forall_mem_cons]
        simp [hy]
      rw [List.cons_append, List.cons_append, cons_iff, cons_iff, ih, hnone]

/-- Without a condition it is the one at the end. -/
theorem true_iff : IsLast (fun _ => True) x l ↔ l.getLast? = some x := by
  rw [List.getLast?_eq_some_iff]
  constructor
  · rintro ⟨before, after, rfl, -, hafter⟩
    cases after with
    | nil => exact ⟨before, rfl⟩
    | cons y rest => exact absurd trivial (hafter y List.mem_cons_self)
  · rintro ⟨before, rfl⟩
    exact ⟨before, [], rfl, trivial, nofun⟩

end IsLast

namespace Table

/-- A table has what is among its entries. -/
theorem get?_eq_some_iff_mem {t : Table α} : t.get? k = some v ↔ (k, v) ∈ t.entries :=
  lookup_eq_some_iff_mem t.ordered.nodup

/-- Nothing is lost of entries whose names are all different. -/
theorem get?_ofList (h : (l.map Prod.fst).Nodup) : (ofList l).get? k = l.lookup k := by
  unfold get?
  rw [entries_ofList, lookup_arrange h]

/-- Tables with the same look-ups are equal. -/
theorem ext_get? {s t : Table α} (h : ∀ q, s.get? q = t.get? q) : s = t := by
  have hnodup : ∀ t : Table α, t.entries.Nodup := fun t =>
    List.Pairwise.of_map Prod.fst (fun a b hne heq => hne (congrArg Prod.fst heq)) t.ordered.nodup
  have hmem : ∀ e, e ∈ s.entries ↔ e ∈ t.entries := fun e => by
    rw [← get?_eq_some_iff_mem, ← get?_eq_some_iff_mem, h]
  have hperm := (List.perm_ext_iff_of_nodup (hnodup s) (hnodup t)).mpr hmem
  refine ext_entries (hperm.eq_of_pairwise (fun a b _ _ hab hba => ?_) s.ordered t.ordered)
  exact absurd hba (String.lt_asymm hab)

variable {f : β → Option (String × α)} {l : List β} {q : String} {v : α}

/-- Of the entries of a name the last one counts, and what was there before only
where there is none. -/
theorem get?_foldl_filterMap_iff :
    ∀ {t : Table α}, ((l.filterMap f).foldl (fun t e => t.insert e.1 e.2) t).get? q = some v
      ↔ (∃ x, IsLast (fun x => ∃ w, f x = some (q, w)) x l ∧ f x = some (q, v))
        ∨ (∀ x ∈ l, ¬∃ w, f x = some (q, w)) ∧ t.get? q = some v := by
  induction l with
  | nil => intro t; simp [IsLast]
  | cons y rest ih =>
      intro t
      have hcons : (∃ x, IsLast (fun x => ∃ w, f x = some (q, w)) x (y :: rest) ∧ f x = some (q, v))
          ↔ (∃ x, IsLast (fun x => ∃ w, f x = some (q, w)) x rest ∧ f x = some (q, v))
            ∨ (∀ x ∈ rest, ¬∃ w, f x = some (q, w)) ∧ f y = some (q, v) := by
        simp only [IsLast.cons_iff, or_and_right, exists_or, and_assoc, exists_eq_left]
        refine or_congr_right ⟨fun ⟨_, hrest, hy⟩ => ⟨hrest, hy⟩, fun ⟨hrest, hy⟩ => ?_⟩
        exact ⟨⟨v, hy⟩, hrest, hy⟩
      rw [hcons, List.forall_mem_cons]
      cases hy : f y with
      | none =>
          rw [List.filterMap_cons_none hy, ih]
          simp
      | some e =>
          obtain ⟨k, w⟩ := e
          rw [List.filterMap_cons_some hy, List.foldl_cons, ih, get?_insert]
          by_cases hk : q = k
          · subst hk
            simp
          · have hk' : k ≠ q := Ne.symm hk
            simp [hk, hk']

/-- A table has of each name what the last entry of the name says. -/
theorem get?_ofList_filterMap_iff :
    (ofList (l.filterMap f)).get? q = some v
      ↔ ∃ x, IsLast (fun x => ∃ w, f x = some (q, w)) x l ∧ f x = some (q, v) := by
  unfold ofList
  rw [get?_foldl_filterMap_iff]
  simp

/-- And nothing of a name that no entry has. -/
theorem get?_ofList_filterMap_eq_none_iff :
    (ofList (l.filterMap f)).get? q = none ↔ ∀ x ∈ l, ∀ w, f x ≠ some (q, w) := by
  constructor
  · intro h x hx w hw
    have hentry : ∃ x ∈ l, ∃ w, f x = some (q, w) := ⟨x, hx, w, hw⟩
    obtain ⟨y, hy⟩ := IsLast.exists_iff.mpr hentry
    obtain ⟨v, hv⟩ := hy.holds
    rw [get?_ofList_filterMap_iff.mpr ⟨y, hy, hv⟩] at h
    cases h
  · intro h
    cases hget : (ofList (l.filterMap f)).get? q with
    | none => rfl
    | some v =>
        obtain ⟨x, hx, hv⟩ := get?_ofList_filterMap_iff.mp hget
        exact absurd hv (h x hx.mem v)

end Table

end NetworkSlice
