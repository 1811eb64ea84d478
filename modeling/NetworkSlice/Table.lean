/-
Tables: finite maps from names, kept in ascending order of the name.

Labels, credentials and listed secrets are tables. The order is part of the
type, so two tables with the same look-ups are equal and writing one out
needs no sorting. `place` is the list operation underneath; JSON objects use
it too.
-/
namespace NetworkSlice

-- ================================================== placing into a list

/-- Put `(k, v)` into a list ordered by name, in the stead of an entry that
has the name already. -/
def place {α : Type} (k : String) (v : α) : List (String × α) → List (String × α)
  | [] => [(k, v)]
  | (k', v') :: rest =>
    if k < k' then (k, v) :: (k', v') :: rest
    else if k = k' then (k, v) :: rest
    else (k', v') :: place k v rest

/-- The entries in ascending order of name; of two with one name the later
stays. -/
def arrange {α : Type} (entries : List (String × α)) : List (String × α) :=
  entries.foldl (fun acc e => place e.1 e.2 acc) []

/-- Names ascend strictly. -/
def Ordered {α : Type} (entries : List (String × α)) : Prop :=
  entries.Pairwise fun a b => a.1 < b.1

/-- Of two names one comes first. -/
theorem lt_of_not_lt_of_ne {a b : String} (h : ¬ a < b) (hne : a ≠ b) : b < a :=
  Std.lt_of_le_of_ne (String.not_lt.mp h) (Ne.symm hne)

/-- Nothing else comes into a list by placing an entry. -/
theorem eq_or_mem_of_mem_place {α : Type} {k : String} {v : α} {e : String × α} :
    ∀ {l : List (String × α)}, e ∈ place k v l → e = (k, v) ∨ e ∈ l
  | [], h => by simpa [place] using h
  | (k', v') :: rest, h => by
    unfold place at h
    split at h
    · simpa using h
    · split at h
      · rcases List.mem_cons.mp h with h | h
        · exact Or.inl h
        · exact Or.inr (List.mem_cons_of_mem _ h)
      · rcases List.mem_cons.mp h with h | h
        · exact Or.inr (h ▸ List.mem_cons_self ..)
        · rcases eq_or_mem_of_mem_place h with h | h
          · exact Or.inl h
          · exact Or.inr (List.mem_cons_of_mem _ h)

/-- Placing keeps the order. -/
theorem Ordered.place {α : Type} {k : String} {v : α} :
    ∀ {l : List (String × α)}, Ordered l → Ordered (NetworkSlice.place k v l)
  | [], _ => by simp [NetworkSlice.place, Ordered]
  | (k', v') :: rest, h => by
    unfold Ordered at h ⊢
    obtain ⟨hfirst, hrest⟩ := List.pairwise_cons.mp h
    unfold NetworkSlice.place
    split
    · rename_i hlt
      refine List.pairwise_cons.mpr ⟨fun e he => ?_, h⟩
      rcases List.mem_cons.mp he with rfl | he
      · exact hlt
      · exact String.lt_trans hlt (hfirst e he)
    · split
      · rename_i heq
        exact List.pairwise_cons.mpr ⟨fun e he => heq ▸ hfirst e he, hrest⟩
      · rename_i hnlt hne
        refine List.pairwise_cons.mpr ⟨fun e he => ?_, Ordered.place hrest⟩
        rcases eq_or_mem_of_mem_place he with rfl | he
        · exact lt_of_not_lt_of_ne hnlt hne
        · exact hfirst e he

/-- Looking a name up in a list with a first entry. -/
theorem lookup_cons_eq_ite {α : Type} (q k : String) (v : α) (rest : List (String × α)) :
    ((k, v) :: rest).lookup q = if q = k then some v else rest.lookup q := by
  rw [List.lookup_cons]
  by_cases h : q = k
  · simp [h]
  · rw [beq_eq_false_iff_ne.mpr h, if_neg h]

/-- Looking a name up after it was placed. -/
theorem lookup_place {α : Type} (k q : String) (v : α) :
    ∀ l : List (String × α),
      (place k v l).lookup q = if q = k then some v else l.lookup q
  | [] => by rw [place, lookup_cons_eq_ite]
  | (k', v') :: rest => by
    unfold place
    split
    · rw [lookup_cons_eq_ite]
    · split
      · rename_i heq
        subst heq
        by_cases h : q = k <;> simp [lookup_cons_eq_ite, h]
      · rename_i hne
        rw [lookup_cons_eq_ite, lookup_cons_eq_ite, lookup_place k q v rest]
        by_cases h : q = k'
        · have hqk : q ≠ k := fun e => hne (e.symm.trans h)
          subst h
          simp [hqk]
        · simp [h]

-- ========================================================== the type

/-- A finite map from names, in ascending order of the name. -/
structure Table (α : Type) where
  entries : List (String × α)
  ordered : Ordered entries

namespace Table

variable {α : Type}

/-- The table without entries. -/
def empty : Table α := ⟨[], List.Pairwise.nil⟩

instance : Inhabited (Table α) := ⟨empty⟩

/-- Two tables are equal when their entries are. -/
theorem ext_entries {s t : Table α} (h : s.entries = t.entries) : s = t := by
  cases s; cases t; cases h; rfl

instance [DecidableEq α] : DecidableEq (Table α) := fun s t =>
  decidable_of_iff (s.entries = t.entries) ⟨ext_entries, fun h => h ▸ rfl⟩

/-- Set the entry of `k`. -/
def insert (t : Table α) (k : String) (v : α) : Table α :=
  ⟨place k v t.entries, Ordered.place t.ordered⟩

/-- The entry of `k`. -/
def get? (t : Table α) (k : String) : Option α :=
  t.entries.lookup k

/-- How many names have an entry. -/
def size (t : Table α) : Nat :=
  t.entries.length

/-- Insert the entries in turn, so that the last one of a name stays. -/
def ofList (entries : List (String × α)) : Table α :=
  entries.foldl (fun t e => t.insert e.1 e.2) empty

/-- Apply `f` to every entry. -/
def map {β : Type} (f : α → β) (t : Table α) : Table β :=
  ⟨t.entries.map fun e => (e.1, f e.2), by
    have h := t.ordered
    unfold Ordered at h ⊢
    exact List.pairwise_map.mpr h⟩

@[simp] theorem get?_empty (k : String) : (empty : Table α).get? k = none := rfl

/-- An entry is found under its name, and the others as before. -/
@[simp] theorem get?_insert (t : Table α) (k q : String) (v : α) :
    (t.insert k v).get? q = if q = k then some v else t.get? q :=
  lookup_place k q v t.entries

end Table

end NetworkSlice
