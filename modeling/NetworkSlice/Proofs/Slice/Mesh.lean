import Mathlib.Data.Nat.Choose.Basic
import NetworkSlice.Proofs.Place
import NetworkSlice.Proofs.Slice.Graph

/-
The mesh as the complete graph.

A mesh has a link for each place among the names and each later place, and
nothing else. `places` lists these pairs of places in order, apart from any
names, and `map_linkAt?_places` reads the mesh off them link by link, so that
its order and its size are those of the pairs. The recursion of both is the
same: the first place with all later ones, and then the pairs without it.

Which names are joined is another matter, since a name may stand at two places.
Where none does, two names are joined at least once (`exists_mem_mesh`), and at
most once since the mesh is a simple graph. Given as if it had been asked for,
the mesh then passes the check and is resolved as itself (`resolve_mesh`).
-/
namespace NetworkSlice.Topology

variable {names : List String} {links : List Link} {a b : String}

-- ================================================================= places

/-- The places of two among `n` things, the earlier of them first. -/
def places : Nat → List (Nat × Nat)
  | 0 => []
  | n + 1 =>
    (List.range n).map (fun j => (0, j + 1)) ++ (places n).map fun p => (p.1 + 1, p.2 + 1)

theorem mem_places_iff {n i j : Nat} : (i, j) ∈ places n ↔ i < j ∧ j < n := by
  induction n generalizing i j with
  | zero => simp [places]
  | succ n ih =>
      unfold places
      rw [List.mem_append, List.mem_map, List.mem_map]
      constructor
      · rintro (⟨k, hk, heq⟩ | ⟨⟨i', j'⟩, hp, heq⟩)
        · injection heq with hi hj
          have hlt := List.mem_range.mp hk
          omega
        · injection heq with hi hj
          have hlt := ih.mp hp
          omega
      · rintro ⟨hij, hj⟩
        cases i with
        | zero => exact Or.inl ⟨j - 1, List.mem_range.mpr (by omega), by congr; omega⟩
        | succ i =>
            refine Or.inr ⟨(i, j - 1), ih.mpr (by omega), ?_⟩
            congr
            omega

/-- The pairs are listed by the first place, and by the second where the first
is the same. -/
theorem places_ordered (n : Nat) : (places n).Pairwise (Prod.Lex (· < ·) (· < ·)) := by
  induction n with
  | zero => exact List.Pairwise.nil
  | succ n ih =>
      refine List.pairwise_append.mpr ⟨?_, ?_, ?_⟩
      · refine List.pairwise_map.mpr (List.pairwise_lt_range.imp ?_)
        exact fun hlt => .right 0 (Nat.succ_lt_succ hlt)
      · refine List.pairwise_map.mpr (ih.imp ?_)
        intro p q hlex
        cases hlex with
        | left _ _ hlt => exact .left _ _ (Nat.succ_lt_succ hlt)
        | right _ hlt => exact .right _ (Nat.succ_lt_succ hlt)
      · intro p hp q hq
        obtain ⟨j, -, rfl⟩ := List.mem_map.mp hp
        obtain ⟨q, -, rfl⟩ := List.mem_map.mp hq
        exact .left _ _ (Nat.succ_pos q.1)

/-- The link between what stands at two places. -/
def linkAt? (names : List String) (p : Nat × Nat) : Option Link :=
  names[p.1]?.bind fun a => names[p.2]?.map (Link.mk a)

/-- The mesh has the links between these places, in their order. -/
theorem map_linkAt?_places (names : List String) :
    (places names.length).map (linkAt? names) = (mesh names).map some := by
  induction names with
  | nil => rfl
  | cons name rest ih =>
      have hfirst : (List.range rest.length).map (fun j => linkAt? (name :: rest) (0, j + 1))
          = (rest.map (Link.mk name)).map some := by
        calc (List.range rest.length).map (fun j => linkAt? (name :: rest) (0, j + 1))
            = ((List.range rest.length).map (fun j => rest[j]?)).map (Option.map (Link.mk name)) := by
              rw [List.map_map]; rfl
          _ = (rest.map some).map (Option.map (Link.mk name)) := by rw [map_getElem?_range]
          _ = (rest.map (Link.mk name)).map some := by rw [List.map_map, List.map_map]; rfl
      show ((List.range rest.length).map (fun j => (0, j + 1))
          ++ (places rest.length).map fun p : Nat × Nat => (p.1 + 1, p.2 + 1)).map
            (linkAt? (name :: rest))
        = (rest.map (Link.mk name) ++ mesh rest).map some
      rw [List.map_append, List.map_append, ← ih, ← hfirst, List.map_map, List.map_map]
      rfl

/-- There is a link for each of them. -/
theorem length_mesh (names : List String) :
    (mesh names).length = names.length * (names.length - 1) / 2 := by
  rw [← Nat.choose_two_right]
  induction names with
  | nil => rfl
  | cons name rest ih =>
      rw [mesh, List.length_append, List.length_map, ih, List.length_cons, Nat.choose_succ_succ,
        Nat.choose_one_right]

-- ============================================================ joined names

/-- Different names are joined by the mesh, whichever stands first. -/
theorem exists_mem_mesh (ha : a ∈ names) (hb : b ∈ names) (hne : a ≠ b) :
    ∃ l ∈ mesh names, l.Joins a b := by
  induction names with
  | nil => cases ha
  | cons name rest ih =>
      have hlink : ∀ {other}, other ∈ rest → Link.mk name other ∈ mesh (name :: rest) :=
        fun hother => List.mem_append_left _ (List.mem_map_of_mem hother)
      rcases List.mem_cons.mp ha with rfl | harest
      · rcases List.mem_cons.mp hb with rfl | hbrest
        · exact absurd rfl hne
        · exact ⟨_, hlink hbrest, Or.inl ⟨rfl, rfl⟩⟩
      · rcases List.mem_cons.mp hb with rfl | hbrest
        · exact ⟨_, hlink harest, Or.inr ⟨rfl, rfl⟩⟩
        · obtain ⟨l, hl, hjoins⟩ := ih harest hbrest
          exact ⟨l, List.mem_append_right _ hl, hjoins⟩

/-- Names that a simple graph joins are joined at one place. -/
theorem Simple.existsUnique_place (h : Simple names links) (hjoined : ∃ l ∈ links, l.Joins a b) :
    ∃! i : Nat, ∃ l, links[i]? = some l ∧ l.Joins a b := by
  refine existsUnique_getElem? (h.distinct.imp ?_) hjoined
  intro l l' hdistinct hjoins hjoins'
  apply hdistinct
  rcases hjoins' with ⟨hA, hB⟩ | ⟨hA, hB⟩
  · rw [hA, hB]; exact hjoins
  · rw [hA, hB]; exact hjoins.symm

-- ============================================================== given back

/-- The mesh over different names is resolved as itself. -/
theorem resolve_mesh (h : names.Nodup) (policy : EmptyLinks) :
    resolve names (some (mesh names)) policy = .ok (mesh names) := by
  have hcheck : check names (mesh names) = .ok () := check_eq_ok_iff.mpr (mesh_simple h)
  cases hmesh : mesh names with
  | nil =>
      -- nothing to link: both policies come to no links
      cases policy with
      | fullMesh => exact congrArg Except.ok hmesh
      | noConnectivity => rfl
  | cons l rest =>
      rw [hmesh] at hcheck
      show (check names (l :: rest) >>= fun _ => pure (l :: rest)) = _
      rw [hcheck]
      rfl

end NetworkSlice.Topology
