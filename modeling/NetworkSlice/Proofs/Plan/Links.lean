import Mathlib.Data.List.Perm.Basic
import NetworkSlice.Proofs.Plan.Acceptance
import NetworkSlice.Proofs.Slice.Mesh

/-
What a plan depends on of the links it is given, and the mesh.

Links are looked at in two places, where they are checked and where they are
resolved, and everything else of a plan is made from the slice without them
(`plan_withLinks`). So links that are checked and resolved with one result give
one plan (`plan_congr_links`). The mesh is such a case: given as if it had been
asked for, it passes and is resolved as itself, since over different names it
is the complete graph, which has no loop and no pair twice (`mesh_complete`).
-/
namespace NetworkSlice

/-- The slice with other links. -/
def Slice.withLinks (s : Slice) (given : Option (List Link)) : Slice := { s with links := given }

namespace Composer

variable {c : Composer} {s : Slice} {scope : Scope} {given given' : Option (List Link)}
  {links links' : List Link} {assignment : Option Assignment}

-- =============================================== composing without the links

theorem participantPlan_withLinks (index : Nat) (p : Participant) :
    c.participantPlan (s.withLinks given) links assignment scope index p
      = c.participantPlan s links assignment scope index p := by
  have hnames : ∀ names, neighborsOf (s.withLinks given) names = neighborsOf s names :=
    neighborsOf_congr rfl
  unfold participantPlan neighbors
  rw [hnames]
  rfl

/-- The links that are given are checked and resolved, and that is all. -/
theorem plan_withLinks :
    c.plan (s.withLinks given) scope
      = s.validate >>= fun _ => checkGiven (s.withLinks given) >>= fun _ => assign s >>= fun a =>
        c.links (s.withLinks given) scope >>= fun links => c.compose s links a scope >>= fun qs =>
          .ok ⟨s.name, links, a, qs⟩ := by
  have hcompose : c.compose (s.withLinks given) = c.compose s := by
    funext links assignment scope
    exact composeFrom_congr (fun p _ index => participantPlan_withLinks index p) 0
  unfold plan
  rw [hcompose]
  rfl

/-- Links that are checked and resolved with one result give one plan. -/
theorem plan_congr_links
    (hgiven : s.validate = .ok () →
      checkGiven (s.withLinks given) = checkGiven (s.withLinks given'))
    (hlinks : s.validate = .ok () →
      Topology.resolve s.names given c.emptyLinks = Topology.resolve s.names given' c.emptyLinks) :
    c.plan (s.withLinks given) scope = c.plan (s.withLinks given') scope := by
  rw [plan_withLinks, plan_withLinks]
  cases hvalid : s.validate with
  | error e => rfl
  | ok u =>
      have hresolved : c.links (s.withLinks given) scope = c.links (s.withLinks given') scope := by
        show (if joins s scope then Topology.resolve s.names given c.emptyLinks else .ok [])
          = if joins s scope then Topology.resolve s.names given' c.emptyLinks else .ok []
        rw [hlinks hvalid]
      rw [hgiven hvalid, hresolved]

-- ================================================================= meshes

/-- A mesh is the complete graph over its names, and what it is without saying.
It has `m (m - 1) / 2` links over `m` names, one from each place to each later
place, in lexicographic order of the places. Over different names it joins every
two of them by one link and none to itself, passes the check and is resolved as
itself under either policy. So a plan is the same whether no links are given or
the mesh over its participants, and also with an empty list where that is taken
for the mesh. -/
theorem mesh_complete (names : List String) (c : Composer) (s : Slice) (scope : Scope) :
    ((Topology.mesh names).length = names.length * (names.length - 1) / 2
        ∧ (Topology.places names.length).Pairwise (Prod.Lex (· < ·) (· < ·))
        ∧ (∀ i j, (i, j) ∈ Topology.places names.length ↔ i < j ∧ j < names.length)
        ∧ (Topology.mesh names).map some
          = (Topology.places names.length).map (Topology.linkAt? names))
      ∧ (names.Nodup →
          (∀ a ∈ names, ∀ b ∈ names, a ≠ b →
              ∃! i : Nat, ∃ l, (Topology.mesh names)[i]? = some l ∧ l.Joins a b)
            ∧ (∀ l ∈ Topology.mesh names, l.endpointA ≠ l.endpointB)
            ∧ Topology.check names (Topology.mesh names) = .ok ()
            ∧ ∀ policy,
              Topology.resolve names (some (Topology.mesh names)) policy = .ok (Topology.mesh names)
                ∧ Topology.resolve names none policy = .ok (Topology.mesh names))
      ∧ c.plan (s.withLinks (some (Topology.mesh s.names))) scope = c.plan (s.withLinks none) scope
      ∧ (c.emptyLinks = .fullMesh →
          c.plan (s.withLinks (some [])) scope = c.plan (s.withLinks none) scope) := by
  refine ⟨⟨Topology.length_mesh names, Topology.places_ordered _, fun _ _ => Topology.mem_places_iff,
    (Topology.map_linkAt?_places names).symm⟩, fun hnames => ?_, ?_, fun hpolicy => ?_⟩
  · have hsimple := Topology.mesh_simple hnames
    refine ⟨?_, hsimple.loopFree, Topology.check_eq_ok_iff.mpr hsimple,
      fun policy => ⟨Topology.resolve_mesh hnames policy, rfl⟩⟩
    intro a ha b hb hne
    exact hsimple.existsUnique_place (Topology.exists_mem_mesh ha hb hne)
  · refine plan_congr_links (fun hvalid => ?_) fun hvalid => ?_
    · exact Topology.check_eq_ok_iff.mpr
        (Topology.mesh_simple (Slice.nodup_names_of_validate hvalid))
    · exact Topology.resolve_mesh (Slice.nodup_names_of_validate hvalid) c.emptyLinks
  · refine plan_congr_links (fun _ => rfl) fun _ => ?_
    exact Topology.resolve_of_meshed (Or.inr ⟨rfl, hpolicy⟩)

/-- The three clusters of `rowSlice`, each joined to each other. -/
theorem mesh_complete_rowSlice :
    rowSlice.names.Nodup ∧ (ofSettings Settings.standard).emptyLinks = .fullMesh
      ∧ (Topology.mesh rowSlice.names).length = 3
      ∧ (∃! i : Nat, ∃ l, (Topology.mesh rowSlice.names)[i]? = some l ∧ l.Joins "west" "north")
      ∧ (ofSettings Settings.standard).plan (rowSlice.withLinks (some [])) .slice
        = (ofSettings Settings.standard).plan (rowSlice.withLinks none) .slice := by
  have hnames : rowSlice.names.Nodup := by decide
  obtain ⟨⟨hlength, -⟩, hover, -, hempty⟩ :=
    mesh_complete rowSlice.names (ofSettings Settings.standard) rowSlice .slice
  exact ⟨hnames, rfl, hlength, (hover hnames).1 "west" (by decide) "north" (by decide) (by decide),
    hempty rfl⟩

end Composer

end NetworkSlice
