import NetworkSlice.Proofs.Attempt
import NetworkSlice.Slice.Topology

/-
Link sets as simple graphs.

A link means the unordered pair of its ends: `Link.Joins` says so of two
names, `Link.key` is one text for each pair (`key_eq_iff`), and the end across
from a name is the other one of the pair (`otherEnd?_eq_some_iff`). A link set
is `Simple` over some names when it has no loop, no end outside the names and
no pair twice. That is what checking accepts (`check_eq_ok_iff`), what the
mesh over different names is (`mesh_simple`), and so what every link set over
different names is that is resolved at all (`resolve_simple`). The mesh over
names of which one is repeated has a loop (`nodup_of_mesh_loopFree`), and no
other link set that is resolved fails to be simple (`resolve_simple_iff`).

In a simple graph no name is across from another twice (`nodup_across`), and
every link is seen from both of its ends and nowhere else (`length_across`).
-/
namespace NetworkSlice

-- ============================================================ single links

namespace Link

variable {l l' : Link} {a b : String}

/-- The link is between the two names, whichever end is written first. -/
def Joins (l : Link) (a b : String) : Prop :=
  (l.endpointA = a ∧ l.endpointB = b) ∨ (l.endpointA = b ∧ l.endpointB = a)

theorem Joins.symm (h : l.Joins a b) : l.Joins b a := Or.symm h

/-- The key does not tell which end is written first. -/
theorem key_comm (a b : String) : (Link.mk a b).key = (Link.mk b a).key := by
  unfold key
  by_cases hba : b < a
  · rw [if_pos hba, if_neg (String.lt_asymm hba)]
  · rw [if_neg hba]
    by_cases hab : a < b
    · rw [if_pos hab]
    · rw [if_neg hab, Std.le_antisymm (String.not_lt.mp hba) (String.not_lt.mp hab)]

/-- Two links have one key when they join the same names. -/
theorem key_eq_iff : l.key = l'.key ↔ l.Joins l'.endpointA l'.endpointB := by
  obtain ⟨a, b⟩ := l
  obtain ⟨a', b'⟩ := l'
  constructor
  · intro h
    unfold key at h
    split at h
    · split at h
      · exact Or.inl ⟨congrArg Prod.snd h, congrArg Prod.fst h⟩
      · exact Or.inr ⟨congrArg Prod.snd h, congrArg Prod.fst h⟩
    · split at h
      · exact Or.inr ⟨congrArg Prod.fst h, congrArg Prod.snd h⟩
      · exact Or.inl ⟨congrArg Prod.fst h, congrArg Prod.snd h⟩
  · rintro (⟨ha, hb⟩ | ⟨ha, hb⟩)
    · subst ha hb; rfl
    · subst ha hb; exact key_comm a b

/-- The other end of a link is the other one of the names it joins. -/
theorem otherEnd?_eq_some_iff : l.otherEnd? a = some b ↔ l.Joins a b := by
  unfold otherEnd? Joins
  by_cases ha : l.endpointA = a
  · rw [if_pos ha, Option.some.injEq]
    constructor
    · exact fun hb => Or.inl ⟨ha, hb⟩
    · rintro (⟨-, hb⟩ | ⟨hb, hb'⟩)
      · exact hb
      · exact hb'.trans (ha.symm.trans hb)
  · rw [if_neg ha]
    by_cases hb : l.endpointB = a
    · simp [ha, hb]
    · simp [ha, hb]

end Link

-- ============================================================== link sets

namespace Topology

variable {names : List String} {links : List Link} {given : Option (List Link)}
  {policy : EmptyLinks}

/-- The links are a simple graph over the names. -/
structure Simple (names : List String) (links : List Link) : Prop where
  loopFree : ∀ l ∈ links, l.endpointA ≠ l.endpointB
  ends : ∀ l ∈ links, l.endpointA ∈ names ∧ l.endpointB ∈ names
  distinct : links.Pairwise fun l l' => ¬ l.Joins l'.endpointA l'.endpointB

theorem simple_nil (names : List String) : Simple names [] where
  loopFree _ hl := nomatch hl
  ends _ hl := nomatch hl
  distinct := List.Pairwise.nil

/-- A link in front of a simple graph: no loop, its ends known, its pair not
yet there. -/
theorem simple_cons_iff {l : Link} :
    Simple names (l :: links)
      ↔ l.endpointA ≠ l.endpointB ∧ l.endpointA ∈ names ∧ l.endpointB ∈ names
        ∧ (∀ l' ∈ links, l'.key ≠ l.key) ∧ Simple names links := by
  constructor
  · rintro ⟨hloop, hends, hdistinct⟩
    obtain ⟨hfirst, hrest⟩ := List.pairwise_cons.mp hdistinct
    refine ⟨hloop l List.mem_cons_self, (hends l List.mem_cons_self).1,
      (hends l List.mem_cons_self).2, ?_, ?_⟩
    · intro l' hl' hkey
      exact hfirst l' hl' (Link.key_eq_iff.mp hkey.symm)
    · exact ⟨fun l' hl' => hloop l' (List.mem_cons_of_mem l hl'),
        fun l' hl' => hends l' (List.mem_cons_of_mem l hl'), hrest⟩
  · rintro ⟨hne, hA, hB, hfirst, hloop, hends, hdistinct⟩
    refine ⟨?_, ?_, List.pairwise_cons.mpr ⟨?_, hdistinct⟩⟩
    · intro l' hl'
      rcases List.mem_cons.mp hl' with rfl | hl'
      · exact hne
      · exact hloop l' hl'
    · intro l' hl'
      rcases List.mem_cons.mp hl' with rfl | hl'
      · exact ⟨hA, hB⟩
      · exact hends l' hl'
    · intro l' hl' hjoins
      exact hfirst l' hl' (Link.key_eq_iff.mpr hjoins).symm

-- =============================================================== checking

/-- Nothing is wrong with a link that is no loop, whose ends are known and
whose pair was not seen. -/
theorem offence?_eq_none_iff {seen : List (String × String)} {l : Link} :
    offence? names seen l = none
      ↔ l.endpointA ≠ l.endpointB ∧ l.endpointA ∈ names ∧ l.endpointB ∈ names
        ∧ l.key ∉ seen := by
  unfold offence? Link.isSelfLoop
  by_cases hne : l.endpointA = l.endpointB
  · simp [hne]
  · by_cases hA : l.endpointA ∈ names
    · by_cases hB : l.endpointB ∈ names
      · by_cases hseen : l.key ∈ seen
        · simp [hne, hA, hB, hseen]
        · simp [hne, hA, hB, hseen]
      · simp [hne, hA, hB]
    · simp [hne, hA]

/-- Links pass when they are a simple graph without the pairs seen before. -/
theorem checkFrom_eq_ok_iff :
    ∀ {seen : List (String × String)}, checkFrom names seen links = .ok ()
      ↔ Simple names links ∧ ∀ l ∈ links, l.key ∉ seen := by
  induction links with
  | nil => intro seen; simp [checkFrom, simple_nil]
  | cons l rest ih =>
      intro seen
      rw [simple_cons_iff, List.forall_mem_cons]
      unfold checkFrom
      cases hoffence : offence? names seen l with
      | some e =>
          constructor
          · intro h; cases h
          · rintro ⟨⟨hne, hA, hB, -, -⟩, hseen, -⟩
            have hnone := offence?_eq_none_iff.mpr ⟨hne, hA, hB, hseen⟩
            rw [hoffence] at hnone
            cases hnone
      | none =>
          obtain ⟨hne, hA, hB, hseen⟩ := offence?_eq_none_iff.mp hoffence
          rw [show (checkFrom names (l.key :: seen) rest = .ok () ↔ _) from ih]
          constructor
          · rintro ⟨hsimple, hfresh⟩
            refine ⟨⟨hne, hA, hB, ?_, hsimple⟩, hseen, ?_⟩
            · intro l' hl' hkey
              exact hfresh l' hl' (hkey ▸ List.mem_cons_self)
            · intro l' hl' h
              exact hfresh l' hl' (List.mem_cons_of_mem _ h)
          · rintro ⟨⟨-, -, -, hfirst, hsimple⟩, -, hfresh⟩
            refine ⟨hsimple, ?_⟩
            intro l' hl' h
            rcases List.mem_cons.mp h with hkey | h
            · exact hfirst l' hl' hkey
            · exact hfresh l' hl' h

/-- The check accepts the simple graphs over the names. -/
theorem check_eq_ok_iff : check names links = .ok () ↔ Simple names links := by
  have hfrom : checkFrom names [] links = .ok () ↔ Simple names links := by
    rw [checkFrom_eq_ok_iff]
    exact and_iff_left fun l _ => List.not_mem_nil
  rw [← hfrom]
  unfold check
  cases checkFrom names [] links with
  | error e => exact ⟨(fun h => nomatch h), (fun h => nomatch h)⟩
  | ok u => exact ⟨fun _ => rfl, fun _ => rfl⟩

-- ============================================================== resolving

/-- A mesh stays among its names. -/
theorem mem_mesh {l : Link} (h : l ∈ mesh names) :
    l.endpointA ∈ names ∧ l.endpointB ∈ names := by
  induction names with
  | nil => cases h
  | cons name rest ih =>
      rcases List.mem_append.mp h with h | h
      · obtain ⟨other, hother, rfl⟩ := List.mem_map.mp h
        exact ⟨List.mem_cons_self, List.mem_cons_of_mem name hother⟩
      · obtain ⟨hA, hB⟩ := ih h
        exact ⟨List.mem_cons_of_mem name hA, List.mem_cons_of_mem name hB⟩

/-- The mesh over different names is a simple graph: the links of one name to
the later ones have different second ends, and it is in no link after them. -/
theorem mesh_simple (h : names.Nodup) : Simple names (mesh names) := by
  induction names with
  | nil => exact simple_nil []
  | cons name rest ih =>
      obtain ⟨hname, hrest⟩ := List.nodup_cons.mp h
      have hmesh := ih hrest
      refine ⟨?_, fun l hl => mem_mesh hl, List.pairwise_append.mpr ⟨?_, hmesh.distinct, ?_⟩⟩
      · intro l hl
        rcases List.mem_append.mp hl with hl | hl
        · obtain ⟨other, hother, rfl⟩ := List.mem_map.mp hl
          exact fun heq : name = other => hname (heq ▸ hother)
        · exact hmesh.loopFree l hl
      · refine List.pairwise_map.mpr (hrest.imp_of_mem ?_)
        intro x y hx hy hne hjoins
        rcases hjoins with ⟨-, hxy⟩ | ⟨hname', -⟩
        · exact hne hxy
        · have hname' : name = y := hname'
          exact hname (hname' ▸ hy)
      · intro l hl l' hl' hjoins
        obtain ⟨other, hother, rfl⟩ := List.mem_map.mp hl
        obtain ⟨hA, hB⟩ := mem_mesh hl'
        rcases hjoins with ⟨heq, -⟩ | ⟨heq, -⟩
        · have heq : name = l'.endpointA := heq
          exact hname (heq ▸ hA)
        · have heq : name = l'.endpointB := heq
          exact hname (heq ▸ hB)

/-- Links are resolved unless some are given that do not pass the check. -/
theorem resolve_eq_error_iff {e : SliceError} :
    resolve names given policy = .error e
      ↔ ∃ links, given = some links ∧ check names links = .error e := by
  unfold resolve
  split
  · simp
  · -- an empty list passes, whatever is made of it
    cases policy <;> simp [check, checkFrom]
  · next links hne =>
      rw [bind_eq_error]
      constructor
      · rintro (h | ⟨u, -, h⟩)
        · exact ⟨links, rfl, h⟩
        · cases h
      · rintro ⟨links', h, hcheck⟩
        injection h with h
        exact Or.inl (h ▸ hcheck)

/-- The links are not given but made, one from each name to every later one. -/
def Meshed (given : Option (List Link)) (policy : EmptyLinks) : Prop :=
  given = none ∨ given = some [] ∧ policy = .fullMesh

/-- Where a mesh is asked for, it is laid. -/
theorem resolve_of_meshed (h : Meshed given policy) :
    resolve names given policy = .ok (mesh names) := by
  obtain rfl | ⟨rfl, rfl⟩ := h
  · rfl
  · rfl

/-- Links that are not made are none, or have passed the check. -/
theorem simple_of_not_meshed (h : resolve names given policy = .ok links)
    (hgiven : ¬Meshed given policy) : Simple names links := by
  unfold resolve at h
  split at h
  · exact absurd (Or.inl rfl) hgiven
  · cases policy with
    | fullMesh => exact absurd (Or.inr ⟨rfl, rfl⟩) hgiven
    | noConnectivity =>
        injection h with h
        exact h ▸ simple_nil names
  · obtain ⟨u, hcheck, h⟩ := bind_eq_ok.mp h
    injection h with h
    exact h ▸ check_eq_ok_iff.mp hcheck

/-- A name that is repeated is linked to itself by the mesh. -/
theorem nodup_of_mesh_loopFree (h : ∀ l ∈ mesh names, l.endpointA ≠ l.endpointB) :
    names.Nodup := by
  induction names with
  | nil => exact List.nodup_nil
  | cons name rest ih =>
      refine List.nodup_cons.mpr ⟨fun hname => ?_, ih fun l hl => ?_⟩
      · have hloop : Link.mk name name ∈ mesh (name :: rest) :=
          List.mem_append_left _ (List.mem_map_of_mem hname)
        exact h _ hloop rfl
      · exact h l (List.mem_append_right _ hl)

/-- Links that are resolved are a simple graph unless they are the mesh over
names of which one is repeated. -/
theorem resolve_simple_iff (h : resolve names given policy = .ok links) :
    Simple names links ↔ (Meshed given policy → names.Nodup) := by
  constructor
  · intro hsimple hgiven
    rw [resolve_of_meshed hgiven] at h
    injection h with h
    exact nodup_of_mesh_loopFree (h ▸ hsimple).loopFree
  · intro hnames
    by_cases hgiven : Meshed given policy
    · rw [resolve_of_meshed hgiven] at h
      injection h with h
      exact h ▸ mesh_simple (hnames hgiven)
    · exact simple_of_not_meshed h hgiven

/-- So over different names they always are. -/
theorem resolve_simple (h : resolve names given policy = .ok links) (hnames : names.Nodup) :
    Simple names links :=
  (resolve_simple_iff h).mpr fun _ => hnames

/-- Whatever is laid stays among the names. -/
theorem ends_of_resolve (h : resolve names given policy = .ok links) :
    ∀ l ∈ links, l.endpointA ∈ names ∧ l.endpointB ∈ names := by
  by_cases hgiven : Meshed given policy
  · rw [resolve_of_meshed hgiven] at h
    injection h with h
    exact fun l hl => mem_mesh (h ▸ hl)
  · exact (simple_of_not_meshed h hgiven).ends

-- ============================================================ ends across

/-- The names that links join to a name, in the order of the links. -/
def across (links : List Link) (name : String) : List String :=
  links.filterMap fun l => l.otherEnd? name

theorem mem_across_iff {a b : String} : b ∈ across links a ↔ ∃ l ∈ links, l.Joins a b := by
  unfold across
  rw [List.mem_filterMap]
  simp only [Link.otherEnd?_eq_some_iff]

/-- Two links from one name lead to different names. -/
theorem nodup_across (h : Simple names links) (a : String) : (across links a).Nodup := by
  unfold across
  refine List.pairwise_filterMap.mpr (h.distinct.imp ?_)
  rintro l l' hdistinct b hb b' hb' rfl
  have hl := Link.otherEnd?_eq_some_iff.mp hb
  apply hdistinct
  rcases Link.otherEnd?_eq_some_iff.mp hb' with ⟨hA, hB⟩ | ⟨hA, hB⟩
  · rw [hA, hB]; exact hl
  · rw [hA, hB]; exact hl.symm

/-- No name is across from itself or from a name outside. -/
theorem Simple.across {a b : String} (h : Simple names links) (hb : b ∈ across links a) :
    b ≠ a ∧ b ∈ names := by
  obtain ⟨l, hl, hjoins⟩ := mem_across_iff.mp hb
  have hloop := h.loopFree l hl
  have hends := h.ends l hl
  rcases hjoins with ⟨hA, hB⟩ | ⟨hA, hB⟩
  · rw [hA, hB] at hloop hends
    exact ⟨hloop.symm, hends.2⟩
  · rw [hA, hB] at hloop hends
    exact ⟨hloop, hends.1⟩

/-- A link is seen from its two ends. -/
theorem length_filterMap_otherEnd? {l : Link} (hnames : names.Nodup)
    (hloop : l.endpointA ≠ l.endpointB) (hA : l.endpointA ∈ names) (hB : l.endpointB ∈ names) :
    (names.filterMap l.otherEnd?).length = 2 := by
  have hcount : (names.filterMap l.otherEnd?).length
      = names.count l.endpointA + names.count l.endpointB := by
    clear hA hB hnames
    induction names with
    | nil => rfl
    | cons n rest ih =>
        rw [List.count_cons, List.count_cons]
        by_cases hnA : n = l.endpointA
        · subst hnA
          have hsome : l.otherEnd? l.endpointA = some l.endpointB := if_pos rfl
          rw [List.filterMap_cons_some hsome, List.length_cons, ih]
          simp [hloop]
          omega
        · by_cases hnB : n = l.endpointB
          · subst hnB
            have hsome : l.otherEnd? l.endpointB = some l.endpointA :=
              (if_neg hloop).trans (if_pos rfl)
            rw [List.filterMap_cons_some hsome, List.length_cons, ih]
            simp [hnA]
            omega
          · have hnone : l.otherEnd? n = none :=
              (if_neg (Ne.symm hnA)).trans (if_neg (Ne.symm hnB))
            rw [List.filterMap_cons_none hnone, ih]
            simp [hnA, hnB]
  rw [hcount, hnames.count, hnames.count, if_pos hA, if_pos hB]

/-- Every link is seen from both of its ends, and so counted twice among the
ends across from all names. -/
theorem length_across (h : Simple names links) (hnames : names.Nodup) :
    (names.flatMap (across links)).length = 2 * links.length := by
  have hsplit : ∀ (l : Link) (rest : List Link) (ns : List String),
      (ns.flatMap (across (l :: rest))).length
        = (ns.filterMap l.otherEnd?).length + (ns.flatMap (across rest)).length := by
    intro l rest ns
    induction ns with
    | nil => rfl
    | cons n ns ih =>
        rw [List.flatMap_cons, List.flatMap_cons, List.length_append, List.length_append, ih]
        cases hend : l.otherEnd? n with
        | none => simp [Topology.across, hend]; omega
        | some b => simp [Topology.across, hend]; omega
  induction links with
  | nil =>
      have hnone : names.flatMap (Topology.across []) = [] :=
        List.flatMap_eq_nil_iff.mpr fun n _ => rfl
      rw [hnone]
      rfl
  | cons l rest ih =>
      obtain ⟨hloop, hA, hB, -, hrest⟩ := simple_cons_iff.mp h
      rw [hsplit, ih hrest, length_filterMap_otherEnd? hnames hloop hA hB, List.length_cons]
      omega

end Topology

end NetworkSlice
