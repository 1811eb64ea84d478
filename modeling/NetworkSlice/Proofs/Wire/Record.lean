import NetworkSlice.Wire.Record
import NetworkSlice.Proofs.Attempt
import NetworkSlice.Proofs.Wire.Format

/-
Records that read what they write.

A member is faithful if its format is and if a value that is left out is the
one the member counts as when it is not there. An object that is read has for
every member what was written for it, or nothing where nothing was written, so
each slot holds the value (`holds_fill`). Slots that hold their values are
collected to the whole record (`collect_of_holds`), and then the walk goes by
the names alone (`walk_fill_eq_ok_iff`): an object is read when its members are
`Clean` and its slots hold the values (`decodeMembers_iff_holds`). None of this
asks for an order of the members: what is read may be any list in which no name
is repeated and each name finds what was written (`Written.decodeMembers`).
-/
namespace NetworkSlice.Wire

variable {α β φ : Type} {src : Source} {f : Format α} {name : String}

-- ================================================================== members

/-- A value is read back where it is written, and is the default where it is
left out. -/
structure Member.Faithful (m : Member α) : Prop where
  format : m.format.Faithful
  default : ∀ a, m.omits a = true → m.default = some a

namespace Member

/-- A member that must be there is written always. -/
theorem Faithful.required (h : f.Faithful) : (Member.required name f).Faithful :=
  ⟨h, fun _ homits => nomatch homits⟩

theorem Faithful.defaulted (h : f.Faithful) (default : α) :
    (Member.defaulted name f default).Faithful :=
  ⟨h, fun _ homits => nomatch homits⟩

/-- What is left out counts as nothing, and nothing else is `null`. -/
theorem Faithful.optional (h : f.Faithful) (hnull : ∀ a, f.encode a ≠ .null) :
    (Member.optional name f).Faithful := by
  refine ⟨h.option hnull, fun o homits => ?_⟩
  cases o with
  | none => rfl
  | some a => exact nomatch homits

/-- A list is left out where it is empty. -/
theorem Faithful.listed (h : f.Faithful) : (Member.listed name f).Faithful := by
  refine ⟨h.list, fun as homits => ?_⟩
  cases as with
  | nil => rfl
  | cons a rest => exact nomatch homits

end Member

/-- All members are faithful. -/
def Fields.Faithful : {φ : Type} → Fields φ → Prop
  | _, .nil => True
  | _, .cons member rest => member.Faithful ∧ rest.Faithful

namespace Fields

-- ============================================================ what is written

/-- Only members of the record are written, each at most once. -/
theorem names_encode_sublist (fields : Fields φ) (b : φ) :
    ((fields.encode b).map Prod.fst).Sublist fields.names := by
  induction fields with
  | nil => exact List.Sublist.slnil
  | cons member rest ih =>
      obtain ⟨a, b⟩ := b
      rw [encode]
      split
      · exact (ih b).cons _
      · exact (ih b).cons_cons _

/-- Among the members of a value a name finds the document of its value. -/
theorem find?_ofMembers (members : List (String × Json)) :
    find? name (Doc.ofMembers members) = (members.lookup name).map .ofJson := by
  induction members with
  | nil => rw [Doc.ofMembers]; rfl
  | cons e rest ih =>
      rw [Doc.ofMembers, lookup_cons_eq_ite, find?, ih]
      by_cases h : name = e.1
      · rw [if_pos h, if_pos h.symm]
        rfl
      · rw [if_neg h, if_neg (Ne.symm h)]

section

variable {before after docs : List (Except Fault String × Doc)} {doc : Doc}

theorem find?_eq_none_iff : find? name docs = none ↔ ∀ m ∈ docs, m.1 ≠ .ok name := by
  induction docs with
  | nil => exact iff_of_true rfl nofun
  | cons m rest ih =>
      rw [List.forall_mem_cons, ← ih]
      obtain ⟨_ | n, doc⟩ := m
      · exact (and_iff_right nofun).symm
      · rw [find?]
        by_cases hn : n = name
        · rw [if_pos hn]
          exact iff_of_false nofun fun h => h.1 (congrArg Except.ok hn)
        · rw [if_neg hn]
          exact (and_iff_right fun h => hn (Except.ok.inj h)).symm

/-- What is found stands between the other members. -/
theorem exists_append_of_find? (h : find? name docs = some doc) :
    ∃ before after, docs = before ++ (.ok name, doc) :: after := by
  induction docs with
  | nil => cases h
  | cons m rest ih =>
      have hrest : find? name rest = some doc →
          ∃ before after, m :: rest = before ++ (.ok name, doc) :: after := fun h => by
        obtain ⟨before, after, rfl⟩ := ih h
        exact ⟨m :: before, after, rfl⟩
      obtain ⟨_ | n, first⟩ := m
      · exact hrest h
      · rw [find?] at h
        by_cases hn : n = name
        · rw [if_pos hn] at h
          cases h
          exact ⟨[], rest, by rw [hn]; rfl⟩
        · rw [if_neg hn] at h
          exact hrest h

/-- A name that stands once finds what stands there. -/
theorem find?_insert (h : ∀ m ∈ before ++ after, m.1 ≠ .ok name) :
    find? name (before ++ (.ok name, doc) :: after) = some doc := by
  induction before with
  | nil => exact if_pos rfl
  | cons m rest ih =>
      obtain ⟨hm, hrest⟩ := List.forall_mem_cons.mp h
      obtain ⟨_ | n, _⟩ := m
      · exact ih hrest
      · rw [List.cons_append, find?, if_neg fun heq => hm (congrArg Except.ok heq), ih hrest]

theorem find?_insert_of_ne {other : String} (h : other ≠ name) :
    find? name (before ++ (.ok other, doc) :: after) = find? name (before ++ after) := by
  induction before with
  | nil => exact if_neg h
  | cons m rest ih =>
      obtain ⟨_ | n, _⟩ := m
      · exact ih
      · rw [List.cons_append, List.cons_append, find?, find?, ih]

end

end Fields

-- ==================================================================== slots

/-- Every slot holds its value, or nothing where the value is the default. -/
def Slots.Holds : {φ : Type} → Slots φ → φ → Prop
  | _, .nil, () => True
  | _, .cons member slot rest, (a, b) =>
    (slot = some (.ok a) ∨ slot = none ∧ member.default = some a) ∧ rest.Holds b

namespace Slots

theorem collect_of_holds {slots : Slots φ} {b : φ} (h : slots.Holds b) :
    slots.collect = .ok b := by
  induction slots with
  | nil => rfl
  | cons member slot rest ih =>
      obtain ⟨a, b⟩ := b
      obtain ⟨hslot, hrest⟩ := h
      rcases hslot with rfl | ⟨rfl, hdefault⟩
      · rw [collect, ih hrest]
        rfl
      · rw [collect, ih hrest]
        simp only [hdefault]
        rfl

/-- Slots are collected into the value that they hold, and into no other. -/
theorem collect_eq_ok_iff {slots : Slots φ} {b : φ} :
    slots.collect = .ok b ↔ slots.Holds b := by
  refine ⟨fun h => ?_, collect_of_holds⟩
  induction slots with
  | nil => trivial
  | cons member slot rest ih =>
      have hslot : ∃ a, (slot = some (.ok a) ∨ slot = none ∧ member.default = some a)
          ∧ (rest.collect >>= fun b => pure (a, b)) = .ok b := by
        unfold collect at h
        cases slot with
        | some result =>
            obtain ⟨a, ha, h⟩ := bind_eq_ok.mp h
            exact ⟨a, Or.inl (congrArg some ha), h⟩
        | none =>
            cases hdefault : member.default with
            | some a => rw [hdefault] at h; exact ⟨a, Or.inr ⟨rfl, rfl⟩, h⟩
            | none => rw [hdefault] at h; cases h
      obtain ⟨a, ha, h⟩ := hslot
      obtain ⟨b', hb, h⟩ := bind_eq_ok.mp h
      injection h with h
      subst h
      exact ⟨ha, ih hb⟩

/-- Where the slots hold their values no member gives an error. -/
theorem outcome?_fill {fields : Fields φ} {docs : List (Except Fault String × Doc)} {b : φ}
    (h : (fields.fill src docs).Holds b) (name : String) :
    (fields.fill src docs).outcome? name
      = if name ∈ fields.names then some (.ok ()) else none := by
  induction fields with
  | nil => rfl
  | cons member rest ih =>
      obtain ⟨a, b⟩ := b
      obtain ⟨hslot, hrest⟩ := h
      rw [Fields.fill]
      unfold outcome? Fields.names
      by_cases heq : member.name = name
      · rw [if_pos heq, if_pos (List.mem_cons.mpr (Or.inl heq.symm))]
        rcases hslot with hslot | ⟨hslot, -⟩
        · rw [hslot]
        · rw [hslot]
      · rw [if_neg heq, ih hrest]
        simp only [List.mem_cons, Ne.symm heq, false_or]

end Slots

-- ================================================================= the walk

/-- Members that give no error whatever the record's own hold: every name can be
read, none of the record's stands twice, and others can be skipped, where they
are admitted. -/
structure Clean (names : List String) (closed : Bool)
    (docs : List (Except Fault String × Doc)) : Prop where
  each : ∀ m ∈ docs, ∃ n, m.1 = .ok n ∧ (n ∈ names ∨ closed = false ∧ m.2.skip = .ok ())
  once : docs.Pairwise fun m m' => ∀ n ∈ names, m.1 = .ok n → m'.1 ≠ .ok n

namespace Clean

variable {names : List String} {closed : Bool} {doc : Doc}
  {before after docs : List (Except Fault String × Doc)}

theorem nil : Clean names closed [] := ⟨nofun, List.Pairwise.nil⟩

/-- A member is clean where it is known and not repeated, or unknown and
harmless. -/
theorem cons_iff : Clean names closed ((.ok name, doc) :: docs)
    ↔ (name ∈ names ∨ closed = false ∧ doc.skip = .ok ())
      ∧ (name ∈ names → ∀ m ∈ docs, m.1 ≠ .ok name) ∧ Clean names closed docs := by
  constructor
  · rintro ⟨heach, honce⟩
    obtain ⟨⟨n, hn, hfirst⟩, heach⟩ := List.forall_mem_cons.mp heach
    obtain ⟨hfresh, honce⟩ := List.pairwise_cons.mp honce
    cases hn
    exact ⟨hfirst, fun hname m hm => hfresh m hm name hname rfl, heach, honce⟩
  · rintro ⟨hfirst, hfresh, heach, honce⟩
    refine ⟨List.forall_mem_cons.mpr ⟨⟨name, rfl, hfirst⟩, heach⟩,
      List.pairwise_cons.mpr ⟨?_, honce⟩⟩
    intro m hm n hn heq
    cases heq
    exact hfresh hn m hm

/-- Of a member of the record only the name counts. -/
theorem insert_iff (hname : name ∈ names) :
    Clean names closed (before ++ (.ok name, doc) :: after)
      ↔ Clean names closed (before ++ after) ∧ ∀ m ∈ before ++ after, m.1 ≠ .ok name := by
  have hsymm : ∀ {m m' : Except Fault String × Doc},
      (∀ n ∈ names, m.1 = .ok n → m'.1 ≠ .ok n) → ∀ n ∈ names, m'.1 = .ok n → m.1 ≠ .ok n :=
    fun h n hn hm' hm => h n hn hm hm'
  constructor
  · rintro ⟨heach, honce⟩
    obtain ⟨hfresh, honce⟩ := List.pairwise_cons.mp ((List.pairwise_middle hsymm).mp honce)
    refine ⟨⟨fun m hm => heach m ?_, honce⟩, fun m hm => hfresh m hm name hname rfl⟩
    simp only [List.mem_append, List.mem_cons] at hm ⊢
    exact hm.imp_right Or.inr
  · rintro ⟨⟨heach, honce⟩, hfresh⟩
    refine ⟨fun m hm => ?_, (List.pairwise_middle hsymm).mpr (List.pairwise_cons.mpr ⟨?_, honce⟩)⟩
    · simp only [List.mem_append, List.mem_cons] at hm
      rcases hm with hm | rfl | hm
      · exact heach m (List.mem_append_left after hm)
      · exact ⟨name, rfl, Or.inl hname⟩
      · exact heach m (List.mem_append_right before hm)
    · intro m hm n _ heq
      cases heq
      exact hfresh m hm

/-- A value has no faults, so nothing is wrong with its members as long as no
name is repeated. -/
theorem ofMembers {members : List (String × Json)} (hnodup : (members.map Prod.fst).Nodup)
    (hknown : ∀ n ∈ members.map Prod.fst, n ∈ names ∨ closed = false) :
    Clean names closed (Doc.ofMembers members) := by
  rw [Doc.ofMembers_eq_map]
  constructor
  · intro m hm
    obtain ⟨e, he, rfl⟩ := List.mem_map.mp hm
    refine ⟨e.1, rfl, (hknown e.1 (List.mem_map_of_mem he)).imp_right fun h => ⟨h, ?_⟩⟩
    exact Doc.skip_ofJson e.2
  · refine List.pairwise_map.mpr ((List.pairwise_map.mp hnodup).imp ?_)
    intro e e' hne n _ hn hn'
    exact hne (Except.ok.inj (hn.trans hn'.symm))

end Clean

section

variable {fields : Fields φ} {all docs : List (Except Fault String × Doc)} {b : φ} {doc : Doc}
  {closed : Bool} {seen : List String}

/-- Past a member of the record: it must not have been met. -/
theorem Slots.walk_known (h : (fields.fill src all).Holds b) (hname : name ∈ fields.names)
    (strict : Option (List String)) :
    (fields.fill src all).walk strict seen ((.ok name, doc) :: docs) = .ok ()
      ↔ name ∉ seen ∧ (fields.fill src all).walk strict (name :: seen) docs = .ok () := by
  conv => lhs; unfold walk
  rw [outcome?_fill h, if_pos hname]
  dsimp only
  by_cases hseen : name ∈ seen
  · rw [if_pos hseen]
    exact iff_of_false nofun fun h => h.1 hseen
  · rw [if_neg hseen]
    exact (and_iff_right hseen).symm

/-- Past any other: it must be admitted, and no fault may be in it. -/
theorem Slots.walk_foreign (h : (fields.fill src all).Holds b) (hname : name ∉ fields.names)
    (strict : Option (List String)) :
    (fields.fill src all).walk strict seen ((.ok name, doc) :: docs) = .ok ()
      ↔ (strict = none ∧ doc.skip = .ok ())
        ∧ (fields.fill src all).walk strict seen docs = .ok () := by
  conv => lhs; unfold walk
  rw [outcome?_fill h, if_neg hname]
  cases strict with
  | some known => exact iff_of_false nofun fun h => nomatch h.1.1
  | none =>
      cases doc.skip with
      | error fault => exact iff_of_false nofun fun h => nomatch h.1.2
      | ok _ => exact (and_iff_right ⟨rfl, rfl⟩).symm

/-- So nothing but the names is looked at where the slots hold their values. -/
theorem Slots.walk_fill_eq_ok_iff (h : (fields.fill src all).Holds b) :
    (fields.fill src all).walk (if closed then some fields.names else none) seen docs = .ok ()
      ↔ Clean fields.names closed docs
        ∧ ∀ m ∈ docs, ∀ n ∈ fields.names, n ∈ seen → m.1 ≠ .ok n := by
  induction docs generalizing seen with
  | nil => exact iff_of_true rfl ⟨Clean.nil, nofun⟩
  | cons m rest ih =>
      obtain ⟨fault | name, doc⟩ := m
      · refine iff_of_false nofun fun ⟨hclean, _⟩ => ?_
        obtain ⟨n, hn, -⟩ := hclean.each _ List.mem_cons_self
        cases hn
      · rw [Clean.cons_iff, List.forall_mem_cons]
        by_cases hname : name ∈ fields.names
        · rw [walk_known h hname, ih]
          constructor
          · rintro ⟨hseen, hclean, hrest⟩
            refine ⟨⟨Or.inl hname, fun _ m hm => hrest m hm name hname List.mem_cons_self,
              hclean⟩, fun n _ hn heq => ?_, fun m hm n hknown hn => ?_⟩
            · cases heq
              exact hseen hn
            · exact hrest m hm n hknown (List.mem_cons_of_mem name hn)
          · rintro ⟨⟨-, hfresh, hclean⟩, hseen, hrest⟩
            refine ⟨fun hmem => hseen name hname hmem rfl, hclean, fun m hm n hknown hn => ?_⟩
            rcases List.mem_cons.mp hn with rfl | hn
            · exact hfresh hname m hm
            · exact hrest m hm n hknown hn
        · have hother : ∀ n ∈ fields.names, n ∈ seen →
              (.ok name : Except Fault String) ≠ .ok n := by
            rintro n hn - heq
            cases heq
            exact hname hn
          have hstrict : (if closed then some fields.names else none) = none ↔ closed = false := by
            cases closed <;> simp
          rw [walk_foreign h hname, ih, hstrict, and_iff_right hother, or_iff_right hname,
            and_iff_right fun h => absurd h hname]
          exact and_assoc.symm

/-- An object is read when there is nothing wrong with its members and every
slot holds its value. -/
theorem Fields.decodeMembers_iff_holds :
    fields.decodeMembers src closed docs none = .ok b
      ↔ Clean fields.names closed docs ∧ (fields.fill src docs).Holds b := by
  have hwalk : ∀ h : (fields.fill src docs).Holds b,
      (fields.fill src docs).walk (if closed then some fields.names else none) [] docs = .ok ()
        ↔ Clean fields.names closed docs := fun h => by
    rw [Slots.walk_fill_eq_ok_iff h]
    exact and_iff_left nofun
  constructor
  · intro h
    obtain ⟨_, hdocs, h⟩ := bind_eq_ok.mp h
    obtain ⟨_, -, h⟩ := bind_eq_ok.mp h
    have hholds := Slots.collect_eq_ok_iff.mp h
    exact ⟨(hwalk hholds).mp hdocs, hholds⟩
  · rintro ⟨hclean, hholds⟩
    exact bind_eq_ok.mpr ⟨(), (hwalk hholds).mpr hclean,
      bind_eq_ok.mpr ⟨(), rfl, Slots.collect_of_holds hholds⟩⟩

end

namespace Fields

/-- Where each name finds what was written for it, the slots hold the values
that were written. -/
theorem holds_fill {fields : Fields φ} {docs : List (Except Fault String × Doc)} {b : φ}
    (h : fields.Faithful) (hnames : fields.names.Nodup)
    (hfind : ∀ n ∈ fields.names,
      find? n docs = ((fields.encode b).lookup n).map fun j => .ofJson j.sorted) :
    (fields.fill src docs).Holds b := by
  induction fields with
  | nil => trivial
  | cons member rest ih =>
      obtain ⟨a, b⟩ := b
      obtain ⟨hfresh, hrest⟩ := List.nodup_cons.mp hnames
      -- what is found under this name was written for it, since no later one is the same
      have habsent : (rest.encode b).lookup member.name = none :=
        lookup_eq_none_of_not_mem fun hmem => hfresh ((rest.names_encode_sublist b).mem hmem)
      have hmember := hfind member.name List.mem_cons_self
      rw [encode] at hmember
      refine ⟨?_, ih h.2 hrest fun n hn => ?_⟩
      · by_cases homits : member.omits a = true
        · rw [if_pos homits, habsent] at hmember
          exact Or.inr ⟨by rw [hmember]; rfl, h.1.default a homits⟩
        · rw [if_neg homits, lookup_cons_eq_ite, if_pos rfl] at hmember
          refine Or.inl ?_
          rw [hmember]
          exact congrArg some (h.1.format src a)
      · have hne : n ≠ member.name := fun heq => hfresh (heq ▸ hn)
        rw [hfind n (List.mem_cons_of_mem _ hn), encode]
        split
        · rfl
        · rw [lookup_cons_eq_ite, if_neg hne]

/-- Members with what was written for them: each is the record's, none stands
twice, and none that was written is missing. -/
structure Written (fields : Fields φ) (b : φ) (members : List (String × Json)) : Prop where
  nodup : (members.map Prod.fst).Nodup
  known : ∀ n ∈ members.map Prod.fst, n ∈ fields.names
  lookup : ∀ n ∈ fields.names, members.lookup n = ((fields.encode b).lookup n).map Json.sorted

/-- What is written of a record stays written when it is sorted. -/
theorem written_sorted {fields : Fields φ} (hnames : fields.names.Nodup) (b : φ) :
    fields.Written b (arrange (Json.sortedMembers (fields.encode b))) := by
  have hsub := fields.names_encode_sublist b
  rw [← Json.map_fst_sortedMembers] at hsub
  refine ⟨(ordered_arrange _).nodup, fun n hn => hsub.mem (mem_names_of_mem_arrange hn),
    fun n _ => ?_⟩
  rw [lookup_arrange (hnames.sublist hsub), Json.lookup_sortedMembers]

/-- A member that is not the record's, wherever it stands among those that are
written, can be taken out of them. -/
theorem exists_written_of_foreign {fields : Fields φ} {k : String} (hnames : fields.names.Nodup)
    (hk : k ∉ fields.names) (b : φ) (j : Json) :
    ∃ before after,
      arrange (Json.sortedMembers ((k, j) :: fields.encode b)) = before ++ (k, j.sorted) :: after
        ∧ k ∉ before.map Prod.fst ∧ k ∉ after.map Prod.fst
        ∧ fields.Written b (before ++ after) := by
  let all := Json.sortedMembers ((k, j) :: fields.encode b)
  have hsub := fields.names_encode_sublist b
  have hkeys : all.map Prod.fst = k :: (fields.encode b).map Prod.fst :=
    Json.map_fst_sortedMembers _
  have hnodup : (all.map Prod.fst).Nodup := by
    rw [hkeys]
    exact List.nodup_cons.mpr ⟨fun h => hk (hsub.mem h), hnames.sublist hsub⟩
  have hlookup : ∀ n, (arrange all).lookup n
      = if n = k then some j.sorted else ((fields.encode b).lookup n).map Json.sorted := by
    intro n
    rw [lookup_arrange hnodup, Json.lookup_sortedMembers, lookup_cons_eq_ite]
    split
    · rfl
    · rfl
  obtain ⟨before, after, hsplit, hbefore, hafter, hrest, hothers⟩ :=
    exists_append_of_lookup ((hlookup k).trans (if_pos rfl)) (ordered_arrange all).nodup
  refine ⟨before, after, hsplit, hbefore, hafter, hrest, fun n hn => ?_, fun n hn => ?_⟩
  · -- a name that is left was there before, and is not the one that is gone
    rw [List.map_append, List.mem_append] at hn
    have hne : n ≠ k := by
      rintro rfl
      exact hn.elim hbefore hafter
    have hmem : n ∈ (arrange all).map Prod.fst := by
      rw [hsplit, List.map_append, List.mem_append, List.map_cons, List.mem_cons]
      exact hn.imp_right Or.inr
    have hwritten := mem_names_of_mem_arrange hmem
    rw [hkeys] at hwritten
    exact hsub.mem ((List.mem_cons.mp hwritten).resolve_left hne)
  · have hne : n ≠ k := fun h => hk (h ▸ hn)
    rw [hothers n hne, hlookup, if_neg hne]

/-- Members are read as the values they were written for, in whatever order
they stand. -/
theorem Written.decodeMembers {fields : Fields φ} {b : φ} {members : List (String × Json)}
    (hwritten : fields.Written b members) (src : Source) (closed : Bool) (h : fields.Faithful)
    (hnames : fields.names.Nodup) :
    fields.decodeMembers src closed (Doc.ofMembers members) none = .ok b := by
  have hholds : (fields.fill src (Doc.ofMembers members)).Holds b := by
    refine holds_fill h hnames fun n hn => ?_
    rw [find?_ofMembers, hwritten.lookup n hn, Option.map_map]
    rfl
  refine decodeMembers_iff_holds.mpr ⟨?_, hholds⟩
  exact Clean.ofMembers hwritten.nodup fun n hn => Or.inl (hwritten.known n hn)

end Fields

-- =================================================================== records

namespace Record

variable {r : Record α φ}

/-- A record whose members are faithful and have names of their own is read
back, if what is written of it is taken back. -/
theorem faithful (hfields : r.fields.Faithful) (hnames : r.fields.names.Nodup)
    (hread : ∀ a, r.read (r.write a) = .ok a) : r.format.Faithful := by
  intro src a
  have hmembers := (Fields.written_sorted hnames (r.write a)).decodeMembers src r.closed hfields
    hnames
  show r.format.decode src (.ofJson (Json.obj (r.fields.encode (r.write a))).sorted) = .ok a
  rw [Json.sorted, Doc.ofJson]
  show (r.fields.decodeMembers src r.closed _ none >>= r.read) = _
  rw [hmembers]
  exact hread a

/-- An object is read as a record by its members, if of what they say nothing
is refused. -/
theorem decode_obj_iff (hread : ∀ b a, r.read b = .ok a ↔ b = r.write a)
    {docs : List (Except Fault String × Doc)} {a : α} :
    r.format.decode src (.obj docs none) = .ok a
      ↔ Clean r.fields.names r.closed docs ∧ (r.fields.fill src docs).Holds (r.write a) := by
  show (r.fields.decodeMembers src r.closed docs none >>= r.read) = .ok a ↔ _
  rw [bind_eq_ok, ← Fields.decodeMembers_iff_holds]
  simp only [hread, exists_eq_right]

/-- A record is never written as `null`. -/
theorem encode_ne_null (r : Record α φ) (a : α) : r.format.encode a ≠ .null :=
  fun h => nomatch h

end Record

end NetworkSlice.Wire
