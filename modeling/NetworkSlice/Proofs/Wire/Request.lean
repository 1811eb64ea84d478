import NetworkSlice.Proofs.Wire.RoundTrip
import NetworkSlice.Proofs.Wire.Sources

/-
A request is a slice with a namespace among its members.

A slice that stands alone is decoded as a value, and one in a request from
members that were kept aside. All members of a slice are steady but the kind of
network, which is a variant: kept aside, it may also be its name with an empty
object to carry (`Slice.reads_buffered_iff`). So a request is read exactly when
its namespace is text, or missing, and the slice is read that is left, or would
be with the name of its kind alone (`read_as_slice`).
-/
namespace NetworkSlice

open Wire

-- =========================================================== kinds of network

namespace NetworkType

variable {t : NetworkType} {j : Json}

/-- A name is that of the variant it is found for. -/
theorem variantOf_eq_ok_iff {s : String} :
    Format.variantOf all name s = .ok t ↔ s = t.name := by
  unfold Format.variantOf
  constructor
  · intro h
    cases hfind : all.find? fun t => t.name == s with
    | none => rw [hfind] at h; cases h
    | some t' =>
        rw [hfind] at h
        injection h with h
        have hname := List.find?_some hfind
        rw [h, beq_iff_eq] at hname
        exact hname.symm
  · rintro rfl
    cases t <;> rfl

/-- Kept aside, a kind may also carry an empty object. -/
theorem decode_buffered_iff :
    format.decode .buffered (.ofJson j) = .ok t
      ↔ format.decode .value (.ofJson j) = .ok t ∨ j = .obj [(t.name, .obj [])] := by
  rw [format, Format.variants_buffered_iff]
  simp only [variantOf_eq_ok_iff, exists_eq_left]

/-- And so may the member that a slice has for it. -/
theorem reads_buffered_iff {found : Option Json} {o : Option NetworkType} :
    (Member.optional "networkType" format).Reads .buffered found o
      ↔ (Member.optional "networkType" format).Reads .value found o
        ∨ ∃ t, found = some (.obj [(t.name, .obj [])]) ∧ o = some t := by
  cases found with
  | none => exact ⟨Or.inl, fun h => h.elim id fun ⟨t, h, _⟩ => nomatch h⟩
  | some j =>
      simp only [Member.reads_optional_iff, decode_buffered_iff, Option.some.injEq]
      constructor
      · rintro (h | ⟨hnull, t, h | rfl, ho⟩)
        · exact Or.inl (Or.inl h)
        · exact Or.inl (Or.inr ⟨hnull, t, h, ho⟩)
        · exact Or.inr ⟨t, rfl, ho⟩
      · rintro ((h | ⟨hnull, t, h, ho⟩) | ⟨t, rfl, ho⟩)
        · exact Or.inl h
        · exact Or.inr ⟨hnull, t, Or.inl h, ho⟩
        · exact Or.inr ⟨nofun, t, Or.inr rfl, ho⟩

/-- The name of a kind stands for it. -/
theorem reads_name_iff {o : Option NetworkType} :
    (Member.optional "networkType" format).Reads .value (some (.str t.name)) o ↔ o = some t := by
  have hname : format.decode .value (.ofJson (.str t.name)) = .ok t :=
    (Format.variants_eq_ok_iff (by decide)).mpr ⟨_, variantOf_eq_ok_iff.mpr rfl, Or.inl rfl⟩
  rw [Member.reads_optional_iff, hname]
  simp [eq_comm]

end NetworkType

-- ===================================================================== slices

/-- Links are made of texts. -/
theorem Link.steady : Link.format.Steady :=
  Link.record.steady ⟨Format.steady_text, Format.steady_text, trivial⟩

theorem ProviderPorts.steady : ProviderPorts.format.Steady :=
  ProviderPorts.record.steady
    ⟨Format.steady_text.option, Format.steady_text.option, Format.steady_text.option,
      Format.steady_text.option, trivial⟩

/-- A provider is made of texts and ports. -/
theorem Provider.steady : Provider.format.Steady :=
  Provider.record.steady
    ⟨Format.steady_text, Format.steady_text, ProviderPorts.steady, trivial⟩

theorem Gateway.steady : Gateway.format.Steady :=
  Gateway.record.steady ⟨Format.steady_text, Format.steady_text, trivial⟩

theorem Auth.steady : Auth.format.Steady :=
  Auth.record.steady ⟨Format.steady_text, Format.steady_text, trivial⟩

/-- So a participant is steady as a whole. -/
theorem Participant.steady : Participant.format.Steady :=
  Participant.record.steady
    ⟨Format.steady_text, Auth.steady.option, Gateway.steady, Format.steady_text.list,
      Link.steady.list.option, Format.steady_cidr.option, trivial⟩

namespace Slice

variable {found : String → Option Json} {s : Slice}

/-- All that follows the kind is steady. -/
theorem exists_steady_fields :
    ∃ rest, Slice.record.fields
        = .cons (.required "name" .text) (.cons (.optional "networkType" NetworkType.format) rest)
      ∧ rest.Steady ∧ "networkType" ∉ rest.names :=
  ⟨_, rfl, ⟨Provider.steady.option, Format.steady_text.option, Format.steady_flag,
    Participant.steady.list, Link.steady.list.option, trivial⟩, by decide⟩

/-- A slice of members that were kept aside is read as one of members that were
not, except for its kind. -/
theorem reads_buffered_iff :
    Slice.record.fields.Reads .buffered found (Slice.record.write s)
      ↔ Slice.record.fields.Reads .value found (Slice.record.write s)
        ∨ ∃ t : NetworkType, found "networkType" = some (.obj [(t.name, .obj [])])
          ∧ Slice.record.fields.Reads .value
            (fun n => if n = "networkType" then some (.str t.name) else found n)
            (Slice.record.write s) := by
  obtain ⟨rest, hfields, hsteady, hnames⟩ := exists_steady_fields
  have hreads : ∀ {src : Source} {found : String → Option Json},
      Slice.record.fields.Reads src found (Slice.record.write s)
        ↔ (Member.required "name" Format.text).Reads src (found "name") s.name
          ∧ (Member.optional "networkType" NetworkType.format).Reads src (found "networkType")
            s.networkType
          ∧ rest.Reads src found (Slice.record.write s).2.2 := by
    intro src found
    rw [hfields]
    exact Iff.rfl
  have hother : ∀ t : NetworkType, rest.Reads .value
      (fun n => if n = "networkType" then some (.str t.name) else found n) (Slice.record.write s).2.2
        ↔ rest.Reads .value found (Slice.record.write s).2.2 := by
    intro t
    refine Fields.reads_congr fun n hn => if_neg ?_
    rintro rfl
    exact hnames hn
  have htext : (Member.required "name" Format.text).format.Steady := Format.steady_text
  simp only [hreads, hother, Member.reads_steady htext, Fields.reads_steady hsteady,
    NetworkType.reads_buffered_iff, if_true, NetworkType.reads_name_iff,
    if_neg (show "name" ≠ "networkType" by decide)]
  constructor
  · rintro ⟨hname, htype | ⟨t, hfound, htype⟩, hrest⟩
    · exact Or.inl ⟨hname, htype, hrest⟩
    · exact Or.inr ⟨t, hfound, hname, htype, hrest⟩
  · rintro (⟨hname, htype, hrest⟩ | ⟨t, hfound, hname, htype, hrest⟩)
    · exact ⟨hname, Or.inl htype, hrest⟩
    · exact ⟨hname, Or.inr ⟨t, hfound, htype⟩, hrest⟩

/-- A slice is read from the members it is written as. -/
theorem record_read_iff {b} : Slice.record.read b = .ok s ↔ b = Slice.record.write s := by
  constructor
  · intro h
    injection h with h
    rw [← h]
    rfl
  · rintro rfl
    rfl

theorem read_eq_ok_iff {members : List (String × Json)} :
    Slice.format.read (.obj members) = .ok s
      ↔ Slice.record.fields.Reads .value (fun n => (Json.obj members).sorted.get? n)
        (Slice.record.write s) :=
  Slice.record.read_eq_ok_iff rfl fun _ _ => record_read_iff

end Slice

-- =================================================================== requests

namespace Request

variable {members before : List (String × Json)} {r : Request}

/-- The namespace a value gives: the text it has under that name, or none if it
has nothing there. -/
def namespaceOf? (j : Json) : Option String :=
  match j.sorted.get? "namespace" with
  | none => some ""
  | some (.str s) => some s
  | some _ => none

/-- A namespace that is not text is an error. -/
theorem split_not_text {j : Json} (hbefore : "namespace" ∉ before.map Prod.fst)
    (hj : ∀ s, j ≠ .str s) (after : List (String × Json)) :
    ∃ e, split .value none [] (Doc.ofMembers (before ++ ("namespace", j) :: after)) = .error e := by
  have htext : ∃ e, Format.text.decode .value (.ofJson j) = .error e := by
    cases j with
    | str s => exact absurd rfl (hj s)
    | _ => rw [Doc.ofJson]; exact ⟨_, rfl⟩
  obtain ⟨e, he⟩ := htext
  refine ⟨e, ?_⟩
  rw [Doc.ofMembers_eq_map, List.map_append, List.map_cons, ← Doc.ofMembers_eq_map,
    ← Doc.ofMembers_eq_map, split_append none [] _ hbefore, split]
  show (Format.text.decode .value (.ofJson j) >>= _) = _
  rw [he]
  rfl

/-- The members are split in two: the namespace, and others under whose names is
what was there. -/
theorem split_of_namespace (hnodup : (members.map Prod.fst).Nodup) {ns : String}
    (hns : members.lookup "namespace" = some (.str ns)
      ∨ members.lookup "namespace" = none ∧ ns = "") :
    ∃ found others, split .value none [] (Doc.ofMembers members) = .ok (found, Doc.ofMembers others)
      ∧ found.getD "" = ns ∧ (others.map Prod.fst).Nodup
      ∧ ∀ n, n ≠ "namespace" → others.lookup n = members.lookup n := by
  rcases hns with hns | ⟨hns, rfl⟩
  · obtain ⟨before, after, rfl, hbefore, hafter, hothers, hlookup⟩ :=
      exists_append_of_lookup hns hnodup
    exact ⟨some ns, before ++ after, split_namespace hbefore hafter, rfl, hothers, hlookup⟩
  · have hsplit := split_append none [] [] (not_mem_of_lookup_eq_none hns)
    rw [List.append_nil, List.append_nil, split, List.reverse_reverse] at hsplit
    exact ⟨none, members, hsplit, rfl, hnodup, fun _ _ => rfl⟩

/-- The namespace is the text under its name, or empty where it is missing. -/
theorem namespaceOf?_eq_some_iff {j : Json} {ns : String} :
    namespaceOf? j = some ns
      ↔ j.sorted.get? "namespace" = some (.str ns)
        ∨ j.sorted.get? "namespace" = none ∧ ns = "" := by
  unfold namespaceOf?
  cases j.sorted.get? "namespace" with
  | none => simp [eq_comm]
  | some value => cases value <;> simp

/-- There is none where something else is under its name. -/
theorem namespaceOf?_eq_none_iff {j : Json} :
    namespaceOf? j = none
      ↔ ∃ value, j.sorted.get? "namespace" = some value ∧ ∀ s, value ≠ .str s := by
  unfold namespaceOf?
  cases j.sorted.get? "namespace" with
  | none => simp
  | some value => cases value <;> simp

/-- A request is read from the two. -/
theorem read_eq_ok_iff_split :
    format.read (.obj members) = .ok r
      ↔ ∃ found kept,
        split .value none [] (Doc.ofMembers (arrange (Json.sortedMembers members)))
            = .ok (found, kept)
          ∧ found.getD "" = r.namespaceName
          ∧ Slice.record.fields.decodeMembers .buffered false kept none
            = .ok (Slice.record.write r.slice) := by
  unfold Format.read
  rw [mapError_eq_ok, Json.sorted, Doc.ofJson]
  show (split .value none [] _ >>= _) = _ ↔ _
  rw [bind_eq_ok]
  constructor
  · rintro ⟨⟨found, kept⟩, hsplit, h⟩
    obtain ⟨-, -, h⟩ := bind_eq_ok.mp h
    obtain ⟨b, hb, h⟩ := bind_eq_ok.mp h
    obtain ⟨slice, hslice, h⟩ := bind_eq_ok.mp h
    injection h with h
    subst h
    exact ⟨found, kept, hsplit, rfl, Slice.record_read_iff.mp hslice ▸ hb⟩
  · rintro ⟨found, kept, hsplit, hns, hb⟩
    refine ⟨(found, kept), hsplit, ?_⟩
    show (Slice.record.fields.decodeMembers .buffered false kept none >>= _) = _
    rw [hb, hns]
    rfl

/-- So a request is read by what its object has under the slice's names, with
the namespace aside. -/
theorem read_eq_ok_iff :
    format.read (.obj members) = .ok r
      ↔ namespaceOf? (.obj members) = some r.namespaceName
        ∧ Slice.record.fields.Reads .buffered (fun n => (Json.obj members).sorted.get? n)
          (Slice.record.write r.slice) := by
  have hnodup := (ordered_arrange (Json.sortedMembers members)).nodup
  rw [read_eq_ok_iff_split]
  cases hns : namespaceOf? (.obj members) with
  | none =>
      obtain ⟨value, hvalue, htext⟩ := namespaceOf?_eq_none_iff.mp hns
      rw [Json.get?_sorted] at hvalue
      obtain ⟨before, after, hmembers, hbefore, -⟩ := exists_append_of_lookup hvalue hnodup
      obtain ⟨e, he⟩ := split_not_text hbefore htext after
      simp [hmembers, he]
  | some ns =>
      have hvalue := namespaceOf?_eq_some_iff.mp hns
      rw [Json.get?_sorted] at hvalue
      obtain ⟨found, others, hsplit, hfound, hothers, hlookup⟩ := split_of_namespace hnodup hvalue
      have hreads : Slice.record.fields.decodeMembers .buffered false (Doc.ofMembers others) none
            = .ok (Slice.record.write r.slice)
          ↔ Slice.record.fields.Reads .buffered (fun n => (Json.obj members).sorted.get? n)
            (Slice.record.write r.slice) := by
        rw [Fields.decodeMembers_eq_ok_iff hothers]
        refine Fields.reads_congr fun n hn => ?_
        rw [Json.get?_sorted, hlookup]
        rintro rfl
        exact namespace_not_mem_names hn
      rw [← hreads]
      constructor
      · rintro ⟨found', kept, h, hname, hb⟩
        rw [hsplit] at h
        cases h
        exact ⟨congrArg some (hfound.symm.trans hname), hb⟩
      · rintro ⟨hname, hb⟩
        exact ⟨found, _, hsplit, hfound.trans (Option.some.inj hname), hb⟩

/-- A request is read exactly when it gives a namespace and is read as a slice by
itself, and it is that slice in that namespace; except that a request may also
write the kind of network as an object with nothing in it. Then it is the slice
it would be with the name of the kind instead. (Of two members with one name the
later counts.) -/
theorem read_as_slice :
    format.read (.obj members) = .ok r
      ↔ namespaceOf? (.obj members) = some r.namespaceName
        ∧ (Slice.format.read (.obj members) = .ok r.slice
          ∨ ∃ t : NetworkType,
            (Json.obj members).sorted.get? "networkType" = some (.obj [(t.name, .obj [])])
              ∧ Slice.format.read (.obj (members ++ [("networkType", .str t.name)]))
                = .ok r.slice) := by
  have hnamed : ∀ (t : NetworkType) (n : String),
      (Json.obj (members ++ [("networkType", .str t.name)])).sorted.get? n
        = if n = "networkType" then some (.str t.name) else (Json.obj members).sorted.get? n := by
    intro t n
    have hname : (Json.str t.name).sorted = .str t.name := by rw [Json.sorted]
    rw [Json.get?_sorted_append, hname]
  rw [read_eq_ok_iff, Slice.reads_buffered_iff, Slice.read_eq_ok_iff]
  simp only [Slice.read_eq_ok_iff, hnamed]

/-- A request, and no slice by itself. -/
def carryingMembers : List (String × Json) :=
  [("name", .str "blue"), ("networkType", .obj [("vnet", .obj [])]), ("participants", .arr [])]

/-- What is no slice by itself may be one in a request. -/
theorem exists_request_not_slice :
    ¬∀ (members : List (String × Json)) (r : Request),
      format.read (.obj members) = .ok r
        ↔ namespaceOf? (.obj members) = some r.namespaceName
          ∧ Slice.format.read (.obj members) = .ok r.slice := by
  intro hall
  have hrequest : (format.read (.obj carryingMembers)).isOk = true := by rfl
  have hslice : (Slice.format.read (.obj carryingMembers)).isOk = false := by rfl
  cases hr : format.read (.obj carryingMembers) with
  | error e => rw [hr] at hrequest; cases hrequest
  | ok r =>
      rw [((hall carryingMembers r).mp hr).2] at hslice
      cases hslice

end Request

end NetworkSlice
