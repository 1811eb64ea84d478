import NetworkSlice.Proofs.Attempt
import NetworkSlice.Proofs.Wire.Record

/-
What the source of a document has to do with its value.

A member that was kept aside is decoded by other rules than a value, but most
of them only word an error in another way. A format is steady if it comes to
the same values by both; text is, and so is what is built from steady parts
(`Record.steady`). Variants are not: kept aside they may also carry an empty
object, and this is all (`variants_buffered_iff`).

So members of a record are also looked at one by one. Where no name is
repeated, an object is a record exactly when every member is what is found under
its name, or what it counts as where nothing is found
(`decodeMembers_eq_ok_iff`). Other members do not matter, nor does the order.
-/
namespace NetworkSlice.Wire

variable {α β φ : Type} {src : Source} {f : Format α} {name : String}

-- ============================================================= steady formats

/-- What was kept aside is decoded to the same values as if it had not been. -/
def Format.Steady (f : Format α) : Prop :=
  ∀ doc, Alike (f.decode .buffered doc) (f.decode .value doc)

namespace Format

/-- Text is decoded alike from wherever it comes. -/
theorem steady_text : text.Steady := fun _ => .refl _

theorem steady_flag : flag.Steady := fun _ => .refl _

/-- What may be missing is steady where what is there is. -/
theorem Steady.option (h : f.Steady) : f.option.Steady := by
  intro doc
  by_cases hnull : doc = .null
  · subst hnull
    exact .refl _
  · rw [decode_option hnull, decode_option hnull]
    exact (h doc).map some

/-- Items of a steady format come to the same values. -/
theorem Steady.decodeItems (h : f.Steady) (docs : List Doc) :
    Alike (decodeItems (f.decode .buffered) docs) (decodeItems (f.decode .value) docs) := by
  induction docs with
  | nil => exact .refl _
  | cons doc rest ih => exact (h doc).bind fun _ => ih.bind fun _ => .refl _

theorem Steady.list (h : f.Steady) : f.list.Steady := by
  intro doc
  cases doc with
  | arr items ending => exact (h.decodeItems items).bind fun _ => .refl _
  | _ => exact .refl _

/-- What is made of steady values is steady. -/
theorem Steady.refine (h : f.Steady) (write : β → α) (read : α → Except DecodeError β) :
    (f.refine write read).Steady :=
  fun doc => (h doc).bind fun _ => .refl _

/-- A block is made of a text. -/
theorem steady_cidr : cidr.Steady := steady_text.refine _ _

end Format

-- ============================================================= steady records

/-- All members are steady. -/
def Fields.Steady : {φ : Type} → Fields φ → Prop
  | _, .nil => True
  | _, .cons member rest => member.format.Steady ∧ rest.Steady

namespace Fields

variable {fields : Fields φ} {docs : List (Except Fault String × Doc)}

/-- A slot holds a value or an error, whatever the words of the error. -/
theorem Steady.outcome? (h : fields.Steady) (docs : List (Except Fault String × Doc))
    (name : String) :
    Option.Rel Alike ((fields.fill .buffered docs).outcome? name)
      ((fields.fill .value docs).outcome? name) := by
  induction fields with
  | nil => exact .none
  | cons member rest ih =>
      unfold fill Slots.outcome?
      split
      · refine .some ?_
        cases hfind : find? member.name docs with
        | none => exact .refl _
        | some doc =>
            have hdoc := h.1 doc
            simp only [Option.map_some]
            cases hb : member.format.decode .buffered doc with
            | ok a =>
                rw [(hdoc a).mp hb]
                exact .refl _
            | error e =>
                cases hv : member.format.decode .value doc with
                | error e' => exact alike_error e e'
                | ok a =>
                    rw [(hdoc a).mpr hv] at hb
                    cases hb
      · exact ih h.2

/-- A walk through the members meets the same faults or none. -/
theorem Steady.walk (h : fields.Steady) (strict : Option (List String))
    (members : List (Except Fault String × Doc)) :
    ∀ seen, Alike ((fields.fill .buffered docs).walk strict seen members)
      ((fields.fill .value docs).walk strict seen members) := by
  induction members with
  | nil => exact fun _ => .refl _
  | cons e rest ih =>
      intro seen
      obtain ⟨name | name, doc⟩ := e
      · exact .refl _
      · have hname := h.outcome? docs name
        unfold Slots.walk
        revert hname
        generalize (fields.fill .buffered docs).outcome? name = x
        generalize (fields.fill .value docs).outcome? name = y
        intro hname
        cases hname with
        | some houtcome =>
            dsimp only
            split
            · exact .refl _
            · exact houtcome.bind fun _ => ih _
        | none =>
            cases strict with
            | some known => exact .refl _
            | none => exact (Alike.refl _).bind fun _ => ih _

theorem Steady.collect (h : fields.Steady) (docs : List (Except Fault String × Doc)) :
    Alike (fields.fill .buffered docs).collect (fields.fill .value docs).collect := by
  induction fields with
  | nil => exact .refl _
  | cons member rest ih =>
      unfold fill Slots.collect
      cases find? member.name docs with
      | some doc => exact (h.1 doc).bind fun _ => (ih h.2).bind fun _ => .refl _
      | none =>
          cases member.default with
          | some a => exact (Alike.refl _).bind fun _ => (ih h.2).bind fun _ => .refl _
          | none => exact .refl _

/-- So an object is decoded alike. -/
theorem Steady.decodeMembers (h : fields.Steady) (closed : Bool)
    (members : List (Except Fault String × Doc)) (ending : Option Ending) :
    Alike (fields.decodeMembers .buffered closed members ending)
      (fields.decodeMembers .value closed members ending) :=
  (h.walk _ members []).bind fun _ => (Alike.refl _).bind fun _ => h.collect members

/-- A list that stands for a record ends alike. -/
theorem alike_listEnd (total taken : Nat) (more : List Doc) (ending : Option Ending) :
    Alike (listEnd .buffered total taken more ending) (listEnd .value total taken more ending) := by
  cases more with
  | nil => cases ending <;> exact .refl _
  | cons doc rest => cases ending <;> exact alike_error _ _

/-- And the items of such a list are decoded alike. -/
theorem Steady.decodeItems (h : fields.Steady) (expected : String) (total : Nat)
    (ending : Option Ending) :
    ∀ taken docs, Alike (fields.decodeItems .buffered expected total taken ending docs)
      (fields.decodeItems .value expected total taken ending docs) := by
  induction fields with
  | nil => exact fun taken docs => alike_listEnd total taken docs ending
  | cons member rest ih =>
      intro taken docs
      cases docs with
      | nil =>
          refine (Alike.refl _).bind fun _ => ?_
          cases member.default with
          | some a => exact (Alike.refl _).bind fun _ => (ih h.2 _ _).bind fun _ => .refl _
          | none => exact .refl _
      | cons doc docs => exact (h.1 doc).bind fun _ => (ih h.2 _ _).bind fun _ => .refl _

end Fields

/-- So a record of steady members is steady. -/
theorem Record.steady {r : Record α φ} (h : r.fields.Steady) : r.format.Steady := by
  intro doc
  cases doc with
  | obj members ending => exact (h.decodeMembers r.closed members ending).bind fun _ => .refl _
  | arr items ending => exact (h.decodeItems _ _ ending 0 items).bind fun _ => .refl _
  | _ => exact .refl _

-- =================================================================== variants

namespace Format

variable {all : List α} {key : α → String} {j : Json} {a : α}

/-- Nothing is carried as `null`, or by what was kept aside as an empty object.
-/
theorem decodeUnit_eq_ok_iff :
    decodeUnit src (.ofJson j) = .ok () ↔ j = .null ∨ src = .buffered ∧ j = .obj [] := by
  cases j with
  | null => rw [Doc.ofJson]; simp [decodeUnit]
  | obj members =>
      cases members with
      | nil => rw [Doc.ofJson, Doc.ofMembers]; cases src <;> simp [decodeUnit]
      | cons e rest => rw [Doc.ofJson, Doc.ofMembers]; simp [decodeUnit]
  | _ => rw [Doc.ofJson]; simp [decodeUnit]

/-- Of an object, a variant takes the name of the one member and what it
carries. -/
theorem variants_single (hsrc : src ≠ .text) (s : String) (payload : Json) :
    (variants all key).decode src (.ofJson (.obj [(s, payload)]))
      = variantOf all key s >>= fun a =>
        decodeUnit src (.ofJson payload) >>= fun _ => .ok a := by
  rw [Doc.ofJson, Doc.ofMembers, Doc.ofMembers]
  cases src with
  | text => exact absurd rfl hsrc
  | _ => rfl

/-- An object is no variant unless it has one member. -/
theorem variants_not_single (hsrc : src ≠ .text) {members : List (String × Json)}
    (h : ∀ s payload, members ≠ [(s, payload)]) :
    (variants all key).decode src (.ofJson (.obj members))
      = .error (.wrongValue .map "map with a single key") := by
  rw [Doc.ofJson]
  match members with
  | [] => cases src <;> first | rfl | exact absurd rfl hsrc
  | [(s, payload)] => exact absurd rfl (h s payload)
  | _ :: _ :: _ => cases src <;> first | rfl | exact absurd rfl hsrc

/-- A variant is its name, or an object of that name with nothing to carry. -/
theorem variants_eq_ok_iff (hsrc : src ≠ .text) :
    (variants all key).decode src (.ofJson j) = .ok a
      ↔ ∃ s, variantOf all key s = .ok a
        ∧ (j = .str s ∨ ∃ payload, j = .obj [(s, payload)]
          ∧ decodeUnit src (.ofJson payload) = .ok ()) := by
  cases j with
  | str s =>
      have hdecode : (variants all key).decode src (.ofJson (.str s)) = variantOf all key s := by
        rw [Doc.ofJson]
        cases src <;> rfl
      rw [hdecode]
      simp
  | obj members =>
      by_cases hsingle : ∃ s payload, members = [(s, payload)]
      · obtain ⟨s, payload, rfl⟩ := hsingle
        rw [variants_single hsrc, bind_eq_ok]
        constructor
        · rintro ⟨a', hname, h⟩
          obtain ⟨_, hunit, h⟩ := bind_eq_ok.mp h
          injection h with h
          exact ⟨s, h ▸ hname, Or.inr ⟨payload, rfl, hunit⟩⟩
        · rintro ⟨s', hname, h | ⟨payload', h, hunit⟩⟩
          · cases h
          · cases h
            exact ⟨a, hname, bind_eq_ok.mpr ⟨(), hunit, rfl⟩⟩
      · rw [variants_not_single hsrc fun s payload h => hsingle ⟨s, payload, h⟩]
        constructor
        · intro h
          cases h
        · rintro ⟨s, -, h | ⟨payload, h, -⟩⟩
          · cases h
          · cases h
            exact absurd ⟨s, payload, rfl⟩ hsingle
  | _ =>
      rw [Doc.ofJson]
      constructor
      · intro h
        cases src <;> cases h
      · rintro ⟨s, -, h | ⟨payload, h, -⟩⟩ <;> cases h

/-- Kept aside, it may also carry an empty object. -/
theorem variants_buffered_iff :
    (variants all key).decode .buffered (.ofJson j) = .ok a
      ↔ (variants all key).decode .value (.ofJson j) = .ok a
        ∨ ∃ s, variantOf all key s = .ok a ∧ j = .obj [(s, .obj [])] := by
  rw [variants_eq_ok_iff (by decide), variants_eq_ok_iff (by decide)]
  simp only [decodeUnit_eq_ok_iff]
  constructor
  · rintro ⟨s, hname, h | ⟨payload, h, rfl | ⟨-, rfl⟩⟩⟩
    · exact Or.inl ⟨s, hname, Or.inl h⟩
    · exact Or.inl ⟨s, hname, Or.inr ⟨_, h, Or.inl rfl⟩⟩
    · exact Or.inr ⟨s, hname, h⟩
  · rintro (⟨s, hname, h | ⟨payload, h, rfl | ⟨hsrc, -⟩⟩⟩ | ⟨s, hname, h⟩)
    · exact ⟨s, hname, Or.inl h⟩
    · exact ⟨s, hname, Or.inr ⟨_, h, Or.inl rfl⟩⟩
    · cases hsrc
    · exact ⟨s, hname, Or.inr ⟨_, h, Or.inr ⟨trivial, rfl⟩⟩⟩

end Format

-- =========================================================== member by member

/-- What a member is, when this is found under its name. -/
def Member.Reads (m : Member α) (src : Source) (found : Option Json) (a : α) : Prop :=
  match found with
  | some j => m.format.decode src (.ofJson j) = .ok a
  | none => m.default = some a

/-- A steady member reads the same in either way. -/
theorem Member.reads_steady {m : Member α} (h : m.format.Steady) (found : Option Json) (a : α) :
    m.Reads .buffered found a ↔ m.Reads .value found a := by
  cases found with
  | none => exact Iff.rfl
  | some j => exact h (.ofJson j) a

/-- A member that may be missing reads `null` as missing. -/
theorem Member.reads_optional_iff {j : Json} {o : Option α} :
    (Member.optional name f).Reads src (some j) o
      ↔ j = .null ∧ o = none ∨ j ≠ .null ∧ ∃ a, f.decode src (.ofJson j) = .ok a ∧ o = some a := by
  show f.option.decode src (.ofJson j) = .ok o ↔ _
  by_cases hnull : j = .null
  · subst hnull
    rw [Doc.ofJson]
    show Except.ok none = Except.ok o ↔ _
    simp [eq_comm]
  · rw [Format.decode_option (Doc.ofJson_ne_null hnull)]
    cases f.decode src (.ofJson j) <;> simp [Except.map, hnull, eq_comm]

/-- What the members are, when `found` is what is found under each name. -/
def Fields.Reads (src : Source) (found : String → Option Json) : {φ : Type} → Fields φ → φ → Prop
  | _, .nil, () => True
  | _, .cons member rest, (a, b) =>
    member.Reads src (found member.name) a ∧ Fields.Reads src found rest b

namespace Fields

variable {fields : Fields φ} {members : List (String × Json)} {b : φ}

/-- What is filled in holds the values that the members read. -/
theorem holds_fill_iff :
    (fields.fill src (Doc.ofMembers members)).Holds b
      ↔ fields.Reads src (fun n => members.lookup n) b := by
  induction fields with
  | nil => exact Iff.rfl
  | cons member rest ih =>
      obtain ⟨a, b⟩ := b
      unfold fill Slots.Holds Fields.Reads
      rw [ih, find?_ofMembers]
      cases members.lookup member.name <;> simp [Member.Reads]

/-- An object is a record when each member is what is found under its name. -/
theorem decodeMembers_eq_ok_iff (hnodup : (members.map Prod.fst).Nodup) :
    fields.decodeMembers src false (Doc.ofMembers members) none = .ok b
      ↔ fields.Reads src (fun n => members.lookup n) b := by
  rw [decodeMembers_iff_holds, holds_fill_iff]
  exact and_iff_right (Clean.ofMembers hnodup fun _ _ => Or.inr rfl)

theorem reads_steady {found : String → Option Json} (h : fields.Steady) :
    fields.Reads .buffered found b ↔ fields.Reads .value found b := by
  induction fields with
  | nil => exact Iff.rfl
  | cons member rest ih =>
      obtain ⟨a, b⟩ := b
      exact and_congr (Member.reads_steady h.1 _ _) (ih h.2)

/-- Only the record's own names matter. -/
theorem reads_congr {found found' : String → Option Json}
    (h : ∀ n ∈ fields.names, found n = found' n) :
    fields.Reads src found b ↔ fields.Reads src found' b := by
  induction fields with
  | nil => exact Iff.rfl
  | cons member rest ih =>
      obtain ⟨a, b⟩ := b
      obtain ⟨hmember, hrest⟩ := List.forall_mem_cons.mp h
      unfold Fields.Reads
      rw [hmember, ih hrest]

end Fields

/-- So an object is read as a record by what it has under the names. -/
theorem Record.read_eq_ok_iff {r : Record α φ} (hclosed : r.closed = false)
    (hread : ∀ b a, r.read b = .ok a ↔ b = r.write a) {members : List (String × Json)} {a : α} :
    r.format.read (.obj members) = .ok a
      ↔ r.fields.Reads .value (fun n => (Json.obj members).sorted.get? n) (r.write a) := by
  have hclean : Clean r.fields.names r.closed
      (Doc.ofMembers (arrange (Json.sortedMembers members))) :=
    .ofMembers (ordered_arrange _).nodup fun _ _ => Or.inr hclosed
  unfold Format.read
  simp only [mapError_eq_ok, Json.get?_sorted]
  rw [Json.sorted, Doc.ofJson, Record.decode_obj_iff hread, and_iff_right hclean,
    Fields.holds_fill_iff]

end NetworkSlice.Wire
