import NetworkSlice.Wire.Document
import NetworkSlice.Proofs.Address.BlockText
import NetworkSlice.Proofs.Json.Sorted

/-
Formats that read what they write.

A format is faithful if every value is decoded from its own encoding, in
sorted order and whatever the document comes from. Compound formats are
faithful where their parts are, so each combinator has one lemma. `option` asks
for one thing more: a value that is written as `null` would be read as no value
(`Faithful.option`).
-/
namespace NetworkSlice.Wire

/-- What is written is read as what it was. -/
def Format.Faithful {α : Type} (f : Format α) : Prop :=
  ∀ src a, f.decode src (.ofJson (f.encode a).sorted) = .ok a

namespace Format

variable {α β : Type} {f : Format α} {src : Source}

/-- A faithful format reads what it writes. -/
theorem Faithful.read_write (h : f.Faithful) (a : α) : f.read (f.write a) = .ok a := by
  unfold Format.read Format.write
  rw [Json.sorted_sorted, h]
  rfl

-- ================================================================== leaves

/-- Text is read back. -/
theorem faithful_text : text.Faithful := by
  intro src s
  show text.decode src (.ofJson (Json.str s).sorted) = .ok s
  rw [Json.sorted, Doc.ofJson]
  rfl

theorem faithful_flag : flag.Faithful := by
  intro src b
  show flag.decode src (.ofJson (Json.bool b).sorted) = .ok b
  rw [Json.sorted, Doc.ofJson]
  rfl

/-- A number below the bound is decoded from its numeral. -/
theorem decodeNat_ofNat {bound n : Nat} (expected : String) (h : n < bound) :
    decodeNat bound expected (.ofJson (Json.ofNat n).sorted) = .ok n := by
  have hrange : (0 : Int) ≤ n ∧ (n : Int) < bound := by omega
  rw [Json.ofNat, Json.sorted, Doc.ofJson, decodeNat, if_pos hrange, Int.toNat_natCast]

/-- So a word is read back. -/
theorem faithful_u64 : u64.Faithful := by
  intro src n
  unfold u64
  dsimp only
  rw [decodeNat_ofNat "u64" n.toNat_lt_size, Except.map, UInt64.ofNat_toNat]

theorem faithful_u32 : u32.Faithful := by
  intro src n
  unfold u32
  dsimp only
  rw [decodeNat_ofNat "u32" n.toNat_lt_size, Except.map, UInt32.ofNat_toNat]

/-- Every variant is found by its name, so its name is no other's before it. -/
theorem faithful_variants {all : List α} {name : α → String}
    (h : ∀ a, all.find? (fun b => name b == name a) = some a) : (variants all name).Faithful := by
  intro src a
  show (variants all name).decode src (.ofJson (Json.str (name a)).sorted) = .ok a
  rw [Json.sorted, Doc.ofJson]
  show variantOf all name (name a) = .ok a
  rw [variantOf, h]

-- =============================================================== compounds

/-- What is not `null` is decoded as a value. -/
theorem decode_option {doc : Doc} (h : doc ≠ .null) :
    f.option.decode src doc = (f.decode src doc).map some := by
  cases doc with
  | null => exact absurd rfl h
  | _ => rfl

/-- Nothing is told from something as long as something is not `null`. -/
theorem Faithful.option (h : f.Faithful) (hnull : ∀ a, f.encode a ≠ .null) :
    f.option.Faithful := by
  intro src o
  cases o with
  | none =>
      show f.option.decode src (.ofJson Json.null.sorted) = .ok none
      rw [Json.sorted, Doc.ofJson]
      rfl
  | some a =>
      show f.option.decode src (.ofJson (f.encode a).sorted) = .ok (some a)
      rw [decode_option (Doc.ofJson_ne_null (Json.sorted_ne_null (hnull a))), h]
      rfl

/-- Items are decoded one after another. -/
theorem Faithful.decodeItems (h : f.Faithful) (as : List α) :
    decodeItems (f.decode src) (as.map fun a => .ofJson (f.encode a).sorted) = .ok as := by
  induction as with
  | nil => rfl
  | cons a rest ih =>
      rw [List.map_cons, Format.decodeItems, h, ih]
      rfl

/-- So a list of them is read back. -/
theorem Faithful.list (h : f.Faithful) : f.list.Faithful := by
  intro src as
  have hdoc : Doc.ofJson (f.list.encode as).sorted
      = .arr (as.map fun a => .ofJson (f.encode a).sorted) none := by
    show Doc.ofJson (Json.arr (as.map f.encode)).sorted = _
    rw [Json.sorted, Json.sortedItems_eq_map, Doc.ofJson, Doc.ofItems_eq_map, List.map_map,
      List.map_map]
    rfl
  rw [hdoc]
  show (Format.decodeItems (f.decode src) _ >>= _) = _
  rw [h.decodeItems]
  rfl

/-- Entries are decoded with their names. -/
theorem Faithful.decodeEntries (h : f.Faithful) (entries : List (String × α)) :
    decodeEntries (f.decode src) (entries.map fun e => (.ok e.1, .ofJson (f.encode e.2).sorted))
      = .ok entries := by
  induction entries with
  | nil => rfl
  | cons e rest ih =>
      rw [List.map_cons, Format.decodeEntries, h, ih]
      rfl

/-- A table is written in order, so sorting leaves its members where they
are. -/
theorem Faithful.table (h : f.Faithful) : f.table.Faithful := by
  intro src t
  have hsorted : arrange (Json.sortedMembers (t.entries.map fun e => (e.1, f.encode e.2)))
      = t.entries.map fun e => (e.1, (f.encode e.2).sorted) := by
    rw [Json.sortedMembers_eq_map, List.map_map]
    exact (arrange_map (fun a => (f.encode a).sorted) t.entries).trans
      (congrArg _ (arrange_eq_self t.ordered))
  have hdoc : Doc.ofJson (f.table.encode t).sorted
      = .obj (t.entries.map fun e => (.ok e.1, .ofJson (f.encode e.2).sorted)) none := by
    show Doc.ofJson (Json.obj (t.entries.map fun e => (e.1, f.encode e.2))).sorted = _
    rw [Json.sorted, hsorted, Doc.ofJson, Doc.ofMembers_eq_map, List.map_map]
    rfl
  rw [hdoc]
  show (Format.decodeEntries (f.decode src) _ >>= _) = _
  rw [h.decodeEntries]
  exact congrArg Except.ok t.ofList_entries

/-- Values that are written as others are read back if what was written is
taken back. -/
theorem Faithful.refine (h : f.Faithful) {write : β → α} {read : α → Except DecodeError β}
    (hread : ∀ b, read (write b) = .ok b) : (f.refine write read).Faithful := by
  intro src b
  show f.decode src (.ofJson (f.encode (write b)).sorted) >>= read = .ok b
  rw [h]
  exact hread b

/-- A block is read back from its text. -/
theorem faithful_cidr : cidr.Faithful := by
  refine faithful_text.refine fun c => ?_
  rw [Cidr.parse_text]
  rfl

end Format

end NetworkSlice.Wire
