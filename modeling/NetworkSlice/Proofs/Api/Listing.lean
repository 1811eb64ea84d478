import NetworkSlice.Proofs.Api.Secrets
import NetworkSlice.Proofs.Json.Equality
import NetworkSlice.Proofs.Wire.Sources

/-
One bad secret in the reply to a listing.

A list of secrets is decoded as a whole before anything is collected from it.
`OpenList` is the document of a list in which the data of one secret is left
open; it is a list of secrets exactly when the rest of it is and what stands in
the open place is a table of texts (`decode_doc_iff`). So the isolation of
clusters ends at the types: whatever texts a secret has, the other clusters are
listed as before, and anything else in the place of its data costs every cluster
its certificates (`listingOf_replaceData`).
-/
namespace NetworkSlice

open Wire Http

-- ================================================================== decoding

/-- An object with texts and nothing else. -/
def Doc.IsTexts (doc : Doc) : Prop :=
  ∃ members, doc = .obj members none ∧ ∀ m ∈ members, ∃ n s, m = (.ok n, .str (.ok s))

namespace Wire.Format

variable {α : Type} {f : Format α} {src : Source} {doc : Doc}

/-- A text is decoded from the document of a text without faults. -/
theorem text_eq_ok_iff {s : String} : text.decode src doc = .ok s ↔ doc = .str (.ok s) := by
  constructor
  · intro h
    cases doc with
    | str value =>
        cases value with
        | ok s' => exact congrArg (fun s => Doc.str (.ok s)) (Except.ok.inj h)
        | error fault => cases h
    | _ => cases h
  · rintro rfl
    rfl

/-- Entries are decoded where each of them is. -/
theorem decodeEntries_isOk_iff {decode : Doc → Except DecodeError α}
    {members : List (Except Fault String × Doc)} :
    (∃ entries, decodeEntries decode members = .ok entries)
      ↔ ∀ m ∈ members, ∃ n a, m.1 = .ok n ∧ decode m.2 = .ok a := by
  induction members with
  | nil => exact iff_of_true ⟨[], rfl⟩ nofun
  | cons m rest ih =>
      obtain ⟨name, doc⟩ := m
      rw [List.forall_mem_cons, ← ih, decodeEntries]
      constructor
      · rintro ⟨entries, h⟩
        obtain ⟨n, hn, h⟩ := bind_eq_ok.mp h
        obtain ⟨a, ha, h⟩ := bind_eq_ok.mp h
        obtain ⟨more, hmore, -⟩ := bind_eq_ok.mp h
        exact ⟨⟨n, a, mapError_eq_ok.mp hn, ha⟩, more, hmore⟩
      · rintro ⟨⟨n, a, hn, ha⟩, more, hmore⟩
        refine ⟨(n, a) :: more, ?_⟩
        rw [show name = .ok n from hn, show decode doc = .ok a from ha, hmore]
        rfl

/-- A table of texts is read from an object of texts, whatever the texts are. -/
theorem texts_isOk_iff : (∃ t, text.table.decode src doc = .ok t) ↔ doc.IsTexts := by
  unfold Doc.IsTexts
  constructor
  · rintro ⟨t, h⟩
    cases doc with
    | obj members ending =>
        obtain ⟨entries, hentries, h⟩ := bind_eq_ok.mp h
        obtain ⟨_, hending, -⟩ := bind_eq_ok.mp h
        have hnone : ending = none := by
          cases ending with
          | none => rfl
          | some e => cases hending
        refine ⟨members, by rw [hnone], fun m hm => ?_⟩
        obtain ⟨n, s, hn, hs⟩ := decodeEntries_isOk_iff.mp ⟨entries, hentries⟩ m hm
        exact ⟨n, s, Prod.ext hn (text_eq_ok_iff.mp hs)⟩
    | _ => cases h
  · rintro ⟨members, rfl, h⟩
    have hmembers : ∀ m ∈ members, ∃ n s, m.1 = .ok n ∧ text.decode src m.2 = .ok s := by
      intro m hm
      obtain ⟨n, s, rfl⟩ := h m hm
      exact ⟨n, s, rfl, rfl⟩
    obtain ⟨entries, hentries⟩ := decodeEntries_isOk_iff.mpr hmembers
    exact ⟨Table.ofList entries, bind_eq_ok.mpr ⟨entries, hentries, rfl⟩⟩

/-- One of the items is decoded by itself. -/
theorem decodeItems_middle_iff {decode : Doc → Except DecodeError α} {before after : List Doc}
    {as : List α} :
    decodeItems decode (before ++ doc :: after) = .ok as
      ↔ ∃ bs a cs, as = bs ++ a :: cs ∧ decodeItems decode before = .ok bs
        ∧ decode doc = .ok a ∧ decodeItems decode after = .ok cs := by
  induction before generalizing as with
  | nil =>
      rw [List.nil_append, decodeItems, decodeItems]
      simp only [bind_eq_ok]
      constructor
      · rintro ⟨a, ha, cs, hcs, h⟩
        exact ⟨[], a, cs, (Except.ok.inj h).symm, rfl, ha, hcs⟩
      · rintro ⟨bs, a, cs, rfl, hbs, ha, hcs⟩
        cases hbs
        exact ⟨a, ha, cs, hcs, rfl⟩
  | cons first rest ih =>
      rw [List.cons_append, decodeItems, decodeItems]
      simp only [bind_eq_ok, ih]
      constructor
      · rintro ⟨b, hb, _, ⟨bs, a, cs, rfl, hbs, ha, hcs⟩, h⟩
        exact ⟨b :: bs, a, cs, (Except.ok.inj h).symm, ⟨b, hb, bs, hbs, rfl⟩, ha, hcs⟩
      · rintro ⟨_, a, cs, rfl, ⟨b, hb, bs, hbs, h⟩, ha, hcs⟩
        cases h
        exact ⟨b, hb, _, ⟨bs, a, cs, rfl, hbs, ha, hcs⟩, rfl⟩

end Wire.Format

-- ==================================================================== lists

namespace Api

variable {s : Secret} {l : SecretList}

theorem Secret.record_read_iff (b : SecretMeta × Table String × Unit) (s : Secret) :
    Secret.record.read b = .ok s ↔ b = Secret.record.write s := by
  obtain ⟨m, t, ⟨⟩⟩ := b
  obtain ⟨m', t'⟩ := s
  simp [Secret.record]

/-- The members around the items of a list and the items around one of them are
read, the latter as these secrets. -/
structure SecretList.Around
    (outer : List (Except Fault String × Doc) × List (Except Fault String × Doc))
    (others : List Doc × List Doc) (before after : List Secret) : Prop where
  clean : Clean SecretList.record.fields.names false (outer.1 ++ outer.2)
  fresh : ∀ m ∈ outer.1 ++ outer.2, m.1 ≠ .ok "items"
  before : Format.decodeItems (Secret.record.format.decode .text) others.1 = .ok before
  after : Format.decodeItems (Secret.record.format.decode .text) others.2 = .ok after

/-- A list is read when what is around an item is read and the item is. -/
theorem SecretList.decode_iff_around
    (outer : List (Except Fault String × Doc) × List (Except Fault String × Doc))
    (others : List Doc × List Doc) {item : Doc} :
    SecretList.record.format.decode .text
        (.obj (outer.1 ++ (.ok "items", .arr (others.1 ++ item :: others.2) none) :: outer.2) none)
        = .ok l
      ↔ ∃ before s after, l = ⟨before ++ s :: after⟩ ∧ Around outer others before after
        ∧ Secret.record.format.decode .text item = .ok s := by
  have hread : ∀ b a, SecretList.record.read b = .ok a ↔ b = SecretList.record.write a := by
    rintro ⟨items, ⟨⟩⟩ ⟨items'⟩
    simp [SecretList.record]
  have hitems : Secret.record.format.list.decode .text
        (.arr (others.1 ++ item :: others.2) none) = .ok l.items
      ↔ Format.decodeItems (Secret.record.format.decode .text) (others.1 ++ item :: others.2)
        = .ok l.items := by
    show (_ >>= _) = _ ↔ _
    rw [bind_eq_ok]
    exact ⟨fun ⟨_, h, h'⟩ => (Except.ok.inj h') ▸ h, fun h => ⟨_, h, rfl⟩⟩
  have hholds : ∀ hfresh : ∀ m ∈ outer.1 ++ outer.2, m.1 ≠ .ok "items",
      (SecretList.record.fields.fill .text (outer.1
          ++ (.ok "items", .arr (others.1 ++ item :: others.2) none) :: outer.2)).Holds
          (SecretList.record.write l)
        ↔ ∃ before s after, l.items = before ++ s :: after
          ∧ Format.decodeItems (Secret.record.format.decode .text) others.1 = .ok before
          ∧ Secret.record.format.decode .text item = .ok s
          ∧ Format.decodeItems (Secret.record.format.decode .text) others.2 = .ok after := by
    intro hfresh
    rw [← Format.decodeItems_middle_iff, ← hitems]
    simp only [SecretList.record, Fields.fill, Slots.Holds, Member.defaulted,
      Fields.find?_insert hfresh]
    simp
  rw [Record.decode_obj_iff hread, Clean.insert_iff (by decide)]
  constructor
  · rintro ⟨⟨hclean, hfresh⟩, h⟩
    obtain ⟨before, s, after, hl, hbefore, hs, hafter⟩ := (hholds hfresh).mp h
    refine ⟨before, s, after, ?_, ⟨hclean, hfresh, hbefore, hafter⟩, hs⟩
    cases l
    cases hl
    rfl
  · rintro ⟨before, s, after, rfl, h, hs⟩
    exact ⟨⟨h.clean, h.fresh⟩,
      (hholds h.fresh).mpr ⟨before, s, after, rfl, h.before, hs, h.after⟩⟩

-- ================================================================ the open list

/-- The document of a list of secrets in which the data of one is left open. -/
structure OpenList where
  /-- What stands around the items. -/
  outer : List (Except Fault String × Doc) × List (Except Fault String × Doc)
  /-- What stands around the secret. -/
  others : List Doc × List Doc
  /-- What stands around its data. -/
  own : List (Except Fault String × Doc) × List (Except Fault String × Doc)
  fresh : ∀ m ∈ own.1 ++ own.2, m.1 ≠ .ok "data"

namespace OpenList

/-- The members of the secret with this as its data, if it has some. -/
def members (k : OpenList) : Option Doc → List (Except Fault String × Doc)
  | none => k.own.1 ++ k.own.2
  | some d => k.own.1 ++ (.ok "data", d) :: k.own.2

/-- The secret. -/
def secret (k : OpenList) (d : Option Doc) : Doc := .obj (k.members d) none

/-- The list. -/
def doc (k : OpenList) (d : Option Doc) : Doc :=
  .obj (k.outer.1 ++ (.ok "items", .arr (k.others.1 ++ k.secret d :: k.others.2) none) :: k.outer.2)
    none

/-- The metadata of the secret is read as this. -/
def Describes (k : OpenList) (m : SecretMeta) : Prop :=
  Clean Secret.record.fields.names false (k.own.1 ++ k.own.2)
    ∧ ∃ doc, Fields.find? "metadata" (k.own.1 ++ k.own.2) = some doc
      ∧ SecretMeta.record.format.decode .text doc = .ok m

/-- The data of a secret is read as this; it may be missing. -/
def Data (t : Table String) : Option Doc → Prop
  | none => t = Table.empty
  | some d => Format.text.table.decode .text d = .ok t

variable {k : OpenList} {d : Option Doc}

/-- A secret is decoded where its metadata are and its data are a table of
texts. -/
theorem decode_secret_iff :
    Secret.record.format.decode .text (k.secret d) = .ok s
      ↔ k.Describes s.metadata ∧ Data s.data d := by
  have hclean : Clean Secret.record.fields.names false (k.members d)
      ↔ Clean Secret.record.fields.names false (k.own.1 ++ k.own.2) := by
    cases d with
    | none => exact Iff.rfl
    | some d => exact (Clean.insert_iff (by decide)).trans (and_iff_left k.fresh)
  have hmetadata : Fields.find? "metadata" (k.members d)
      = Fields.find? "metadata" (k.own.1 ++ k.own.2) := by
    cases d with
    | none => rfl
    | some d => exact Fields.find?_insert_of_ne (by decide)
  have hdata : Fields.find? "data" (k.members d) = d := by
    cases d with
    | none => exact Fields.find?_eq_none_iff.mpr k.fresh
    | some d => exact Fields.find?_insert k.fresh
  have hholds : (Secret.record.fields.fill .text (k.members d)).Holds (Secret.record.write s)
      ↔ (∃ doc, Fields.find? "metadata" (k.own.1 ++ k.own.2) = some doc
          ∧ SecretMeta.record.format.decode .text doc = .ok s.metadata)
        ∧ Data s.data d := by
    rw [← hmetadata]
    simp only [Secret.record, Fields.fill, Slots.Holds, Member.required, Member.defaulted, hdata]
    refine and_congr (by simp) ?_
    cases d with
    | none => simp [Data, eq_comm]
    | some d => simp [Data]
  unfold secret
  rw [Record.decode_obj_iff Secret.record_read_iff, hholds,
    show Secret.record.closed = false from rfl, hclean]
  exact and_assoc.symm

/-- So a list with one open place is decoded where the rest is and a table of
texts stands there. -/
theorem decode_doc_iff :
    SecretList.record.format.decode .text (k.doc d) = .ok l
      ↔ ∃ before s after, l = ⟨before ++ s :: after⟩
        ∧ SecretList.Around k.outer k.others before after
        ∧ k.Describes s.metadata ∧ Data s.data d := by
  unfold doc
  simp only [SecretList.decode_iff_around, decode_secret_iff]

/-- Every secret that is an object can be opened. -/
theorem exists_doc_eq {members own : List (Except Fault String × Doc)} {before after : List Doc}
    (h : SecretList.record.format.decode .text (.obj members none) = .ok l)
    (hitems : Fields.find? "items" members = some (.arr (before ++ .obj own none :: after) none)) :
    ∃ (k : OpenList) (d : Option Doc),
      k.doc d = .obj members none ∧ k.secret d = .obj own none ∧ k.others = (before, after) := by
  obtain ⟨outer, outer', rfl⟩ := Fields.exists_append_of_find? hitems
  obtain ⟨_, s, _, -, -, hs⟩ := (SecretList.decode_iff_around (outer, outer') (before, after)).mp h
  have hclean := ((Record.decode_obj_iff Secret.record_read_iff).mp hs).1
  cases hdata : Fields.find? "data" own with
  | none =>
      have hfresh := Fields.find?_eq_none_iff.mp hdata
      rw [← List.append_nil own] at hfresh
      refine ⟨⟨(outer, outer'), (before, after), (own, []), hfresh⟩, none, ?_⟩
      simp [doc, secret, members]
  | some d =>
      obtain ⟨b, a, rfl⟩ := Fields.exists_append_of_find? hdata
      have hfresh := ((Clean.insert_iff (by decide)).mp hclean).2
      exact ⟨⟨(outer, outer'), (before, after), (b, a), hfresh⟩, some d, rfl, rfl, rfl⟩

end OpenList

-- ================================================================== the reply

variable {client : Client} {selector dataKey : String} {status : Nat} {body : String}
  {doc : Doc} {t : Table Bytes}

theorem readText_of_read {α : Type} {f : Format α} (hbody : Json.Text.read body = ⟨doc, none⟩) :
    f.readText body = f.decode .text doc := by
  unfold Format.readText
  rw [hbody]
  dsimp only
  cases f.decode .text doc <;> rfl

/-- A reply is a listing when the server is content and the body is a list of
secrets. -/
theorem listingOf_eq_ok_iff (hbody : Json.Text.read body = ⟨doc, none⟩) :
    listingOf client selector dataKey (.ok ⟨status, body⟩) = .ok t
      ↔ isSuccess status = true ∧ ∃ l, SecretList.record.format.decode .text doc = .ok l
        ∧ t = l.collect selector dataKey := by
  unfold listingOf
  simp only [readText_of_read hbody]
  cases isSuccess status with
  | false => simp
  | true => cases SecretList.record.format.decode .text doc <;> simp [eq_comm]

/-- It fails for the body where that is no list. -/
theorem listingOf_eq_error (hbody : Json.Text.read body = ⟨doc, none⟩)
    (hstatus : isSuccess status = true)
    (hdoc : ∀ l, SecretList.record.format.decode .text doc ≠ .ok l) :
    listingOf client selector dataKey (.ok ⟨status, body⟩)
      = .error (.serialization "secret list: error decoding response body") := by
  unfold listingOf
  simp only [readText_of_read hbody, hstatus]
  cases h : SecretList.record.format.decode .text doc with
  | ok l => exact absurd h (hdoc l)
  | error e => rfl

/-- Of a reply that is taken, every secret that is an object can have its data
replaced. By texts, whatever they are, this costs no cluster anything but the
secret's own; by anything else it costs every cluster everything. -/
theorem listingOf_replaceData (client : Client) (selector dataKey : String) (status : Nat)
    (body : String) (t : Table Bytes)
    (haccepted : listingOf client selector dataKey (.ok ⟨status, body⟩) = .ok t) :
    (∀ members before own after, Json.Text.read body = ⟨.obj members none, none⟩ →
        Fields.find? "items" members = some (.arr (before ++ .obj own none :: after) none) →
        ∃ (k : OpenList) (d : Option Doc),
          k.doc d = .obj members none ∧ k.secret d = .obj own none ∧ k.others = (before, after))
      ∧ ∀ (k : OpenList) (d : Option Doc) (v : Doc) (body' : String),
        Json.Text.read body = ⟨k.doc d, none⟩ → Json.Text.read body' = ⟨k.doc (some v), none⟩ →
        ∃ s, Secret.record.format.decode .text (k.secret d) = .ok s
          ∧ (v.IsTexts → ∃ t', listingOf client selector dataKey (.ok ⟨status, body'⟩) = .ok t'
            ∧ ∀ cluster, s.metadata.labels.get? selector ≠ some cluster →
              t'.get? cluster = t.get? cluster)
          ∧ (¬v.IsTexts → listingOf client selector dataKey (.ok ⟨status, body'⟩)
            = .error (.serialization "secret list: error decoding response body")) := by
  constructor
  · intro members before own after hbody hitems
    obtain ⟨-, l, hl, -⟩ := (listingOf_eq_ok_iff hbody).mp haccepted
    exact OpenList.exists_doc_eq hl hitems
  · intro k d v body' hbody hbody'
    obtain ⟨hstatus, l, hl, rfl⟩ := (listingOf_eq_ok_iff hbody).mp haccepted
    obtain ⟨before, s, after, rfl, haround, hs, hdata⟩ := OpenList.decode_doc_iff.mp hl
    refine ⟨s, OpenList.decode_secret_iff.mpr ⟨hs, hdata⟩, fun htexts => ?_, fun htexts => ?_⟩
    · obtain ⟨data, hv⟩ := Format.texts_isOk_iff.mpr htexts
      have hl' : SecretList.record.format.decode .text (k.doc (some v))
          = .ok ⟨before ++ { s with data } :: after⟩ :=
        OpenList.decode_doc_iff.mpr ⟨before, { s with data }, after, rfl, haround, hs, hv⟩
      refine ⟨_, (listingOf_eq_ok_iff hbody').mpr ⟨hstatus, _, hl', rfl⟩, fun cluster hlabel => ?_⟩
      -- the secret has nothing for the cluster, neither as it was nor as it is now
      have hserves : ∀ data, ¬Secret.Serves selector dataKey cluster { s with data } :=
        fun data ⟨_, hholds⟩ => hlabel hholds.1
      rw [SecretList.get?_collect_skip (hserves data),
        SecretList.get?_collect_skip (hserves s.data)]
    · refine listingOf_eq_error hbody' hstatus fun l' hl' => htexts ?_
      obtain ⟨_, s', _, -, -, -, hv⟩ := OpenList.decode_doc_iff.mp hl'
      exact Format.texts_isOk_iff.mp ⟨s'.data, hv⟩

-- ---------------------------------------------------------------- two secrets

/-- The text of two secrets, of which the first has this as its data. -/
def twoSecrets (data : String) : String :=
  "\x7b\"items\":[\x7b\"metadata\":\x7b\"labels\":\x7b\"l\":\"a\"\x7d\x7d,\"data\":" ++ data
    ++ "\x7d,\x7b\"metadata\":\x7b\"labels\":\x7b\"l\":\"b\"\x7d\x7d,\"data\":"
    ++ "\x7b\"k\":\"Qg==\"\x7d\x7d]\x7d"

/-- The metadata of a secret of this cluster. -/
def metadataDoc (cluster : String) : Except Fault String × Doc :=
  (.ok "metadata", .obj [(.ok "labels", .obj [(.ok "l", .str (.ok cluster))] none)] none)

/-- Data with this text under the key. -/
def dataDoc (text : String) : Doc := .obj [(.ok "k", .str (.ok text))] none

/-- The two secrets with the data of the first left open. -/
def openTwo : OpenList where
  outer := ([], [])
  others := ([], [.obj [metadataDoc "b", (.ok "data", dataDoc "Qg==")] none])
  own := ([metadataDoc "a"], [])
  fresh := by decide

/-- The body is read as the list with the data in its open place. -/
theorem read_twoSecrets : Json.Text.read (twoSecrets "\x7b\"k\":\"QQ==\"\x7d")
    = ⟨openTwo.doc (some (dataDoc "QQ==")), none⟩ := by decide +kernel

theorem read_twoSecrets_null :
    Json.Text.read (twoSecrets "null") = ⟨openTwo.doc (some .null), none⟩ := by decide +kernel

/-- With texts there both clusters are listed. -/
theorem listingOf_twoSecrets :
    listingOf ⟨"", ""⟩ "l" "k" (.ok ⟨200, twoSecrets "\x7b\"k\":\"QQ==\"\x7d"⟩)
      = .ok (Table.ofList [("a", [65]), ("b", [66])]) :=
  (listingOf_eq_ok_iff read_twoSecrets).mpr ⟨rfl, ⟨[
    ⟨⟨"", Table.ofList [("l", "a")]⟩, Table.ofList [("k", "QQ==")]⟩,
    ⟨⟨"", Table.ofList [("l", "b")]⟩, Table.ofList [("k", "Qg==")]⟩]⟩,
    by decide +kernel, by decide +kernel⟩

/-- A text that cannot be used costs the other cluster nothing, and no data at all
costs it its certificates. -/
theorem listingOf_replaceData_twoSecrets :
    (∃ t, listingOf ⟨"", ""⟩ "l" "k" (.ok ⟨200, twoSecrets "\x7b\"k\":\"***\"\x7d"⟩) = .ok t
        ∧ t.get? "b" = some [66])
      ∧ listingOf ⟨"", ""⟩ "l" "k" (.ok ⟨200, twoSecrets "null"⟩)
        = .error (.serialization "secret list: error decoding response body") := by
  obtain ⟨-, hreplace⟩ := listingOf_replaceData _ _ _ _ _ _ listingOf_twoSecrets
  have hread : Json.Text.read (twoSecrets "\x7b\"k\":\"***\"\x7d")
      = ⟨openTwo.doc (some (dataDoc "***")), none⟩ := by decide +kernel
  obtain ⟨s, hs, htexts, -⟩ := hreplace openTwo _ _ _ read_twoSecrets hread
  obtain ⟨-, -, -, hnull⟩ := hreplace openTwo _ _ _ read_twoSecrets read_twoSecrets_null
  refine ⟨?_, hnull fun ⟨_, h, _⟩ => nomatch h⟩
  obtain ⟨t, ht, hothers⟩ := htexts ⟨_, rfl, fun m hm => ⟨_, _, List.mem_singleton.mp hm⟩⟩
  have hlabel : s.metadata.labels.get? "l" = some "a" := by
    have hsecret : Secret.record.format.decode .text (openTwo.secret (some (dataDoc "QQ==")))
        = .ok ⟨⟨"", Table.ofList [("l", "a")]⟩, Table.ofList [("k", "QQ==")]⟩ := by
      decide +kernel
    rw [hsecret] at hs
    cases hs
    rfl
  exact ⟨t, ht, (hothers "b" (by rw [hlabel]; decide)).trans rfl⟩

/-- Both clusters have their certificates; with no data in the secret of the one
the other loses them too. -/
theorem nullData_costs_all :
    listingOf ⟨"", ""⟩ "l" "k" (.ok ⟨200, twoSecrets "\x7b\"k\":\"QQ==\"\x7d"⟩)
        = .ok (Table.ofList [("a", [65]), ("b", [66])])
      ∧ listingOf ⟨"", ""⟩ "l" "k" (.ok ⟨200, twoSecrets "null"⟩)
        = .error (.serialization "secret list: error decoding response body") := by
  refine ⟨listingOf_twoSecrets, listingOf_eq_error read_twoSecrets_null rfl fun l hl => ?_⟩
  obtain ⟨-, s, -, -, -, -, hdata⟩ := OpenList.decode_doc_iff.mp hl
  exact nomatch hdata

end Api

end NetworkSlice
