import NetworkSlice.Proofs.Wire.Record
import NetworkSlice.Resource.Wire
import NetworkSlice.Settings.Wire

/-
Requests, settings and objects are read back from what is written of them.

Every type but one is a record of faithful members with names of their own, so
its lemma names the lemmas of its members (`Record.faithful`). The exception is
the request, whose namespace stands among the members of its slice. `split` has
to find it and to leave the others what they are (`split_append`), and then the
others are members with what was written for them.
-/
namespace NetworkSlice

open Wire Wire.Member

-- ========================================================= slices and parts

/-- A kind of network is its name. -/
theorem NetworkType.faithful : NetworkType.format.Faithful :=
  Format.faithful_variants fun t => by cases t <;> decide

theorem EmptyLinks.faithful : EmptyLinks.format.Faithful :=
  Format.faithful_variants fun p => by cases p <;> decide

/-- A link is the names of its ends. -/
theorem Link.faithful : Link.format.Faithful :=
  Link.record.faithful
    ⟨.required Format.faithful_text, .required Format.faithful_text, trivial⟩
    (by decide) fun _ => rfl

/-- A text that may be missing is never written as `null`. -/
theorem faithful_optionalText (name : String) : (optional name Format.text).Faithful :=
  .optional Format.faithful_text fun _ => nofun

/-- Ports are texts, each of them left out where none is given. -/
theorem ProviderPorts.faithful : ProviderPorts.format.Faithful :=
  ProviderPorts.record.faithful
    ⟨faithful_optionalText _, faithful_optionalText _, faithful_optionalText _,
      faithful_optionalText _, trivial⟩
    (by decide) fun _ => rfl

/-- What a provider does not say is written all the same, as empty. -/
theorem Provider.faithful : Provider.format.Faithful :=
  Provider.record.faithful
    ⟨.defaulted Format.faithful_text _, .defaulted Format.faithful_text _,
      .defaulted ProviderPorts.faithful _, trivial⟩
    (by decide) fun _ => rfl

/-- A gateway is a name and an address. -/
theorem Gateway.faithful : Gateway.format.Faithful :=
  Gateway.record.faithful
    ⟨.required Format.faithful_text, .required Format.faithful_text, trivial⟩
    (by decide) fun _ => rfl

theorem Auth.faithful : Auth.format.Faithful :=
  Auth.record.faithful
    ⟨.required Format.faithful_text, .required Format.faithful_text, trivial⟩
    (by decide) fun _ => rfl

/-- A block that may be missing is a text or nothing. -/
theorem faithful_optionalCidr (name : String) : (optional name Format.cidr).Faithful :=
  .optional Format.faithful_cidr fun _ => nofun

/-- Links, if any are given: an empty list is not the same as none. -/
theorem faithful_optionalLinks (name : String) : (optional name Link.format.list).Faithful :=
  .optional Link.faithful.list fun _ => nofun

/-- Nodes are left out where there are none, which is what no nodes count as. -/
theorem Participant.faithful : Participant.format.Faithful :=
  Participant.record.faithful
    ⟨.required Format.faithful_text, .optional Auth.faithful Auth.record.encode_ne_null,
      .required Gateway.faithful, .listed Format.faithful_text, faithful_optionalLinks _,
      faithful_optionalCidr _, trivial⟩
    (by decide) fun _ => rfl

/-- The members of a slice are read back one by one. -/
theorem Slice.faithful_fields : Slice.record.fields.Faithful :=
  ⟨.required Format.faithful_text, .optional NetworkType.faithful fun _ => nofun,
    .optional Provider.faithful Provider.record.encode_ne_null, faithful_optionalText _,
    .defaulted Format.faithful_flag _, .required Participant.faithful.list,
    faithful_optionalLinks _, trivial⟩

/-- No two of them have one name. -/
theorem Slice.nodup_names : Slice.record.fields.names.Nodup := by decide

/-- So a slice is read back. -/
theorem Slice.faithful : Slice.format.Faithful :=
  Slice.record.faithful faithful_fields nodup_names fun _ => rfl

/-- An assignment is the list of its blocks. -/
theorem Assignment.faithful : Assignment.format.Faithful :=
  Assignment.record.faithful ⟨.required Format.faithful_cidr.list, trivial⟩
    (by decide) fun _ => rfl

-- ================================================================= settings

/-- Nanoseconds are fewer than a second's, so nothing is carried over. -/
theorem Duration.carry_nanos (d : Duration) : carry d.secs (UInt32.ofNat d.nanos) = .ok d := by
  obtain ⟨secs, nanos, hnanos⟩ := d
  have hword : (UInt32.ofNat nanos).toNat = nanos := by
    refine UInt32.toNat_ofNat_of_lt (Nat.lt_trans hnanos ?_)
    decide
  have hsecs := secs.toNat_lt_size
  unfold carry
  simp only [hword, Nat.div_eq_of_lt hnanos, Nat.add_zero, if_pos hsecs, UInt64.ofNat_toNat,
    Nat.mod_eq_of_lt hnanos]

/-- So a length of time is read back as it is, without a carry. -/
theorem Duration.faithful : Duration.format.Faithful :=
  Duration.record.faithful
    ⟨.required Format.faithful_u64, .required Format.faithful_u32, trivial⟩
    (by decide) Duration.carry_nanos

/-- A text with a default is written even where it is the default. -/
theorem faithful_defaultedText (name standard : String) :
    (defaulted name Format.text standard).Faithful :=
  .defaulted Format.faithful_text standard

/-- Defaults have defaults of their own, and are written in full. -/
theorem Defaults.faithful : Defaults.format.Faithful :=
  Defaults.record.faithful
    ⟨.defaulted NetworkType.faithful _, faithful_defaultedText _ _, faithful_defaultedText _ _,
      faithful_defaultedText _ _, faithful_defaultedText _ _, faithful_defaultedText _ _,
      faithful_defaultedText _ _, faithful_defaultedText _ _, faithful_defaultedText _ _, trivial⟩
    (by decide) fun _ => rfl

/-- The timeout is written even if there is none, so its default does not take
its place. -/
theorem Settings.faithful : Settings.format.Faithful :=
  Settings.record.faithful
    ⟨.defaulted Defaults.faithful _, faithful_defaultedText _ _, faithful_defaultedText _ _,
      faithful_defaultedText _ _,
      .defaulted (Duration.faithful.option Duration.record.encode_ne_null) _,
      .defaulted EmptyLinks.faithful _, trivial⟩
    (by decide) fun _ => rfl

-- ================================================================== objects

/-- A reference to a field is its path. -/
theorem FieldRef.faithful : FieldRef.record.format.Faithful :=
  FieldRef.record.faithful ⟨.required Format.faithful_text, trivial⟩ (by decide) fun _ => rfl

theorem EnvSource.faithful : EnvSource.record.format.Faithful :=
  EnvSource.record.faithful ⟨.required FieldRef.faithful, trivial⟩ (by decide) fun _ => rfl

/-- A variable is a name with where it is taken from. -/
theorem EnvVar.faithful : EnvVar.record.format.Faithful :=
  EnvVar.record.faithful
    ⟨.required Format.faithful_text, .required EnvSource.faithful, trivial⟩
    (by decide) fun _ => rfl

/-- Capabilities are the list of those that are added. -/
theorem Capabilities.faithful : Capabilities.record.format.Faithful :=
  Capabilities.record.faithful ⟨.required Format.faithful_text.list, trivial⟩
    (by decide) fun _ => rfl

theorem SecurityContext.faithful : SecurityContext.record.format.Faithful :=
  SecurityContext.record.faithful ⟨.required Capabilities.faithful, trivial⟩
    (by decide) fun _ => rfl

/-- A container is written without arguments and variables where it has none. -/
theorem Container.faithful : Container.record.format.Faithful :=
  Container.record.faithful
    ⟨.required Format.faithful_text, .required Format.faithful_text,
      .listed Format.faithful_text, .listed EnvVar.faithful, faithful_optionalText _,
      .required SecurityContext.faithful, trivial⟩
    (by decide) fun _ => rfl

/-- Only a pod that does not share the network is written without saying so. -/
theorem SwitchPod.faithful : SwitchPod.record.format.Faithful :=
  SwitchPod.record.faithful
    ⟨⟨Format.faithful_flag, by decide⟩, .required Container.faithful.list, trivial⟩
    (by decide) fun _ => rfl

/-- A template is the pod that is made of it. -/
theorem SwitchTemplate.faithful : SwitchTemplate.format.Faithful :=
  SwitchTemplate.record.faithful ⟨.required SwitchPod.faithful, trivial⟩
    (by decide) fun _ => rfl

/-- Only the empty table is left out. -/
theorem ObjectMeta.faithful : ObjectMeta.format.Faithful :=
  ObjectMeta.record.faithful
    ⟨.required Format.faithful_text,
      ⟨Format.faithful_text.table, fun t h =>
        congrArg some (Table.ext_entries (List.isEmpty_iff.mp h).symm)⟩,
      trivial⟩
    (by decide) fun _ => rfl

/-- A reference to a controller is a name and a domain. -/
theorem ControllerRef.faithful : ControllerRef.format.Faithful :=
  ControllerRef.record.faithful
    ⟨.required Format.faithful_text, .required Format.faithful_text, trivial⟩
    (by decide) fun _ => rfl

/-- An endpoint is that and four ports. -/
theorem ProviderEndpoint.faithful : ProviderEndpoint.format.Faithful :=
  ProviderEndpoint.record.faithful
    ⟨.required Format.faithful_text, .required Format.faithful_text,
      .required Format.faithful_text, .required Format.faithful_text,
      .required Format.faithful_text, .required Format.faithful_text, trivial⟩
    (by decide) fun _ => rfl

/-- A segment names its addresses only where it has some. -/
theorem SegmentSpec.faithful : SegmentSpec.format.Faithful :=
  SegmentSpec.record.faithful
    ⟨.required NetworkType.faithful, faithful_optionalCidr _, faithful_optionalCidr _,
      .required ControllerRef.faithful, trivial⟩
    (by decide) fun _ => rfl

/-- A segment has metadata and a spec. -/
theorem Segment.faithful : Segment.format.Faithful :=
  Segment.record.faithful
    ⟨.required ObjectMeta.faithful, .required SegmentSpec.faithful, trivial⟩
    (by decide) fun _ => rfl

theorem NodeConfig.faithful : NodeConfig.record.format.Faithful :=
  NodeConfig.record.faithful
    ⟨.required Format.faithful_text, .required Format.faithful_text, trivial⟩
    (by decide) fun _ => rfl

theorem Neighbor.faithful : Neighbor.format.Faithful :=
  Neighbor.record.faithful
    ⟨.required Format.faithful_text, .required Format.faithful_text, trivial⟩
    (by decide) fun _ => rfl

/-- An edge device lists its neighbors even where it has none. -/
theorem EdgeDeviceSpec.faithful : EdgeDeviceSpec.format.Faithful :=
  EdgeDeviceSpec.record.faithful
    ⟨.required ProviderEndpoint.faithful, .required NodeConfig.faithful,
      .required Neighbor.faithful.list, .required SwitchTemplate.faithful, trivial⟩
    (by decide) fun _ => rfl

theorem EdgeDevice.faithful : EdgeDevice.format.Faithful :=
  EdgeDevice.record.faithful
    ⟨.required ObjectMeta.faithful, .required EdgeDeviceSpec.faithful, trivial⟩
    (by decide) fun _ => rfl

/-- A topology is its nodes and the links between them. -/
theorem OverlayTopology.faithful : OverlayTopology.format.Faithful :=
  OverlayTopology.record.faithful
    ⟨.required Format.faithful_text.list, .required Link.faithful.list, trivial⟩
    (by decide) fun _ => rfl

/-- An overlay has a topology in the place of neighbors. -/
theorem OverlaySpec.faithful : OverlaySpec.format.Faithful :=
  OverlaySpec.record.faithful
    ⟨.required ControllerRef.faithful, .required OverlayTopology.faithful,
      .required SwitchTemplate.faithful, trivial⟩
    (by decide) fun _ => rfl

theorem Overlay.faithful : Overlay.format.Faithful :=
  Overlay.record.faithful
    ⟨.required ObjectMeta.faithful, .required OverlaySpec.faithful, trivial⟩
    (by decide) fun _ => rfl

-- ================================================================= requests

namespace Request

variable {members before after : List (String × Json)} {text : String}

/-- Members that are not the namespace are kept as they are. -/
theorem split_append (found : Option String)
    (kept more : List (Except Fault String × Doc)) (h : "namespace" ∉ members.map Prod.fst) :
    split .value found kept (Doc.ofMembers members ++ more)
      = split .value found ((Doc.ofMembers members).reverse ++ kept) more := by
  induction members generalizing kept with
  | nil => rw [Doc.ofMembers]; rfl
  | cons e rest ih =>
      obtain ⟨hne, hrest⟩ := not_or.mp (mt List.mem_cons.mpr h)
      rw [Doc.ofMembers, List.cons_append, List.reverse_cons, List.append_assoc,
        List.singleton_append, ← ih _ hrest, split]
      exact if_neg (Ne.symm hne)

/-- The namespace is found wherever it stands, and the others are kept in their
order. -/
theorem split_namespace (hbefore : "namespace" ∉ before.map Prod.fst)
    (hafter : "namespace" ∉ after.map Prod.fst) :
    split .value none [] (Doc.ofMembers (before ++ ("namespace", .str text) :: after))
      = .ok (some text, Doc.ofMembers (before ++ after)) := by
  have hrest := split_append (some text) (Doc.ofMembers before).reverse [] hafter
  rw [List.append_nil] at hrest
  rw [Doc.ofMembers_eq_map, List.map_append, List.map_cons, ← Doc.ofMembers_eq_map,
    ← Doc.ofMembers_eq_map, split_append none [] _ hbefore, List.append_nil, split]
  show split .value (some text) (Doc.ofMembers before).reverse (Doc.ofMembers after) = _
  rw [hrest, split, List.reverse_append, List.reverse_reverse, List.reverse_reverse,
    Doc.ofMembers_eq_map, Doc.ofMembers_eq_map, ← List.map_append, ← Doc.ofMembers_eq_map]

/-- A slice has no member of that name. -/
theorem namespace_not_mem_names : "namespace" ∉ Slice.record.fields.names := by decide

/-- So a request is read back, its namespace and its slice. -/
theorem read_write (r : Request) : format.read (format.write r) = .ok r := by
  obtain ⟨before, after, hsorted, hbefore, hafter, hwritten⟩ :=
    Fields.exists_written_of_foreign Slice.nodup_names namespace_not_mem_names
      (Slice.record.write r.slice) (.str r.namespaceName)
  have hslice := hwritten.decodeMembers .buffered false Slice.faithful_fields Slice.nodup_names
  unfold Format.read Format.write format
  dsimp only
  rw [Json.sorted_sorted, Json.sorted, hsorted, Json.sorted, Doc.ofJson]
  dsimp only
  rw [split_namespace hbefore hafter]
  simp only [bind, Except.bind, Wire.closed]
  rw [hslice]
  rfl

end Request

-- =============================================================== everything

/-- Whatever is written is read back as it was: slices and requests with their
parts, assignments, settings and objects. What is left out when it is written
is what it counts as when it is missing, so it comes back too, and the namespace
of a request is no member of a slice. -/
theorem Wire.writing_is_undone :
    (∀ s, Slice.format.read (Slice.format.write s) = .ok s)
      ∧ (∀ r, Request.format.read (Request.format.write r) = .ok r)
      ∧ (∀ p, Participant.format.read (Participant.format.write p) = .ok p)
      ∧ (∀ l, Link.format.read (Link.format.write l) = .ok l)
      ∧ (∀ p, Provider.format.read (Provider.format.write p) = .ok p)
      ∧ (∀ a, Assignment.format.read (Assignment.format.write a) = .ok a)
      ∧ (∀ s, Settings.format.read (Settings.format.write s) = .ok s)
      ∧ (∀ d, Defaults.format.read (Defaults.format.write d) = .ok d)
      ∧ (∀ s, Segment.format.read (Segment.format.write s) = .ok s)
      ∧ (∀ e, EdgeDevice.format.read (EdgeDevice.format.write e) = .ok e)
      ∧ (∀ o, Overlay.format.read (Overlay.format.write o) = .ok o)
      ∧ (∀ t, SwitchTemplate.format.read (SwitchTemplate.format.write t) = .ok t)
      ∧ "namespace" ∉ Slice.record.fields.names :=
  ⟨Slice.faithful.read_write, Request.read_write, Participant.faithful.read_write,
    Link.faithful.read_write, Provider.faithful.read_write, Assignment.faithful.read_write,
    Settings.faithful.read_write, Defaults.faithful.read_write, Segment.faithful.read_write,
    EdgeDevice.faithful.read_write, Overlay.faithful.read_write,
    SwitchTemplate.faithful.read_write, Request.namespace_not_mem_names⟩

end NetworkSlice
