import NetworkSlice.Cluster.Rehearsal
import NetworkSlice.Proofs.Plan.Steps

/-
What an object is found under.

A cluster keeps its objects by kind, namespace and name. A create sends the
whole object and a delete its name, so the two could be about different
things; they are not, because the name is written into the object and can be
read there (`objectName_toObject`, `key_call`). The objects of one participant
are of different kinds, and so never in each other's place
(`nodup_keys_of_plan`). Nor do those of two slices meet: an object is called
after its slice, with an ending that is the same for all objects of its kind
(`name_of_plan`).
-/
namespace NetworkSlice

-- =========================================================== single objects

/-- The name of metadata is among its members. -/
theorem ObjectMeta.get_name (x : ObjectMeta) :
    (ObjectMeta.format.encode x).sorted.get "name" = .str x.name := by
  have hencode : ObjectMeta.format.encode x
      = .obj (("name", .str x.name) :: if x.labels.entries.isEmpty then []
          else [("labels", Wire.Format.text.table.encode x.labels)]) := rfl
  rw [hencode]
  split
  · simp [Json.sorted, Json.sortedMembers, Json.get, Json.get?, arrange, lookup_place]
  · simp [Json.sorted, Json.sortedMembers, Json.get, Json.get?, arrange, lookup_place]

/-- The object that is sent for a descriptor has the descriptor's name. -/
theorem objectName_toObject (d : Descriptor) : Call.objectName d.toObject = d.name := by
  have hmetadata : d.toObject.get "metadata" = (ObjectMeta.format.encode d.metadata).sorted := rfl
  rw [Call.objectName, hmetadata, ObjectMeta.get_name]
  rfl

/-- What the object of a descriptor is found under. -/
def Descriptor.key (ns : String) (d : Descriptor) : ObjectKey := ⟨d.kind, ns, d.name⟩

/-- What an action asks of a cluster for a descriptor. -/
def Action.call (action : Action) (ns : String) (d : Descriptor) : Call :=
  match action with
  | .apply => .create d.kind ns d.toObject
  | .delete => .delete d.kind ns d.name

/-- Both actions are about the object under the descriptor's key. -/
theorem key_call (action : Action) (ns : String) (d : Descriptor) :
    (action.call ns d).key = d.key ns := by
  cases action with
  | apply =>
      show ObjectKey.mk d.kind ns (Call.objectName d.toObject) = _
      rw [objectName_toObject]
      rfl
  | delete => rfl

/-- What a slice calls its object of a kind. -/
def ObjectKind.nameIn (sliceName : String) : ObjectKind → String
  | segment => sliceName
  | edgeDevice => sliceName ++ "-ned"
  | overlay => sliceName ++ "-overlay"

theorem ObjectKind.nameIn_inj {kind : ObjectKind} {name name' : String} :
    kind.nameIn name = kind.nameIn name' ↔ name = name' := by
  cases kind <;> simp [nameIn, String.append_left_inj]

-- ============================================================== whole plans

/-- What the objects of a participant are found under. -/
def ParticipantPlan.keys (ns : String) (q : ParticipantPlan) : List ObjectKey :=
  q.descriptors.map (Descriptor.key ns)

/-- What the objects of the participant of a name are found under. -/
def Plan.keysOf (plan : Plan) (ns name : String) : List ObjectKey :=
  ((plan.participant? name).map (ParticipantPlan.keys ns)).getD []

namespace Composer

variable {c : Composer} {s : Slice} {scope : Scope} {plan : Plan} {q : ParticipantPlan}

/-- A participant has at most one object of a kind. -/
theorem nodup_kinds_of_plan (h : c.plan s scope = .ok plan) (hq : q ∈ plan.participants) :
    (q.descriptors.map Descriptor.kind).Nodup := by
  obtain ⟨i, p, -, hplan⟩ := exists_participant_of_plan h hq
  obtain ⟨segment, -, -, ⟨-, hds⟩ | ⟨ns, overlay, -, -, -, hds⟩⟩ := participantPlan_cases hplan
  · rw [hds]
    simp
  · rw [hds]
    simp [Descriptor.kind]

/-- So no two of its objects are found under one key. -/
theorem nodup_keys_of_plan (h : c.plan s scope = .ok plan) (hq : q ∈ plan.participants)
    (ns : String) : (q.keys ns).Nodup := by
  have hkinds : ((q.keys ns).map ObjectKey.kind).Nodup := by
    rw [ParticipantPlan.keys, List.map_map]
    exact nodup_kinds_of_plan h hq
  exact List.Pairwise.of_map ObjectKey.kind (fun k k' hne heq => hne (congrArg _ heq)) hkinds

/-- An object is called after its slice and its kind. -/
theorem metadata_of_plan (h : c.plan s scope = .ok plan) (hq : q ∈ plan.participants)
    {d : Descriptor} (hd : d ∈ q.descriptors) :
    d.metadata = .forSlice (d.kind.nameIn s.name) s.name := by
  obtain ⟨i, p, -, ⟨segment, hsegment, rfl⟩ | ⟨ns, rfl⟩ | ⟨overlay, hoverlay, rfl⟩⟩ :=
    descriptor_of_plan h hq hd
  · obtain ⟨given, -, rfl⟩ := segment_eq_ok_iff.mp hsegment
    rfl
  · rfl
  · obtain ⟨links, -, rfl⟩ := overlay_eq_ok_iff.mp hoverlay
    rfl

theorem name_of_plan (h : c.plan s scope = .ok plan) (hq : q ∈ plan.participants)
    {d : Descriptor} (hd : d ∈ q.descriptors) : d.name = d.kind.nameIn plan.sliceName := by
  obtain ⟨-, -, -, -, -, hname⟩ := plan_eq_ok_iff.mp h
  rw [Descriptor.name, metadata_of_plan h hq hd, hname]
  rfl

end Composer

end NetworkSlice
