import NetworkSlice.Proofs.Resource.Keys
import NetworkSlice.Proofs.Wire.RoundTrip

/-
Objects can be read.

What a cluster is sent for a descriptor is put together from its parts, and
nothing here reads it again. It could be read: the kinds have different names on
a cluster, so the name says by which format the rest is to be read, and formats
read what they write. `ofObject` does it, and undoes `toObject`
(`ofObject_toObject`). So no two descriptors are sent as one object, not even of
different kinds, and nothing of a descriptor is lost that a cluster might go by;
in particular its name, under which the object is stored and is looked for again.
-/
namespace NetworkSlice

open Wire

-- ================================================================== kinds

namespace ObjectKind

/-- The format of kinds, by their names on a cluster. -/
def objectFormat : Format ObjectKind := Format.variants all objectName

/-- Kinds have names of their own on a cluster. -/
theorem faithful_objectFormat : objectFormat.Faithful :=
  Format.faithful_variants fun k => by cases k <;> decide

/-- So the name says which kind it is. -/
theorem read_objectName (kind : ObjectKind) :
    objectFormat.read (.str kind.objectName) = .ok kind := by
  have hwrite : objectFormat.write kind = .str kind.objectName := by
    show (Json.str kind.objectName).sorted = _
    rw [Json.sorted]
  rw [← hwrite, faithful_objectFormat.read_write]

/-- A name on a cluster is that of one kind. -/
theorem objectName_inj {kind kind' : ObjectKind} :
    kind.objectName = kind'.objectName ↔ kind = kind' := by
  refine ⟨fun h => ?_, congrArg objectName⟩
  have hread := read_objectName kind
  rw [h, read_objectName] at hread
  exact (Except.ok.inj hread).symm

end ObjectKind

-- ================================================================ objects

namespace Descriptor

variable (d : Descriptor)

/-- An object has the name of its kind. -/
theorem get_kind : d.toObject.get "kind" = .str d.kind.objectName := rfl

theorem read_kind : ObjectKind.objectFormat.read (d.toObject.get "kind") = .ok d.kind := by
  rw [get_kind, ObjectKind.read_objectName]

theorem read_metadata : ObjectMeta.format.read (d.toObject.get "metadata") = .ok d.metadata :=
  ObjectMeta.faithful.read_write d.metadata

/-- The value is read as what the descriptor's object is to be, by the format
for its kind. -/
def SpecifiedBy (j : Json) : Descriptor → Prop
  | segment s => SegmentSpec.format.read j = .ok s.spec
  | edgeDevice e => EdgeDeviceSpec.format.read j = .ok e.spec
  | overlay o => OverlaySpec.format.read j = .ok o.spec

/-- What the object is to be is read by the format of its kind. -/
theorem specifiedBy_spec : d.SpecifiedBy (d.toObject.get "spec") := by
  cases d with
  | segment s => exact SegmentSpec.faithful.read_write s.spec
  | edgeDevice e => exact EdgeDeviceSpec.faithful.read_write e.spec
  | overlay o => exact OverlaySpec.faithful.read_write o.spec

/-- The descriptor of an object, of the kind that the object names. -/
def ofObject (j : Json) : Except SliceError Descriptor := do
  let kind ← ObjectKind.objectFormat.read (j.get "kind")
  let metadata ← ObjectMeta.format.read (j.get "metadata")
  match kind with
  | .segment => return segment ⟨metadata, ← SegmentSpec.format.read (j.get "spec")⟩
  | .edgeDevice => return edgeDevice ⟨metadata, ← EdgeDeviceSpec.format.read (j.get "spec")⟩
  | .overlay => return overlay ⟨metadata, ← OverlaySpec.format.read (j.get "spec")⟩

/-- So a descriptor is read from its object. -/
theorem ofObject_toObject : ofObject d.toObject = .ok d := by
  have hspec := d.specifiedBy_spec
  refine bind_eq_ok.mpr ⟨d.kind, d.read_kind, bind_eq_ok.mpr ⟨d.metadata, d.read_metadata, ?_⟩⟩
  cases d with
  | segment s => exact bind_eq_ok.mpr ⟨s.spec, hspec, rfl⟩
  | edgeDevice e => exact bind_eq_ok.mpr ⟨e.spec, hspec, rfl⟩
  | overlay o => exact bind_eq_ok.mpr ⟨o.spec, hspec, rfl⟩

/-- And no two descriptors have one object. -/
theorem toObject_injective : Function.Injective toObject := by
  intro d d' h
  have hread := d.ofObject_toObject
  rw [h, d'.ofObject_toObject] at hread
  exact (Except.ok.inj hread).symm

/-- An object says all of its descriptor. Its metadata are read as the
descriptor's, the name of its kind is that of no other, and its specification is
read, by the format of the kind, as the descriptor's; so the object as a whole is
read as the descriptor, and no other descriptor has it. Its name is the
descriptor's, and what is created by the object is found by the name. -/
theorem object_faithful :
    (∀ d : Descriptor,
        ObjectMeta.format.read (d.toObject.get "metadata") = .ok d.metadata
          ∧ (∀ kind : ObjectKind, d.toObject.get "kind" = .str kind.objectName ↔ d.kind = kind)
          ∧ d.SpecifiedBy (d.toObject.get "spec")
          ∧ ofObject d.toObject = .ok d
          ∧ (d.toObject.get "metadata").get "name" = .str d.name
          ∧ ∀ ns, (Call.create d.kind ns d.toObject).key = (Call.delete d.kind ns d.name).key)
      ∧ Function.Injective toObject := by
  refine ⟨fun d => ⟨d.read_metadata, fun kind => ?_, d.specifiedBy_spec, d.ofObject_toObject, ?_,
    fun ns => ?_⟩, toObject_injective⟩
  · rw [get_kind, Json.str.injEq, ObjectKind.objectName_inj]
  · exact ObjectMeta.get_name d.metadata
  · exact (key_call .apply ns d).trans (key_call .delete ns d).symm

end Descriptor

end NetworkSlice
