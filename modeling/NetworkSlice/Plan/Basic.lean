import NetworkSlice.Address.Partition
import NetworkSlice.Resource.Basic

/-
Plans: the objects of a slice, participant by participant.
-/
namespace NetworkSlice

/-- How much is planned for a request. -/
inductive Scope where
  /-- The segments alone. -/
  | network
  /-- All that joins the clusters, too. -/
  | slice
deriving DecidableEq, Repr

/-- The objects of one participant, in the order of their creation. -/
structure ParticipantPlan where
  participant : String
  descriptors : List Descriptor
deriving DecidableEq

namespace ParticipantPlan

/-- The participant's segment. -/
def segment? (p : ParticipantPlan) : Option Segment := p.descriptors.findSome? Descriptor.segment?

/-- The participant's edge device. -/
def edgeDevice? (p : ParticipantPlan) : Option EdgeDevice :=
  p.descriptors.findSome? Descriptor.edgeDevice?

/-- The participant's overlay. -/
def overlay? (p : ParticipantPlan) : Option Overlay := p.descriptors.findSome? Descriptor.overlay?

end ParticipantPlan

/-- The plan of a slice. -/
structure Plan where
  sliceName : String
  /-- The links between participants; none where they play no part. -/
  links : List Link
  assignment : Option Assignment
  /-- In the order of the request. -/
  participants : List ParticipantPlan
deriving DecidableEq

namespace Plan

/-- The first participant of a name. -/
def participant? (p : Plan) (name : String) : Option ParticipantPlan :=
  p.participants.find? fun q => q.participant = name

/-- How many objects there are. -/
def descriptorCount (p : Plan) : Nat :=
  (p.participants.flatMap ParticipantPlan.descriptors).length

end Plan

end NetworkSlice
