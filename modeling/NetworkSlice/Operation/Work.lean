import NetworkSlice.Credential.Basic
import NetworkSlice.Lifecycle
import NetworkSlice.Plan.Basic
import NetworkSlice.Resource.Wire

/-
What is done for one participant: its work, as a tree of requests with a
branch for every answer.

Applying creates the objects in order and stops at the first that is not
created; nothing is taken back. Deleting goes backwards and passes over
objects that are not there. The phases of the participant are part of the
work, so whoever carries it out cannot get them wrong.
-/
namespace NetworkSlice

/-- What is done with the objects of a plan. -/
inductive Action where
  | apply
  | delete
deriving DecidableEq, Repr

/-- The name of an action. -/
def Action.name : Action → String
  | apply => "apply"
  | delete => "delete"

/-- A request to a cluster's object interface. -/
inductive Call where
  | create (kind : ObjectKind) (namespaceName : String) (object : Json)
  | delete (kind : ObjectKind) (namespaceName name : String)

namespace Call

/-- The name that an object gives itself, or nothing. -/
def objectName (object : Json) : String :=
  (((object.get "metadata").get "name").str?).getD ""

/-- The kind of the object. -/
def kind : Call → ObjectKind
  | create kind .. => kind
  | delete kind .. => kind

/-- The namespace of the object. -/
def namespaceName : Call → String
  | create _ ns _ => ns
  | delete _ ns _ => ns

/-- The name of the object. -/
def name : Call → String
  | create _ _ object => objectName object
  | delete _ _ name => name

/-- Whether an object is created. -/
def isCreate : Call → Bool
  | create .. => true
  | delete .. => false

end Call

/-- Work for one participant. -/
inductive Work where
  /-- It is done, with a message or an error. -/
  | done (result : Except SliceError String)
  /-- Something happens to the participant. -/
  | enter (input : PhaseInput) (rest : Work)
  /-- Ask for the participant's credentials. -/
  | resolve (next : Except SliceError Credential → Work)
  /-- Reach the cluster. -/
  | connect (credential : Credential) (next : Except SliceError Unit → Work)
  /-- Ask the cluster for something. -/
  | call (request : Call) (next : Except ObjectError Unit → Work)

namespace Work

/-- Create the objects in order; `total` of them are created in all. -/
def creates (participant namespaceName : String) (total : Nat) : List Descriptor → Work
  | [] => done (.ok s!"created {total} resources")
  | d :: rest =>
    call (.create d.kind namespaceName d.toObject) fun
      | .ok () => creates participant namespaceName total rest
      | .error e => done (.error (.ofObjectError participant e))

/-- Delete the objects in order, of which `absent` so far were not there;
there are `total` in all. -/
def deletes (participant namespaceName : String) (total absent : Nat) : List Descriptor → Work
  | [] => done (.ok s!"deleted {total - absent} resources ({absent} already absent)")
  | d :: rest =>
    call (.delete d.kind namespaceName d.name) fun
      | .ok () => deletes participant namespaceName total absent rest
      | .error e =>
        if e.isNotFound then deletes participant namespaceName total (absent + 1) rest
        else done (.error (.ofObjectError participant e))

/-- What is done with the objects once the cluster is reached. -/
def submit (action : Action) (namespaceName : String) (p : ParticipantPlan) : Work :=
  match action with
  | .apply => creates p.participant namespaceName p.descriptors.length p.descriptors
  | .delete => deletes p.participant namespaceName p.descriptors.length 0 p.descriptors.reverse

/-- All the work for a participant. -/
def ofPlan (action : Action) (namespaceName : String) (p : ParticipantPlan) : Work :=
  enter .authenticate <|
    resolve fun
      | .error e => done (.error e)
      | .ok credential =>
        connect credential fun
          | .error e => done (.error e)
          | .ok () => enter .connected (submit action namespaceName p)

end Work

end NetworkSlice
