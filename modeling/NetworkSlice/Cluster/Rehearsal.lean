import NetworkSlice.Cluster.Basic

/-
Rehearsals: clusters that answer as they are told.

A behaviour says how long a cluster takes, what it refuses, and whether it
remembers. A cluster that remembers is a store of objects by kind, namespace
and name: an object that is there cannot be created again, and one that is
not there cannot be deleted. A call that is given up has no effect.
-/
namespace NetworkSlice

/-- What tells objects of one cluster apart. -/
structure ObjectKey where
  kind : ObjectKind
  namespaceName : String
  name : String
deriving DecidableEq, Repr

/-- The key of the object that a call is about. -/
def Call.key (c : Call) : ObjectKey := ⟨c.kind, c.namespaceName, c.name⟩

/-- The key as one text. -/
def ObjectKey.text (k : ObjectKey) : String :=
  s!"{k.kind.objectName}/{k.namespaceName}/{k.name}"

/-- The objects of a cluster, last created first. -/
abbrev ObjectStore := List ObjectKey

/-- What a store answers to a call. -/
def ObjectStore.answer (s : ObjectStore) (c : Call) : Except ObjectError Unit :=
  if c.isCreate then
    if c.key ∈ s then .error (.alreadyExists c.name) else .ok ()
  else
    if c.key ∈ s then .ok () else .error (.notFound c.name)

/-- The store after a call. -/
def ObjectStore.after (s : ObjectStore) (c : Call) : ObjectStore :=
  if c.isCreate then
    if c.key ∈ s then s else c.key :: s
  else s.filter (· ≠ c.key)

/-- A call that is refused whatever the store holds. -/
structure RefusalRule where
  /-- Only creates, or only deletes. -/
  isCreate : Option Bool
  /-- Only objects of a kind, by its name on the cluster. -/
  kind : Option String
  error : ObjectError

/-- Whether the rule is about a call. -/
def RefusalRule.covers (r : RefusalRule) (c : Call) : Bool :=
  (r.isCreate.all fun b => b == c.isCreate) && (r.kind.all fun k => k == c.kind.objectName)

/-- How a cluster behaves. -/
structure Behaviour where
  /-- How long connecting takes, in nanoseconds; nothing if it never ends. -/
  connectDelay : Option Nat
  connectError : Option SliceError
  /-- How long a call takes, likewise. -/
  callDelay : Option Nat
  /-- The first rule that covers a call decides. -/
  rules : List RefusalRule
  /-- Whether the cluster remembers. -/
  stateful : Bool

/-- A cluster that accepts everything at once and remembers nothing. -/
def Behaviour.accepting : Behaviour := ⟨some 0, none, some 0, [], false⟩

namespace Rehearsal

/-- The memory of a cluster: nothing until a call reaches it. -/
abbrev Memory := Option ObjectStore

/-- The answer to a call and the memory after it. -/
def answer (b : Behaviour) (m : Memory) (c : Call) : Except ObjectError Unit × Memory :=
  match b.rules.find? fun r => r.covers c with
  | some r => (.error r.error, m)
  | none =>
    if b.stateful then
      let store := m.getD []
      (store.answer c, some (store.after c))
    else (.ok (), m)

/-- The cluster that behaves so. -/
def cluster (b : Behaviour) : Cluster Memory where
  lookup _ := some 0
  connect m _ :=
    let result := match b.connectError with
      | some e => .error e
      | none => .ok ()
    ⟨b.connectDelay, result, m, m⟩
  call m c :=
    let (result, after) := answer b m c
    ⟨b.callDelay, result, after, m⟩

end Rehearsal

end NetworkSlice
