import NetworkSlice.Error

/-
Links between named things, and why a list of them is no simple graph.

A link is written with a first and a second end and means the unordered pair
of them: `key` puts the two in order, so two links mean the same when their
keys are equal.
-/
namespace NetworkSlice

/-- A link between two names. -/
structure Link where
  endpointA : String
  endpointB : String
deriving DecidableEq, Repr

namespace Link

/-- Whether the link joins a name to itself. -/
def isSelfLoop (l : Link) : Bool := l.endpointA = l.endpointB

/-- The ends in ascending order: what the link means. -/
def key (l : Link) : String × String :=
  if l.endpointB < l.endpointA then (l.endpointB, l.endpointA) else (l.endpointA, l.endpointB)

/-- The end across from `name`, if `name` is an end. -/
def otherEnd? (l : Link) (name : String) : Option String :=
  if l.endpointA = name then some l.endpointB
  else if l.endpointB = name then some l.endpointA
  else none

end Link

/-- What is wrong with a link, given the links before it. -/
inductive LinkError where
  | selfLoop (name : String)
  | unknownEnd (name : String)
  | duplicate (endpointA endpointB : String)
deriving DecidableEq, Repr

/-- The wording of the error. -/
def LinkError.message : LinkError → String
  | selfLoop name => s!"self-loop on {name}"
  | unknownEnd name => s!"link references unknown participant: {name}"
  | duplicate a b => s!"duplicate link between {a} and {b}"

/-- Such links cannot be composed. -/
def LinkError.toSliceError (e : LinkError) : SliceError := .composition e.message

end NetworkSlice
