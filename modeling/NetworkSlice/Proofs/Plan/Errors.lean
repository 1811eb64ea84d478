import NetworkSlice.Plan.Composer
import NetworkSlice.Proofs.Attempt

/-
What planning fails with.

Planning reads nothing but the request and the settings, and all it ever fails
with is an error of the request (`plan_failsOnly`). There is one lemma for
every step of a plan that can fail, and each only says so of the errors that
the step makes itself.
-/
namespace NetworkSlice

/-- The attempt fails with errors of the request alone. -/
abbrev BlamesRequest {α : Type} (x : Except SliceError α) : Prop :=
  FailsOnly (fun e => e.isRequestError = true) x

variable {s : Slice} {c : Composer} {scope : Scope} {links : List Link}
  {assignment : Option Assignment} {names : List String}

-- =========================================================== addresses

/-- That a text is no address block is a fault of the request. -/
theorem Cidr.parse_failsOnly (text : String) : BlamesRequest (Cidr.parse text) := by
  unfold Cidr.parse
  dsimp only
  split
  · exact failsOnly_ok _
  · exact failsOnly_error rfl

/-- So are faults of the block of a slice. -/
theorem Slice.block_failsOnly : BlamesRequest s.block := by
  unfold Slice.block
  split
  · exact failsOnly_ok _
  · exact (Cidr.parse_failsOnly _).map

/-- That a block cannot be cut so finely is one as well. -/
theorem Cidr.subBlocks_failsOnly (parent : Cidr) (len : Nat) :
    BlamesRequest (parent.subBlocks len) := by
  unfold Cidr.subBlocks
  split
  · exact failsOnly_ok _
  · exact failsOnly_error rfl

/-- Partitioning fails for want of addresses and for nothing else. -/
theorem Cidr.partition_failsOnly (parent : Cidr) (count : Nat) :
    BlamesRequest (parent.partition count) := by
  unfold Cidr.partition
  split
  · exact failsOnly_ok _
  · dsimp only
    split
    · exact failsOnly_error rfl
    · exact (parent.subBlocks_failsOnly _).bind fun blocks _ => failsOnly_ok _

-- ========================================================== validation

/-- Names fail when they are blank or repeated. -/
theorem Slice.checkNames_failsOnly :
    ∀ {seen : List String}, BlamesRequest (Slice.checkNames seen names) := by
  induction names with
  | nil => intro seen; exact failsOnly_ok ()
  | cons name rest ih =>
      intro seen
      unfold Slice.checkNames
      split
      · exact failsOnly_error rfl
      · split
        · exact failsOnly_error rfl
        · exact ih

/-- A block fails when it holds one address only, or is missing where it is to be
partitioned. -/
theorem Slice.checkBlock_failsOnly (partition : Bool) (block : Option Cidr) :
    BlamesRequest (Slice.checkBlock partition block) := by
  unfold Slice.checkBlock
  split
  · split
    · exact failsOnly_error rfl
    · exact failsOnly_ok ()
  · split
    · exact failsOnly_error rfl
    · exact failsOnly_ok ()

/-- Validating is these three in turn, and two tests of its own. -/
theorem Slice.validate_failsOnly : BlamesRequest s.validate := by
  unfold Slice.validate
  cases Text.isBlankText s.name with
  | true => exact failsOnly_error rfl
  | false =>
      cases s.participants.isEmpty with
      | true => exact failsOnly_error rfl
      | false =>
          exact Slice.checkNames_failsOnly.bind fun _ _ =>
            Slice.block_failsOnly.bind fun block _ => Slice.checkBlock_failsOnly _ block

-- =============================================================== links

/-- Links fail for what is wrong with the links. -/
theorem Topology.check_failsOnly (names : List String) (links : List Link) :
    BlamesRequest (Topology.check names links) :=
  failsOnly_mapError fun _ => rfl

/-- Resolving links fails when those that are given do. -/
theorem Topology.resolve_failsOnly (names : List String) (given : Option (List Link))
    (policy : EmptyLinks) : BlamesRequest (Topology.resolve names given policy) := by
  unfold Topology.resolve
  split
  · exact failsOnly_ok _
  · split
    · exact failsOnly_ok _
    · exact failsOnly_ok _
  · exact (Topology.check_failsOnly _ _).bind fun _ _ => failsOnly_ok _

namespace Composer

/-- The links of a request are checked before anything is composed of them. -/
theorem checkGiven_failsOnly : BlamesRequest (checkGiven s) := by
  unfold checkGiven
  split
  · exact failsOnly_ok ()
  · exact Topology.check_failsOnly _ _

/-- And again when they are laid between the participants. -/
theorem links_failsOnly : BlamesRequest (c.links s scope) := by
  unfold Composer.links
  split
  · exact Topology.resolve_failsOnly _ _ _
  · exact failsOnly_ok _

/-- Assigning blocks fails with the block and with its partition. -/
theorem assign_failsOnly : BlamesRequest (assign s) := by
  unfold assign
  refine Slice.block_failsOnly.bind ?_
  intro block _
  split
  · split
    · refine FailsOnly.bind ?_ fun _ _ => failsOnly_ok _
      exact (Cidr.partition_failsOnly _ _).bind fun _ _ => failsOnly_ok _
    · exact failsOnly_ok _
  · exact failsOnly_ok _

-- ======================================================== participants

/-- A segment fails where no block is assigned to it, and with the block of the
slice. -/
theorem segment_failsOnly {index : Nat} {p : Participant} :
    BlamesRequest (c.segment s assignment index p) := by
  unfold segment addresses
  refine FailsOnly.bind ?_ fun _ _ => failsOnly_ok _
  split
  · split
    · exact failsOnly_ok _
    · exact failsOnly_error rfl
  · exact Slice.block_failsOnly

-- With their addresses at hand participants fail by composition alone, so
-- whatever is true of all composition errors is true of theirs.

variable {P : SliceError → Prop} (hcomposition : ∀ text, P (.composition text))

include hcomposition

/-- Neighbors fail when one of them is not in the slice. -/
theorem neighborsOf_failsOnly : FailsOnly P (neighborsOf s names) := by
  induction names with
  | nil => exact failsOnly_ok _
  | cons name rest ih =>
      unfold neighborsOf neighbor
      refine FailsOnly.bind ?_ fun _ _ => ih.bind fun _ _ => failsOnly_ok _
      split
      · exact failsOnly_ok _
      · exact failsOnly_error (hcomposition _)

/-- An overlay fails when the links of its nodes do. -/
theorem overlay_failsOnly {p : Participant} : FailsOnly P (c.overlay s p) := by
  unfold overlay
  exact FailsOnly.bind (failsOnly_mapError fun _ => hcomposition _) fun _ _ => failsOnly_ok _

/-- A participant fails with its segment, its neighbors or its overlay. -/
theorem participantPlan_failsOnly {index : Nat} {p : Participant}
    (hsegment : FailsOnly P (c.segment s assignment index p)) :
    FailsOnly P (c.participantPlan s links assignment scope index p) := by
  unfold participantPlan
  refine hsegment.bind ?_
  intro segment _
  split
  · exact (neighborsOf_failsOnly hcomposition).bind fun _ _ =>
      (overlay_failsOnly hcomposition).bind fun _ _ => failsOnly_ok _
  · exact failsOnly_ok _

/-- So participants fail one by one, with their segments or by composition. -/
theorem composeFrom_failsOnly {ps : List Participant} :
    ∀ {index : Nat},
      (∀ i p, ps[i]? = some p → FailsOnly P (c.segment s assignment (index + i) p)) →
      FailsOnly P (c.composeFrom s links assignment scope index ps) := by
  induction ps with
  | nil => intro index _; exact failsOnly_ok _
  | cons p rest ih =>
      intro index hsegments
      unfold composeFrom
      refine (participantPlan_failsOnly hcomposition (hsegments 0 p rfl)).bind fun _ _ => ?_
      refine (ih fun i p' hp' => ?_).bind fun _ _ => failsOnly_ok _
      rw [Nat.add_assoc, Nat.add_comm 1 i]
      exact hsegments (i + 1) p' hp'

omit hcomposition

/-- Where planning fails, the request is to blame. -/
theorem plan_failsOnly : BlamesRequest (c.plan s scope) := by
  unfold plan compose
  refine Slice.validate_failsOnly.bind fun _ _ => ?_
  refine checkGiven_failsOnly.bind fun _ _ => ?_
  refine assign_failsOnly.bind fun assignment _ => ?_
  refine links_failsOnly.bind fun links _ => ?_
  refine (composeFrom_failsOnly (fun _ => rfl) ?_).bind fun _ _ => failsOnly_ok _
  exact fun _ _ _ => segment_failsOnly

end Composer

end NetworkSlice
