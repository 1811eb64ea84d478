import NetworkSlice.Proofs.Plan.Steps
import NetworkSlice.Proofs.Slice.Graph

/-
What can be wrong with a slice, check by check.

A check is a relation: it holds of an error when the slice has the fault and
the error is the one for it. Every check here is stated on its own, without
regard to the others, so that their order is said in one place: `FirstOf` holds
of the errors of the first check in a list that finds anything. A single check
over a list (of names, of links) finds its first bad entry.

The lemmas below tie the checks to what validation and the check of links do
(`validate_eq_error_iff`, `check_eq_error_iff`); `not_firstOf_iff` says what it
means that none of them finds anything.
-/
namespace NetworkSlice

/-- The errors of the first check that finds anything. -/
def FirstOf : List (SliceError → Prop) → SliceError → Prop
  | [], _ => False
  | check :: rest, e => check e ∨ ((∀ e', ¬ check e') ∧ FirstOf rest e)

/-- Nothing fails where no check does. -/
theorem not_firstOf_cons_iff {check : SliceError → Prop} {rest : List (SliceError → Prop)} :
    (∀ e, ¬ FirstOf (check :: rest) e) ↔ (∀ e, ¬ check e) ∧ ∀ e, ¬ FirstOf rest e := by
  constructor
  · intro h
    have hfirst : ∀ e, ¬ check e := fun e he => h e (Or.inl he)
    exact ⟨hfirst, fun e he => h e (Or.inr ⟨hfirst, he⟩)⟩
  · rintro ⟨hfirst, hrest⟩ e (he | ⟨-, he⟩)
    · exact hfirst e he
    · exact hrest e he

/-- Nothing is found when no check finds anything. -/
theorem not_firstOf_iff {checks : List (SliceError → Prop)} :
    (∀ e, ¬ FirstOf checks e) ↔ ∀ check ∈ checks, ∀ e, ¬ check e := by
  induction checks with
  | nil => simp [FirstOf]
  | cons check rest ih => rw [not_firstOf_cons_iff, List.forall_mem_cons, ih]

/-- Checks after others count where those find nothing. -/
theorem firstOf_append_iff {checks more : List (SliceError → Prop)} {e : SliceError} :
    FirstOf (checks ++ more) e
      ↔ FirstOf checks e ∨ ((∀ e', ¬ FirstOf checks e') ∧ FirstOf more e) := by
  induction checks with
  | nil => simp [FirstOf]
  | cons check rest ih =>
      rw [not_firstOf_cons_iff]
      show check e ∨ (_ ∧ FirstOf (rest ++ more) e) ↔ (check e ∨ (_ ∧ FirstOf rest e)) ∨ _
      rw [ih]
      constructor
      · rintro (h | ⟨hfirst, h | ⟨hrest, h⟩⟩)
        · exact Or.inl (Or.inl h)
        · exact Or.inl (Or.inr ⟨hfirst, h⟩)
        · exact Or.inr ⟨⟨hfirst, hrest⟩, h⟩
      · rintro ((h | ⟨hfirst, h⟩) | ⟨⟨hfirst, hrest⟩, h⟩)
        · exact Or.inl h
        · exact Or.inr ⟨hfirst, Or.inl h⟩
        · exact Or.inr ⟨hfirst, Or.inr ⟨hrest, h⟩⟩

theorem firstOf_singleton_iff {check : SliceError → Prop} {e : SliceError} :
    FirstOf [check] e ↔ check e := by
  simp [FirstOf]

/-- A chain fails as its checks say, when its first step fails as the first of
them say and what follows as the others do. -/
theorem bind_eq_error_iff_firstOf {α β : Type} {x : Except SliceError α}
    {f : α → Except SliceError β} {checks more : List (SliceError → Prop)}
    (hx : ∀ e, x = .error e ↔ FirstOf checks e)
    (hf : ∀ a, x = .ok a → ∀ e, f a = .error e ↔ FirstOf more e) (e : SliceError) :
    (x >>= f) = .error e ↔ FirstOf (checks ++ more) e := by
  rw [bind_eq_error, firstOf_append_iff, hx]
  apply or_congr_right
  simp only [← hx]
  rw [← exists_ok_iff]
  constructor
  · rintro ⟨a, ha, he⟩
    exact ⟨⟨a, ha⟩, (hf a ha e).mp he⟩
  · rintro ⟨⟨a, ha⟩, he⟩
    exact ⟨a, ha, (hf a ha e).mpr he⟩

-- ================================================================= links

namespace Topology

variable {names : List String} {links : List Link}

/-- What is wrong with a link; `again` says that its pair was there before. A
loop counts first, then the ends in turn, then the repetition. -/
inductive Offends (names : List String) (l : Link) (again : Prop) : LinkError → Prop
  | selfLoop (h : l.endpointA = l.endpointB) : Offends names l again (.selfLoop l.endpointA)
  | unknownFirst (hloop : l.endpointA ≠ l.endpointB) (h : l.endpointA ∉ names) :
    Offends names l again (.unknownEnd l.endpointA)
  | unknownSecond (hloop : l.endpointA ≠ l.endpointB) (hA : l.endpointA ∈ names)
      (h : l.endpointB ∉ names) : Offends names l again (.unknownEnd l.endpointB)
  | duplicate (hloop : l.endpointA ≠ l.endpointB) (hA : l.endpointA ∈ names)
      (hB : l.endpointB ∈ names) (h : again) :
    Offends names l again (.duplicate l.endpointA l.endpointB)

/-- What is wrong with the first link that is not one of a simple graph with
the links before it. -/
def Fault (names : List String) (links : List Link) (e : LinkError) : Prop :=
  ∃ before l after, links = before ++ l :: after ∧ Simple names before
    ∧ Offends names l (∃ l' ∈ before, l'.Joins l.endpointA l.endpointB) e

/-- What is wrong with a link is what is found first. -/
theorem offence?_eq_some_iff {seen : List (String × String)} {l : Link} {e : LinkError} :
    offence? names seen l = some e ↔ Offends names l (l.key ∈ seen) e := by
  unfold offence? Link.isSelfLoop
  constructor
  · intro h
    split at h
    · next hloop =>
        injection h with h
        exact h ▸ .selfLoop (of_decide_eq_true hloop)
    next hloop =>
    replace hloop : l.endpointA ≠ l.endpointB := fun heq => hloop (decide_eq_true heq)
    split at h
    · next hA => injection h with h; exact h ▸ .unknownFirst hloop hA
    next hA =>
    replace hA := Decidable.not_not.mp hA
    split at h
    · next hB => injection h with h; exact h ▸ .unknownSecond hloop hA hB
    next hB =>
    replace hB := Decidable.not_not.mp hB
    split at h
    · next hseen => injection h with h; exact h ▸ .duplicate hloop hA hB hseen
    · cases h
  · intro h
    cases h with
    | selfLoop h => simp [h]
    | unknownFirst hloop h => simp [hloop, h]
    | unknownSecond hloop hA h => simp [hloop, hA, h]
    | duplicate hloop hA hB h => simp [hloop, hA, hB, h]

/-- The check of links fails with their first fault. -/
theorem check_eq_error_iff {e : SliceError} :
    check names links = .error e ↔ ∃ fault, Fault names links fault ∧ e = fault.toSliceError := by
  have hsingle : ∀ seen l fault, checkFrom names seen [l] = .error fault
      ↔ Offends names l (l.key ∈ seen) fault := by
    intro seen l fault
    rw [← offence?_eq_some_iff]
    unfold checkFrom
    cases offence? names seen l with
    | some e => simp
    | none => simp [checkFrom]
  have hfrom : ∀ fault, checkFrom names [] links = .error fault ↔ Fault names links fault := by
    intro fault
    have hcons : ∀ seen l rest, checkFrom names seen (l :: rest)
        = checkFrom names seen [l] >>= fun _ => checkFrom names (l.key :: seen) rest := by
      intro seen l rest
      simp only [checkFrom]
      cases offence? names seen l <;> rfl
    rw [scan_eq_error_iff Link.key (fun _ => rfl) hcons]
    simp [Fault, hsingle, checkFrom_eq_ok_iff, Link.key_eq_iff]
  rw [check, mapError_eq_error]
  simp only [hfrom]

/-- Links without a fault are a simple graph. -/
theorem not_fault_iff : (∀ e, ¬ Fault names links e) ↔ Simple names links := by
  rw [← check_eq_ok_iff, passes_iff]
  simp only [check_eq_error_iff]
  constructor
  · rintro h e ⟨fault, hfault, -⟩
    exact h fault hfault
  · intro h fault hfault
    exact h fault.toSliceError ⟨fault, hfault, rfl⟩

end Topology

-- ================================================================ slices

namespace Slice

variable {s : Slice} {e : SliceError}

/-- The slice has no name. -/
def NameFault (s : Slice) (e : SliceError) : Prop :=
  Text.isBlankText s.name = true ∧ e = .validation "slice name cannot be empty"

/-- Nobody takes part. -/
def ParticipantsFault (s : Slice) (e : SliceError) : Prop :=
  s.participants = [] ∧ e = .validation "slice requires at least one participant"

/-- The first participant that has no name, or the name of one before. -/
def NamesFault (s : Slice) (e : SliceError) : Prop :=
  ∃ before name after, s.names = before ++ name :: after
    ∧ (∀ n ∈ before, Text.isBlankText n = false) ∧ before.Nodup
    ∧ ((Text.isBlankText name = true ∧ e = .validation "participant name cannot be empty")
      ∨ (Text.isBlankText name = false ∧ name ∈ before
        ∧ e = .validation s!"duplicate participant: {name}"))

/-- The block is no block, or one of a single address, or is missing where it
is to be divided. -/
def BlockFault (s : Slice) (e : SliceError) : Prop :=
  s.block = .error e
    ∨ (∃ block, s.block = .ok (some block) ∧ block.width ≤ block.len
      ∧ e = .invalidCidr s!"{block.text}: prefix length must be below {block.width}")
    ∨ (s.block = .ok none ∧ s.partition = true
      ∧ e = .validation "address partitioning requested without an address block")

/-- The links that are given are no simple graph over the participants. -/
def LinksFault (s : Slice) (e : SliceError) : Prop :=
  ∃ links fault, s.links = some links ∧ Topology.Fault s.names links fault
    ∧ e = .composition fault.message

/-- The block cannot be divided among so many. -/
def RoomFault (s : Slice) (e : SliceError) : Prop :=
  s.partition = true ∧ ∃ block, s.block = .ok (some block)
    ∧ block.width < block.len + bitLength s.participants.length
    ∧ e = .addressSpaceExhausted (block.len + bitLength s.participants.length) block.width

/-- The check of names fails at the first bad one. -/
theorem checkNames_eq_error_iff : checkNames [] s.names = .error e ↔ NamesFault s e := by
  have hsingle : ∀ seen name, checkNames seen [name] = .error e
      ↔ (Text.isBlankText name = true ∧ e = .validation "participant name cannot be empty")
        ∨ (Text.isBlankText name = false ∧ name ∈ seen
          ∧ e = .validation s!"duplicate participant: {name}") := by
    intro seen name
    unfold checkNames
    cases Text.isBlankText name with
    | true => simp [eq_comm]
    | false =>
        by_cases hseen : name ∈ seen
        · simp [hseen, eq_comm]
        · simp [hseen, checkNames]
  have hcons : ∀ seen name rest, checkNames seen (name :: rest)
      = checkNames seen [name] >>= fun _ => checkNames (name :: seen) rest := by
    intro seen name rest
    simp only [checkNames]
    cases Text.isBlankText name with
    | true => rfl
    | false => by_cases hseen : name ∈ seen <;> simp only [hseen] <;> rfl
  rw [scan_eq_error_iff id (fun _ => rfl) hcons]
  unfold NamesFault
  simp [hsingle, checkNames_eq_ok_iff, and_assoc]

/-- What is found of the block. -/
theorem block_eq_error_iff :
    (s.block >>= checkBlock s.partition) = .error e ↔ BlockFault s e := by
  rw [bind_eq_error]
  apply or_congr_right
  constructor
  · rintro ⟨given, hgiven, h⟩
    cases given with
    | none =>
        simp only [checkBlock] at h
        split at h
        · next hpart =>
            injection h with h
            exact Or.inr ⟨hgiven, hpart, h.symm⟩
        · cases h
    | some block =>
        simp only [checkBlock] at h
        split at h
        · next hlen =>
            injection h with h
            exact Or.inl ⟨block, hgiven, hlen, h.symm⟩
        · cases h
  · rintro (⟨block, hgiven, hlen, rfl⟩ | ⟨hgiven, hpart, rfl⟩)
    · exact ⟨some block, hgiven, if_pos hlen⟩
    · exact ⟨none, hgiven, if_pos hpart⟩

/-- The checks of the slice's own structure, in their order. -/
def structuralChecks (s : Slice) : List (SliceError → Prop) :=
  [NameFault s, ParticipantsFault s, NamesFault s, BlockFault s]

/-- Validation fails with the first fault of the structure. -/
theorem validate_eq_error_iff : s.validate = .error e ↔ FirstOf s.structuralChecks e := by
  unfold validate structuralChecks
  cases hname : Text.isBlankText s.name with
  | true =>
      simp [FirstOf, NameFault, hname, eq_comm, throw, throwThe, MonadExceptOf.throw, bind,
        Except.bind]
  | false =>
      have hnamed : ∀ e', ¬ NameFault s e' := by simp [NameFault, hname]
      cases hps : s.participants with
      | nil =>
          simp [FirstOf, hnamed, ParticipantsFault, hps, eq_comm, throw, throwThe,
            MonadExceptOf.throw, bind, Except.bind]
      | cons p rest =>
          have hsome : ∀ e', ¬ ParticipantsFault s e' := by simp [ParticipantsFault, hps]
          have hchain : FirstOf [NameFault s, ParticipantsFault s, NamesFault s, BlockFault s] e
              ↔ FirstOf ([NamesFault s] ++ [BlockFault s]) e := by
            simp [FirstOf, hnamed, hsome]
          rw [hchain, ← bind_eq_error_iff_firstOf (x := checkNames [] s.names)
            (f := fun _ => s.block >>= checkBlock s.partition)]
          · rfl
          · intro e'
            rw [firstOf_singleton_iff, checkNames_eq_error_iff]
          · intro _ _ e'
            rw [firstOf_singleton_iff, block_eq_error_iff]

end Slice

end NetworkSlice
