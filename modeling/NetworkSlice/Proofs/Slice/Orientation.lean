import Mathlib.Data.List.Forall2
import NetworkSlice.Proofs.Slice.Offence

/-
Links written the other way round, and in another order.

A link is turned by swapping its ends. Its key stays, it leads from each of its
names to the other as before, and what is wrong with it is of the same kind: a
loop is the same loop, a repeated pair is the same pair, and an unknown end is
one of the ends still, though not always the one that is named first. A check
of links therefore meets its first offence at the same link, whichever of the
links are turned (`check_turned`).

In another order the first offence may be a different one, but there is one
whenever there was one (`check_perm`).
-/
namespace NetworkSlice

variable {names : List String} {links links' : List Link} {a b : String}

-- ============================================================ turned links

namespace Link

/-- The link with its ends swapped. -/
def swap (l : Link) : Link := ⟨l.endpointB, l.endpointA⟩

/-- The link as it is, or with its ends swapped. -/
def Turned (l l' : Link) : Prop := l' = l ∨ l' = l.swap

variable {l l' : Link}

/-- The key of a link does not know its direction. -/
@[simp] theorem key_swap : l.swap.key = l.key := key_comm l.endpointB l.endpointA

theorem joins_swap : l.swap.Joins a b ↔ l.Joins a b := by
  constructor
  · rintro (⟨hB, hA⟩ | ⟨hB, hA⟩)
    · exact Or.inr ⟨hA, hB⟩
    · exact Or.inl ⟨hA, hB⟩
  · rintro (⟨hA, hB⟩ | ⟨hA, hB⟩)
    · exact Or.inr ⟨hB, hA⟩
    · exact Or.inl ⟨hB, hA⟩

/-- A link leads to the same end the other way round. -/
@[simp] theorem otherEnd?_swap (name : String) : l.swap.otherEnd? name = l.otherEnd? name := by
  refine Option.ext fun b => ?_
  rw [otherEnd?_eq_some_iff, otherEnd?_eq_some_iff, joins_swap]

/-- So a turned link has the key of the link. -/
theorem Turned.key_eq (h : Turned l l') : l'.key = l.key := by
  rcases h with rfl | rfl
  · rfl
  · exact key_swap

/-- And leads where the link leads. -/
theorem Turned.otherEnd?_eq (h : Turned l l') (name : String) :
    l'.otherEnd? name = l.otherEnd? name := by
  rcases h with rfl | rfl
  · rfl
  · exact otherEnd?_swap name

end Link

-- ============================================================= error kinds

/-- Link errors of one kind: the same loop, the same pair, or some end that is
unknown. -/
inductive LinkError.SameKind : LinkError → LinkError → Prop
  | selfLoop (name : String) : SameKind (.selfLoop name) (.selfLoop name)
  | unknownEnd (name name' : String) : SameKind (.unknownEnd name) (.unknownEnd name')
  | duplicate {a b a' b' : String} (h : (Link.mk a b).key = (Link.mk a' b').key) :
    SameKind (.duplicate a b) (.duplicate a' b')

theorem LinkError.SameKind.refl (e : LinkError) : SameKind e e := by
  cases e with
  | selfLoop name => exact .selfLoop name
  | unknownEnd name => exact .unknownEnd name name
  | duplicate a b => exact .duplicate rfl

/-- Errors that are the same, or both of links and related there. -/
inductive SliceError.Kindred (K : LinkError → LinkError → Prop) : SliceError → SliceError → Prop
  | same (e : SliceError) : Kindred K e e
  | links {e e' : LinkError} (h : K e e') : Kindred K e.toSliceError e'.toSliceError

-- =============================================================== checking

namespace Topology

/-- A name has the same names across turned links, in the same order. -/
theorem across_turned (h : List.Forall₂ Link.Turned links links') (name : String) :
    across links' name = across links name := by
  unfold across
  induction h with
  | nil => rfl
  | cons hturned _ ih => rw [List.filterMap_cons, List.filterMap_cons, hturned.otherEnd?_eq, ih]

/-- Across links in another order it has the same, in another order. -/
theorem across_perm (h : links.Perm links') (name : String) :
    (across links name).Perm (across links' name) :=
  h.filterMap _

/-- What is wrong with a link is wrong with it the other way round. -/
theorem offence?_swap (seen : List (String × String)) (l : Link) :
    Option.Rel LinkError.SameKind (offence? names seen l) (offence? names seen l.swap) := by
  cases hoffence : offence? names seen l with
  | none =>
      obtain ⟨hloop, hA, hB, hseen⟩ := offence?_eq_none_iff.mp hoffence
      have hswap : offence? names seen l.swap = none :=
        offence?_eq_none_iff.mpr ⟨hloop.symm, hB, hA, by rwa [Link.key_swap]⟩
      rw [hswap]
      exact .none
  | some e =>
      suffices hswap : ∃ e', Offends names l.swap (l.swap.key ∈ seen) e' ∧ e.SameKind e' by
        obtain ⟨e', hoffends, hkind⟩ := hswap
        rw [offence?_eq_some_iff.mpr hoffends]
        exact .some hkind
      cases offence?_eq_some_iff.mp hoffence with
      | selfLoop hloop => exact ⟨_, .selfLoop hloop.symm, hloop ▸ .selfLoop _⟩
      | unknownFirst hloop hA =>
          -- the other end counts first now, if it is unknown, too
          by_cases hB : l.endpointB ∈ names
          · exact ⟨_, .unknownSecond hloop.symm hB hA, .unknownEnd _ _⟩
          · exact ⟨_, .unknownFirst hloop.symm hB, .unknownEnd _ _⟩
      | unknownSecond hloop hA hB => exact ⟨_, .unknownFirst hloop.symm hB, .unknownEnd _ _⟩
      | duplicate hloop hA hB hseen =>
          have hseen' : l.swap.key ∈ seen := by rwa [Link.key_swap]
          exact ⟨_, .duplicate hloop.symm hB hA hseen', .duplicate (Link.key_comm _ _)⟩

/-- And so with a turned link. -/
theorem offence?_turned {l l' : Link} (h : Link.Turned l l') (seen : List (String × String)) :
    Option.Rel LinkError.SameKind (offence? names seen l) (offence? names seen l') := by
  rcases h with rfl | rfl
  · cases offence? names seen l' with
    | none => exact .none
    | some e => exact .some (.refl e)
  · exact offence?_swap seen l

/-- The links before are remembered by their keys, so the check goes on from
the same state. -/
theorem checkFrom_turned (h : List.Forall₂ Link.Turned links links') :
    ∀ seen, Parallel LinkError.SameKind (· = ·) (checkFrom names seen links)
      (checkFrom names seen links') := by
  induction h with
  | nil => exact fun _ => .ok rfl
  | @cons l l' rest rest' hturned _ ih =>
      intro seen
      have hoffences : Option.Rel LinkError.SameKind (offence? names seen l)
          (offence? names seen l') := offence?_turned hturned seen
      unfold checkFrom
      rw [hturned.key_eq]
      revert hoffences
      generalize offence? names seen l = x
      generalize offence? names seen l' = y
      intro hoffences
      cases hoffences with
      | none => exact ih (l.key :: seen)
      | some hkind => exact .error hkind

/-- The first offence is at the same link, and of the same kind. -/
theorem check_turned (h : List.Forall₂ Link.Turned links links') :
    Parallel (SliceError.Kindred LinkError.SameKind) (· = ·) (check names links)
      (check names links') :=
  (checkFrom_turned h []).mapError fun hkind => .links hkind

/-- In another order there is an offence where there was one. -/
theorem check_perm (h : links.Perm links') :
    Parallel (SliceError.Kindred fun _ _ => True) (· = ·) (check names links)
      (check names links') := by
  cases hcheck : check names links with
  | ok u =>
      have hsimple := (check_eq_ok_iff.mp hcheck).perm h
      rw [check_eq_ok_iff.mpr hsimple]
      exact .ok rfl
  | error e =>
      cases hcheck' : check names links' with
      | ok u' =>
          have hsimple := (check_eq_ok_iff.mp hcheck').perm h.symm
          rw [check_eq_ok_iff.mpr hsimple] at hcheck
          cases hcheck
      | error e' =>
          obtain ⟨f, -, rfl⟩ := check_eq_error_iff.mp hcheck
          obtain ⟨f', -, rfl⟩ := check_eq_error_iff.mp hcheck'
          exact .error (.links trivial)

end Topology

end NetworkSlice
