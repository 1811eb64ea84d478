import NetworkSlice.Json.Reader

/-
Whether two documents are the same.

Documents stand inside lists and beside names, so the test goes through items
and members as well (`Doc.same`). With it, what is read of a text can be
compared with what it should be.
-/
namespace NetworkSlice

-- ================================================================ attempts

/-- Attempts are equal when they come to equal values or fail with equal errors. -/
instance decidableEqExcept {ε α : Type} [DecidableEq ε] [DecidableEq α] :
    DecidableEq (Except ε α)
  | .ok a, .ok b => decidable_of_iff (a = b) ⟨congrArg _, Except.ok.inj⟩
  | .error e, .error e' => decidable_of_iff (e = e') ⟨congrArg _, Except.error.inj⟩
  | .ok _, .error _ => isFalse nofun
  | .error _, .ok _ => isFalse nofun

-- =============================================================== documents

namespace Doc

mutual

/-- Whether two documents are the same. -/
def same : Doc → Doc → Bool
  | null, null => true
  | bool b, bool b' => b == b'
  | num n, num n' => decide (n = n')
  | str s, str s' => decide (s = s')
  | arr items ending, arr items' ending' => sameItems items items' && decide (ending = ending')
  | obj members ending, obj members' ending' =>
    sameMembers members members' && decide (ending = ending')
  | broken b, broken b' => decide (b = b')
  | _, _ => false

/-- Whether the items are. -/
def sameItems : List Doc → List Doc → Bool
  | [], [] => true
  | item :: rest, item' :: rest' => item.same item' && sameItems rest rest'
  | _, _ => false

/-- Whether the members are. -/
def sameMembers : List (Except Fault String × Doc) → List (Except Fault String × Doc) → Bool
  | [], [] => true
  | (name, value) :: rest, (name', value') :: rest' =>
    decide (name = name') && value.same value' && sameMembers rest rest'
  | _, _ => false

end

mutual

/-- The test goes by the form of the documents, and is right. -/
theorem same_iff : ∀ a b : Doc, a.same b = true ↔ a = b
  | null, b => by cases b <;> simp [same]
  | bool _, b => by cases b <;> simp [same]
  | num _, b => by cases b <;> simp [same]
  | str _, b => by cases b <;> simp [same]
  | arr items _, b => by cases b <;> simp [same, sameItems_iff items]
  | obj members _, b => by cases b <;> simp [same, sameMembers_iff members]
  | broken _, b => by cases b <;> simp [same]

/-- It is right for items. -/
theorem sameItems_iff : ∀ items items' : List Doc, sameItems items items' = true ↔ items = items'
  | [], items' => by cases items' <;> simp [sameItems]
  | item :: rest, items' => by
    cases items' <;> simp [sameItems, same_iff item, sameItems_iff rest]

/-- And for members, with their names or the faults in them. -/
theorem sameMembers_iff : ∀ members members' : List (Except Fault String × Doc),
    sameMembers members members' = true ↔ members = members'
  | [], members' => by cases members' <;> simp [sameMembers]
  | (name, value) :: rest, members' => by
    cases members' <;>
      simp [sameMembers, Prod.ext_iff, same_iff value, sameMembers_iff rest]

end

instance : DecidableEq Doc := fun a b => decidable_of_iff (a.same b = true) (same_iff a b)

end Doc

deriving instance DecidableEq for Json.Text

end NetworkSlice
