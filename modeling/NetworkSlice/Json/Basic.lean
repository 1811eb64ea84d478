import NetworkSlice.Table
import NetworkSlice.Decimal.Double

/-
JSON values.

An object is a list of members in the order they were written, so a text with
a repeated name still has a value; `sorted` is the form in which every object
has its names once and in ascending order. Whole numbers are kept exactly
where a machine word holds them; all others are doubles.
-/
namespace NetworkSlice

/-- A number. -/
inductive Json.Number where
  | int (value : Int)
  | float (value : Double)
deriving DecidableEq, Repr

/-- A JSON value. -/
inductive Json where
  | null
  | bool (value : Bool)
  | num (value : Json.Number)
  | str (value : String)
  | arr (items : List Json)
  | obj (members : List (String × Json))
deriving Repr, Inhabited

namespace Json

/-- A whole number. -/
def ofNat (n : Nat) : Json := num (.int n)

/-- The value, or `null` where there is none. -/
def ofOption {α : Type} (f : α → Json) (o : Option α) : Json := (o.map f).getD null

mutual

/-- The value with the members of every object in ascending order of name; of
two members with one name the later stays. -/
def sorted : Json → Json
  | arr items => arr (sortedItems items)
  | obj members => obj (arrange (sortedMembers members))
  | null => null
  | bool b => bool b
  | num n => num n
  | str s => str s

/-- The items, each sorted. -/
def sortedItems : List Json → List Json
  | [] => []
  | item :: rest => item.sorted :: sortedItems rest

/-- The members, each with its value sorted. -/
def sortedMembers : List (String × Json) → List (String × Json)
  | [] => []
  | (name, value) :: rest => (name, value.sorted) :: sortedMembers rest

end

/-- The member of an object. -/
def get? (name : String) : Json → Option Json
  | obj members => members.lookup name
  | _ => none

/-- The member of an object, or `null` where there is none. -/
def get (j : Json) (name : String) : Json := (j.get? name).getD null

/-- The text of a string. -/
def str? : Json → Option String
  | str s => some s
  | _ => none

/-- Whether the value is `null`. -/
def isNull : Json → Bool
  | null => true
  | _ => false

/-- The members of an object. -/
def members : Json → List (String × Json)
  | obj members => members
  | _ => []

/-- The items of an array. -/
def items : Json → List Json
  | arr items => items
  | _ => []

/-- A natural number, if the value is one. -/
def nat? : Json → Option Nat
  | num (.int n) => if 0 ≤ n then some n.toNat else none
  | _ => none

end Json

end NetworkSlice
