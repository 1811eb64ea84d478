import NetworkSlice.Json.Document
import NetworkSlice.Proofs.Table

/-
Values with their members in order, and the documents of values.

Sorting goes item by item and member by member, so it is done after once
(`sorted_sorted`). It does not change which names there are, nor what is `null`;
and where no name is repeated, a name finds what it found before, sorted. The
document of a value has no faults, so whoever skips it reports none
(`skip_ofJson`).
-/
namespace NetworkSlice

namespace Json

/-- Items are sorted one by one. -/
theorem sortedItems_eq_map (items : List Json) : sortedItems items = items.map sorted := by
  induction items with
  | nil => rw [sortedItems]; rfl
  | cons item rest ih => rw [sortedItems, ih]; rfl

/-- And so are the values of members, whose names stay. -/
theorem sortedMembers_eq_map (members : List (String × Json)) :
    sortedMembers members = members.map fun e => (e.1, e.2.sorted) := by
  induction members with
  | nil => rw [sortedMembers]; rfl
  | cons e rest ih => rw [sortedMembers, ih]; rfl

/-- Sorting the values of members leaves the names as they are. -/
theorem map_fst_sortedMembers (members : List (String × Json)) :
    (sortedMembers members).map Prod.fst = members.map Prod.fst := by
  rw [sortedMembers_eq_map, List.map_map]
  rfl

/-- A name finds the value that it found before, sorted. -/
theorem lookup_sortedMembers (members : List (String × Json)) (name : String) :
    (sortedMembers members).lookup name = (members.lookup name).map sorted := by
  rw [sortedMembers_eq_map]
  exact lookup_map sorted members name

/-- In a sorted object a name finds the last of its values, sorted. -/
theorem get?_sorted (members : List (String × Json)) (name : String) :
    (obj members).sorted.get? name = (arrange (sortedMembers members)).lookup name := by
  rw [sorted, get?]

/-- A member at the end is there for any other of its name. -/
theorem get?_sorted_append (members : List (String × Json)) (k name : String) (value : Json) :
    (obj (members ++ [(k, value)])).sorted.get? name
      = if name = k then some value.sorted else (obj members).sorted.get? name := by
  have harrange : arrange (sortedMembers (members ++ [(k, value)]))
      = place k value.sorted (arrange (sortedMembers members)) := by
    rw [sortedMembers_eq_map, sortedMembers_eq_map, List.map_append, arrange, List.foldl_append]
    rfl
  rw [get?_sorted, get?_sorted, harrange, lookup_place]

mutual

/-- What is sorted is left as it is. -/
theorem sorted_sorted : ∀ j : Json, j.sorted.sorted = j.sorted
  | null => by rw [sorted, sorted]
  | bool b => by rw [sorted, sorted]
  | num n => by rw [sorted, sorted]
  | str s => by rw [sorted, sorted]
  | arr items => by rw [sorted, sorted, sortedItems_sortedItems]
  | obj members => by
      have hmembers := sortedMembers_sortedMembers members
      rw [sorted, sorted, sortedMembers_eq_map, ← arrange_map, ← sortedMembers_eq_map, hmembers,
        arrange_eq_self (ordered_arrange _)]

/-- Likewise items. -/
theorem sortedItems_sortedItems :
    ∀ items : List Json, sortedItems (sortedItems items) = sortedItems items
  | [] => by rw [sortedItems, sortedItems]
  | item :: rest => by
      rw [sortedItems, sortedItems, sorted_sorted item, sortedItems_sortedItems rest]

/-- Likewise the values of members. -/
theorem sortedMembers_sortedMembers :
    ∀ members : List (String × Json), sortedMembers (sortedMembers members) = sortedMembers members
  | [] => by rw [sortedMembers, sortedMembers]
  | (name, value) :: rest => by
      rw [sortedMembers, sortedMembers, sorted_sorted value, sortedMembers_sortedMembers rest]

end

/-- Only `null` sorts to `null`. -/
theorem sorted_ne_null {j : Json} (h : j ≠ null) : j.sorted ≠ null := by
  cases j with
  | null => exact absurd rfl h
  | _ => rw [sorted]; exact fun h => nomatch h

end Json

namespace Doc

/-- The document of a list has the documents of its items. -/
theorem ofItems_eq_map (items : List Json) : ofItems items = items.map ofJson := by
  induction items with
  | nil => rw [ofItems]; rfl
  | cons item rest ih => rw [ofItems, ih]; rfl

/-- That of an object has those of its members, under names without faults. -/
theorem ofMembers_eq_map (members : List (String × Json)) :
    ofMembers members = members.map fun e => (.ok e.1, ofJson e.2) := by
  induction members with
  | nil => rw [ofMembers]; rfl
  | cons e rest ih => rw [ofMembers, ih]; rfl

/-- Only `null` has the document `null`. -/
theorem ofJson_ne_null {j : Json} (h : j ≠ .null) : ofJson j ≠ null := by
  cases j with
  | null => exact absurd rfl h
  | _ => rw [ofJson]; exact fun h => nomatch h

mutual

/-- Nothing is wrong with the document of a value. -/
theorem skip_ofJson : ∀ j : Json, (ofJson j).skip = .ok ()
  | .null => by rw [ofJson, skip]
  | .bool b => by rw [ofJson, skip]
  | .num n => by rw [ofJson, skip]
  | .str s => by rw [ofJson, skip]
  | .arr items => by rw [ofJson, skip, skipItems_ofItems items]; rfl
  | .obj members => by rw [ofJson, skip, skipMembers_ofMembers members]; rfl

theorem skipItems_ofItems : ∀ items : List Json, skipItems (ofItems items) = .ok ()
  | [] => by rw [ofItems, skipItems]
  | item :: rest => by
      rw [ofItems, skipItems, skip_ofJson item]
      exact skipItems_ofItems rest

theorem skipMembers_ofMembers :
    ∀ members : List (String × Json), skipMembers (ofMembers members) = .ok ()
  | [] => by rw [ofMembers, skipMembers]
  | (name, value) :: rest => by
      rw [ofMembers, skipMembers, skip_ofJson value]
      exact skipMembers_ofMembers rest

end

end Doc

end NetworkSlice
