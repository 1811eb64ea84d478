import NetworkSlice.Text.Quoted

/-
What an inspection shows of a value: its shape, the names of its parts and
their text in quotes.

A shape says what may be seen. A value with a secret part shows some other
text in its place, so the secret is not in the shape at all.
-/
namespace NetworkSlice.Text

/-- What is shown in the place of a secret. -/
def redacted : String := "<redacted>"

/-- The shape of a value. -/
inductive Shape where
  /-- Something shown as it is written: a name or a number. -/
  | word (text : String)
  /-- Text, shown in quotes. -/
  | quote (text : String)
  /-- A list. -/
  | items (shapes : List Shape)
  /-- Something wrapped once, under a name. -/
  | wrapped (name : String) (shape : Shape)
  /-- A record with named parts. -/
  | record (name : String) (parts : List (String × Shape))

namespace Shape

/-- Something that may be missing. -/
def optional {α : Type} (shape : α → Shape) : Option α → Shape
  | none => word "None"
  | some a => wrapped "Some" (shape a)

/-- A natural number. -/
def number (n : Nat) : Shape := word (toString n)

/-- Pieces with a comma between them. -/
def commaSeparated : List String → String
  | [] => ""
  | [piece] => piece
  | piece :: rest => piece ++ ", " ++ commaSeparated rest

mutual

/-- The shape as one line of text. -/
def text : Shape → String
  | word t => t
  | quote t => quoted t
  | items shapes => "[" ++ commaSeparated (texts shapes) ++ "]"
  | wrapped name shape => name ++ "(" ++ shape.text ++ ")"
  | record name [] => name
  | record name (part :: parts) =>
    name ++ " \x7b " ++ commaSeparated (partTexts (part :: parts)) ++ " \x7d"

/-- The texts of a list's items. -/
def texts : List Shape → List String
  | [] => []
  | shape :: rest => shape.text :: texts rest

/-- The texts of a record's parts. -/
def partTexts : List (String × Shape) → List String
  | [] => []
  | (name, shape) :: rest => (name ++ ": " ++ shape.text) :: partTexts rest

end

end Shape

end NetworkSlice.Text
