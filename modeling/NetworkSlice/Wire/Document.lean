import NetworkSlice.Json.Printer
import NetworkSlice.Json.Reader
import NetworkSlice.Wire.Format

/-
Whole documents: values and texts that are a value of a format and nothing
else.
-/
namespace NetworkSlice.Wire

/-- The value of a JSON value. -/
def Format.read {α : Type} (f : Format α) (j : Json) : Except SliceError α :=
  (f.decode .value (.ofJson j.sorted)).mapError fun e => .serialization e.message

/-- The value of a text. -/
def Format.readText {α : Type} (f : Format α) (s : String) : Except DecodeError α := do
  let text := Json.Text.read s
  let a ← f.decode .text text.doc
  match text.after with
  | none => return a
  | some fault => .error (.grammar fault)

/-- The JSON value of a value. -/
def Format.write {α : Type} (f : Format α) (a : α) : Json := (f.encode a).sorted

/-- The text of a value, with members in the order of the declaration. -/
def Format.writeText {α : Type} (f : Format α) (a : α) : String := (f.encode a).compact

/-- The classes of errors of a text. -/
inductive ErrorClass where
  /-- The text is not JSON. -/
  | grammar
  /-- The text ends too soon. -/
  | ending
  /-- The text is JSON of another form. -/
  | form
deriving DecidableEq, Repr

/-- The class of an error. -/
def DecodeError.errorClass : DecodeError → ErrorClass
  | .grammar fault => if fault.isEnd then .ending else .grammar
  | _ => .form

end NetworkSlice.Wire
