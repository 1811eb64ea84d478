import NetworkSlice.Credential.Basic

/-
Folders: files in memory, found by their paths.

A path is walked name by name from the place where a command is run, or from
the top if it begins with a slash. A command that is rehearsed here meets the
faults that it would meet on a disk, and in the same order: a name is looked
for only in a folder, and only after the names before it have been found.
-/
namespace NetworkSlice.Command

/-- What a name stands for. -/
inductive Entry where
  | file (bytes : Bytes)
  | folder (entries : List (String × Entry))

/-- Why a path leads to no file. -/
inductive PathFault where
  | notFound
  | notFolder
  | isFolder
  | tooLong
deriving DecidableEq, Repr

/-- The wording of the fault. -/
def PathFault.message : PathFault → String
  | notFound => "No such file or directory (os error 2)"
  | notFolder => "Not a directory (os error 20)"
  | isFolder => "Is a directory (os error 21)"
  | tooLong => "File name too long (os error 36)"

/-- A place that a path leads to. -/
structure Place where
  /-- What is there. -/
  here : Entry
  /-- The folders it lies in, the innermost first. -/
  around : List Entry

namespace Place

/-- The most bytes that a name may have. -/
def nameLimit : Nat := 255

/-- The most bytes that a path may have. -/
def pathLimit : Nat := 4095

/-- The outermost folder around the place. -/
def top (p : Place) : Place :=
  match p.around.getLast? with
  | none => p
  | some outermost => ⟨outermost, []⟩

/-- Follow one name. An empty name and a point stay, two points go out, and
at the top they stay as well. -/
def step (p : Place) (name : String) : Except PathFault Place :=
  match p.here with
  | .file _ => .error .notFolder
  | .folder entries =>
    if name = "" ∨ name = "." then .ok p
    else if name = ".." then
      match p.around with
      | [] => .ok p
      | outer :: around => .ok ⟨outer, around⟩
    else if nameLimit < name.utf8ByteSize then .error .tooLong
    else
      match entries.lookup name with
      | none => .error .notFound
      | some found => .ok ⟨found, p.here :: p.around⟩

/-- Follow names in turn. -/
def walk (p : Place) : List String → Except PathFault Place
  | [] => .ok p
  | name :: rest => do (← p.step name).walk rest

/-- The bytes of the file at the end of a path. A slash at the end asks for a
folder, because the empty name behind it is looked for in what is there. -/
def read (p : Place) (path : String) : Except PathFault Bytes := do
  if path = "" then throw .notFound
  if pathLimit < path.utf8ByteSize then throw .tooLong
  let found ← (if path.startsWith "/" then p.top else p).walk (path.splitOn "/")
  match found.here with
  | .file bytes => return bytes
  | .folder _ => throw .isFolder

end Place

end NetworkSlice.Command
