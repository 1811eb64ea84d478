/-
Text cut at marks.
-/
namespace NetworkSlice.Text

/-- The pieces of a text between separators. -/
def pieces (isSep : Char → Bool) : List Char → List (List Char)
  | [] => [[]]
  | c :: rest =>
    match pieces isSep rest with
    | [] => [[c]]
    | piece :: more => if isSep c then [] :: piece :: more else (c :: piece) :: more

/-- The part before a mark and, if the mark is there, the part after it. -/
def cutAt (mark : Char) (cs : List Char) : List Char × Option (List Char) :=
  match cs.dropWhile (· != mark) with
  | [] => (cs, none)
  | _ :: rest => (cs.takeWhile (· != mark), some rest)

end NetworkSlice.Text
