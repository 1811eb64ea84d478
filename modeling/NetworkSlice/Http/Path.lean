import NetworkSlice.Http.Host

/-
Paths in addresses.

A path is made of segments, of which some only say where to go: to stay, or to
go up. They are followed while the path is read. The name of a drive, a letter
with a colon or a bar, is never gone up from, and as the first segment of the
path of a file it gets its colon.
-/
namespace NetworkSlice.Http

open Text

/-- Where the thing is inside its host. -/
inductive UrlPath where
  | segments (parts : List (List Char))
  /-- A path that is not made of segments. -/
  | opaqueText (text : List Char)
deriving DecidableEq, Repr

/-- The characters that a fragment may not hold. -/
def fragmentSet : List Char := [' ', '"', '<', '>', Char.ofNat 0x60]

/-- The characters that a path segment may not hold. -/
def pathSet : List Char := fragmentSet ++ ['#', '?', '\x7b', '\x7d']

/-- Separators of path segments. -/
def isSlash (special : Bool) (c : Char) : Bool := c = '/' || (special && c = '\\')

/-- A segment that means the place it stands in. -/
def isSingleDot (segment : List Char) : Bool :=
  let s := segment.map Char.toLower
  s = ['.'] || s = "%2e".toList

/-- A segment that means the place above. -/
def isDoubleDot (segment : List Char) : Bool :=
  let s := segment.map Char.toLower
  s = ['.', '.'] || s = ".%2e".toList || s = "%2e.".toList || s = "%2e%2e".toList

/-- Whether a segment names a drive, alone or before a backslash. -/
def beginsWithDrive : List Char → Bool
  | a :: b :: rest => a.isAlpha && (b == ':' || b == '|') && (rest.isEmpty || rest.head? == some '\\')
  | _ => false

/-- The name of a drive with a colon. -/
def drive? : List Char → Option (List Char)
  | [a, b] => if a.isAlpha && (b == ':' || b == '|') then some [a, ':'] else none
  | _ => none

/-- What is left of the segments before one that goes up, the last one
first. -/
def above (before : List (List Char)) : List (List Char) :=
  match before with
  | [] => []
  | segment :: rest => if beginsWithDrive segment then segment :: rest else rest

/-- Follow the dot segments; `before` are the segments so far, the last one
first. A dot segment at the end leaves an empty one. -/
def followDots (ofFile : Bool) (before : List (List Char)) :
    List (List Char) → List (List Char)
  | [] => before.reverse
  | segment :: rest =>
    let closing : List (List Char) := if rest.isEmpty then [[]] else []
    if isDoubleDot segment then followDots ofFile (closing ++ above before) rest
    else if isSingleDot segment then followDots ofFile (closing ++ before) rest
    else
      let segment := if ofFile && before.isEmpty then (drive? segment).getD segment else segment
      followDots ofFile (segment :: before) rest

/-- The segments of a text without its first slash. -/
def readSegments (special : Bool) (cs : List Char) : List (List Char) :=
  followDots false [] ((pieces (isSlash special) cs).map (encodeAll pathSet))

/-- The segments of the path of a file, as they are written. -/
def readFileSegments (cs : List Char) : List (List Char) :=
  followDots true [] ((pieces (isSlash true) cs).map (encodeAll pathSet))

/-- The path of a file does not begin with empty segments. -/
def filePath (segments : List (List Char)) : UrlPath :=
  match segments.dropWhile List.isEmpty with
  | [] => .segments [[]]
  | segments => .segments segments

/-- The path that follows a host. An address of the usual kind always has
one. -/
def pathAfterHost (special : Bool) (cs : List Char) : UrlPath :=
  match cs with
  | [] => .segments (if special then [[]] else [])
  | c :: rest => .segments (readSegments special (if isSlash special c then rest else c :: rest))

/-- The text of a path. -/
def UrlPath.chars : UrlPath → List Char
  | .segments parts => parts.flatMap fun part => '/' :: part
  | .opaqueText text => text

end NetworkSlice.Http
