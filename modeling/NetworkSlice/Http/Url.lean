import NetworkSlice.Http.Path

/-
Addresses of things on the web, as a client understands them.

An address is read into its parts and written out again from them, and what a
message shows is the second. On the way the scheme and the host are put in
lower case, the usual port of a scheme is dropped, dot segments are followed,
names of hosts are put in ASCII, and characters that may not stand in a part
are percent-encoded.
-/
namespace NetworkSlice.Http

open Text

/-- Who asks, as far as an address says. -/
structure UserInfo where
  name : List Char
  password : List Char
deriving DecidableEq, Repr

/-- The parts of an address. -/
structure Url where
  scheme : List Char
  /-- Nothing where the address has no place for a host; empty where it is
  left out. -/
  host : Option (List Char)
  user : Option UserInfo
  port : Option Nat
  path : UrlPath
  query : Option (List Char)
  fragment : Option (List Char)
deriving DecidableEq, Repr

-- ==================================================== schemes

/-- The schemes whose addresses always have a host, and their ports. -/
def specialSchemes : List (List Char × Nat) :=
  [("http".toList, 80), ("https".toList, 443), ("ws".toList, 80), ("wss".toList, 443),
    ("ftp".toList, 21)]

/-- The scheme of files. -/
def fileScheme : List Char := "file".toList

/-- Whether a scheme has addresses of the usual kind. -/
def isSpecial (scheme : List Char) : Bool :=
  scheme = fileScheme || specialSchemes.any fun s => s.1 = scheme

/-- The characters that a query may not hold. -/
def querySet (special : Bool) : List Char :=
  [' ', '"', '#', '<', '>'] ++ if special then [Char.ofNat 0x27] else []

/-- The scheme in lower case, and what follows the colon. -/
def readScheme (cs : List Char) : Option (List Char × List Char) :=
  match cutAt ':' cs with
  | (_, none) => none
  | ([], some _) => none
  | (c :: name, some rest) =>
    if c.isAlpha && name.all fun c => c.isAlphanum || c == '+' || c == '-' || c == '.' then
      some ((c :: name).map Char.toLower, rest)
    else none

-- ================================================ authorities

/-- What an address says between its scheme and its query. -/
structure Place where
  host : Option (List Char)
  user : Option UserInfo
  port : Option Nat
  path : UrlPath

/-- The characters that a user's name and password may not hold. -/
def userSet : List Char := pathSet ++ "/:;=@[\\]^|".toList

/-- Who asks, from the text before the last `@`. -/
def readUser (cs : List Char) : Option UserInfo :=
  let (name, password) := cutAt ':' cs
  let info : UserInfo := ⟨encodeAll userSet name, encodeAll userSet (password.getD [])⟩
  if info.name.isEmpty && info.password.isEmpty then none else some info

/-- The text before the last `@`, if there is one, and the text after it. -/
def cutUser (cs : List Char) : Option (List Char) × List Char :=
  let after := (cs.reverse.takeWhile (· != '@')).reverse
  if after.length = cs.length then (none, cs)
  else (some (cs.take (cs.length - after.length - 1)), after)

/-- The host and, after the first colon outside of brackets, the rest. -/
def cutPort (inside : Bool) : List Char → List Char × Option (List Char)
  | [] => ([], none)
  | c :: rest =>
    if c = ':' ∧ inside = false then ([], some rest)
    else
      let inside := if c = '[' then true else if c = ']' then false else inside
      let (host, port) := cutPort inside rest
      (c :: host, port)

/-- A port, unless it is the usual one of the scheme, and what a backslash
begins after it. -/
def readPort (scheme : List Char) (cs : List Char) : Option (Option Nat × List Char) :=
  let digits := cs.takeWhile (· != '\\')
  let rest := cs.dropWhile (· != '\\')
  let port := numeral 10 digits
  if digits.isEmpty then some (none, rest)
  else if digits.all Char.isDigit && port < UInt16.size then
    some (if specialSchemes.lookup scheme = some port then none else some port, rest)
  else none

/-- What follows two slashes. A place without a host has no user and no port
either; `isLast` says that nothing comes after the text. -/
def readAuthority (scheme : List Char) (isLast : Bool) (cs : List Char) : Option Place := do
  let special := isSpecial scheme
  let authority := cs.takeWhile fun c => !isSlash special c
  let rest := cs.dropWhile fun c => !isSlash special c
  let (userText, placeText) := cutUser authority
  let (hostText, portText) := cutPort false placeText
  let user := userText.bind readUser
  if hostText.isEmpty then
    let onlyMark := userText == some [] && placeText.isEmpty && !(isLast && rest.isEmpty)
    if special || user.isSome || portText.isSome || onlyMark then none
    else return ⟨some [], none, none, pathAfterHost special rest⟩
  else
    let host ← if special then readHost hostText else readOtherHost hostText
    let (port, begun) ← readPort scheme (portText.getD [])
    return ⟨some host, user, port, pathAfterHost special (begun ++ rest)⟩

-- ====================================================== files

/-- The place of a file on a host, whose path begins after a slash. A drive is
on no host. -/
def filePlace (host : List Char) (segments : List (List Char)) : Place :=
  let onDrive := segments.head?.any fun segment => (drive? segment).isSome
  ⟨some (if onDrive then [] else host), none, none, filePath segments⟩

/-- The host that is this one. -/
def localHost : List Char := "localhost".toList

/-- The place of a file from the text after two slashes. -/
def readFileHost (cs : List Char) : Option Place :=
  let hostText := cs.takeWhile fun c => !isSlash true c
  let rest := cs.dropWhile fun c => !isSlash true c
  if hostText.isEmpty || (drive? hostText).isSome then some (filePlace [] (readFileSegments cs))
  else do
    let host ← readHost hostText
    if host = localHost then return filePlace [] (readFileSegments rest)
    else return filePlace host (readFileSegments (rest.drop 1))

/-- The place of a file. -/
def readFile (cs : List Char) : Option Place :=
  match cs with
  | a :: b :: rest =>
    if isSlash true a && isSlash true b then readFileHost rest
    else some (filePlace [] (readFileSegments (if isSlash true a then b :: rest else a :: b :: rest)))
  | cs => some (filePlace [] (readFileSegments (cs.dropWhile (isSlash true))))

-- ==================================================== reading

/-- The place after the scheme. -/
def readPlace (scheme : List Char) (isLast : Bool) (cs : List Char) : Option Place :=
  if scheme = fileScheme then readFile cs
  else if isSpecial scheme then readAuthority scheme isLast (cs.dropWhile (isSlash true))
  else
    match cs with
    | '/' :: '/' :: rest => readAuthority scheme isLast rest
    | '/' :: rest => some ⟨none, none, none, .segments (readSegments false rest)⟩
    | cs => some ⟨none, none, none, .opaqueText (encodeAll [] cs)⟩

/-- Read an address, which must have a scheme. -/
def Url.read? (s : String) : Option Url := do
  let isEdge (c : Char) : Bool := c.toNat ≤ 0x20
  let trimmed := ((s.toList.dropWhile isEdge).reverse.dropWhile isEdge).reverse
  let cs := trimmed.filter fun c => c != '\t' && c != '\n' && c != '\r'
  let (scheme, rest) ← readScheme cs
  let (rest, fragment) := cutAt '#' rest
  let (rest, query) := cutAt '?' rest
  let place ← readPlace scheme (query.isNone && fragment.isNone) rest
  return {
    scheme
    host := place.host
    user := place.user
    port := place.port
    path := place.path
    query := query.map (encodeAll (querySet (isSpecial scheme)))
    fragment := fragment.map (encodeAll fragmentSet) }

-- ==================================================== writing

/-- The text of a user before a host. -/
def UserInfo.chars (u : UserInfo) : List Char :=
  u.name ++ (if u.password.isEmpty then [] else ':' :: u.password) ++ ['@']

/-- The text of the place of an address. A path that begins with two slashes
gets a dot segment before it where a host might be read from it. -/
def Url.placeChars (u : Url) : List Char :=
  match u.host with
  | none => (if ['/', '/'].isPrefixOf u.path.chars then ['/', '.'] else []) ++ u.path.chars
  | some host =>
    let user := (u.user.map UserInfo.chars).getD []
    let port := match u.port with
      | some n => ':' :: decimal n
      | none => []
    '/' :: '/' :: user ++ host ++ port ++ u.path.chars

/-- The text of an address. -/
def Url.text (u : Url) : String :=
  let tail (mark : Char) (part : Option (List Char)) : List Char :=
    match part with
    | some cs => mark :: cs
    | none => []
  String.ofList
    (u.scheme ++ ':' :: u.placeChars ++ tail '?' u.query ++ tail '#' u.fragment)

/-- Path and query: what a server is asked for. -/
def Url.target (u : Url) : String :=
  String.ofList (u.path.chars ++ match u.query with
    | some q => '?' :: q
    | none => [])

-- ===================================================== asking

/-- Whether a user can be told to a server apart from the address: the name is
text, and it or the password is one that says something. -/
def UserInfo.isTellable (u : UserInfo) : Bool :=
  match percentDecode? u.name with
  | none => false
  | some name => !name.isEmpty || (!u.password.isEmpty && (percentDecode? u.password).isSome)

/-- The address as it is asked for: without a user that can be told apart from
it. -/
def Url.asked (u : Url) : Url :=
  if u.user.any UserInfo.isTellable then { u with user := none } else u

/-- The characters that may not stand in the host of a request. -/
def notInRequests : List Char := ['"', Char.ofNat 0x60, '\x7b', '\x7d']

/-- How long the address of a request may be. -/
def longestRequest : Nat := 65534

/-- Whether a client can ask for it: there is a host, the scheme is one that
the client speaks, and a request can hold the address. -/
def Url.isReachable (u : Url) : Bool :=
  (u.host.any fun h => !h.isEmpty && !h.any notInRequests.contains) &&
    (u.scheme = "http".toList || u.scheme = "https".toList) &&
    u.text.length ≤ longestRequest

end NetworkSlice.Http
