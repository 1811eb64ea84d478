import NetworkSlice.Json.Basic

/-
Documents: JSON as far as it can be read.

A text with a fault is still read up to the fault, and the fault becomes part
of the tree. What a reader of the tree then meets first, a value of the wrong
type or the fault, is what it reports; and readers look more or less closely
at a value: one that wants it, one that only skips it, and one that wants one
of a few names and goes by the first character. Hence the three faces of a
`Break`, and the strings and numbers that are well formed but have no value.
-/
namespace NetworkSlice

/-- What is wrong with a JSON text. -/
inductive Fault where
  | endOfList
  | endOfObject
  | endOfString
  | endOfValue
  | expectedColon
  | expectedCommaOrBracket
  | expectedCommaOrBrace
  | expectedWord
  | expectedValue
  | invalidEscape
  | invalidNumber
  | numberOutOfRange
  | controlCharacter
  /-- Something else stands where a member's name should begin. -/
  | nameExpected
  | loneSurrogate
  | trailingComma
  | trailingCharacters
  | endOfEscape
  | tooDeep
deriving DecidableEq, Repr

namespace Fault

/-- The wording of the fault. -/
def message : Fault → String
  | endOfList => "EOF while parsing a list"
  | endOfObject => "EOF while parsing an object"
  | endOfString => "EOF while parsing a string"
  | endOfValue => "EOF while parsing a value"
  | expectedColon => "expected `:`"
  | expectedCommaOrBracket => "expected `,` or `]`"
  | expectedCommaOrBrace => "expected `,` or `\x7d`"
  | expectedWord => "expected ident"
  | expectedValue => "expected value"
  | invalidEscape => "invalid escape"
  | invalidNumber => "invalid number"
  | numberOutOfRange => "number out of range"
  | controlCharacter =>
    "control character (\\u0000-\\u001F) found while parsing a string"
  | nameExpected => "key must be a string"
  | loneSurrogate => "lone leading surrogate in hex escape"
  | trailingComma => "trailing comma"
  | trailingCharacters => "trailing characters"
  | endOfEscape => "unexpected end of hex escape"
  | tooDeep => "recursion limit exceeded"

/-- Whether the text ended too soon. -/
def isEnd : Fault → Bool
  | endOfList | endOfObject | endOfString | endOfValue => true
  | _ => false

end Fault

/-- Where a text cannot be read further. -/
structure Break where
  /-- What a reader reports that wants the value. -/
  asValue : Fault
  /-- What a reader reports that skips it. -/
  asSkipped : Fault
  /-- What a reader reports that wants one of a few names. -/
  asVariant : Fault
deriving DecidableEq, Repr

namespace Break

/-- One fault for every reader. -/
def plain (f : Fault) : Break := ⟨f, f, f⟩

/-- A number or a word cut short: whoever wants a name has seen from its first
character that it is none. The word `null` is another matter, because a name
may be left out, and then the word is read to its end. -/
def nameless (asValue asSkipped : Fault) : Break := ⟨asValue, asSkipped, .expectedValue⟩

end Break

/-- How a list or an object stops short. -/
structure Ending where
  stop : Break
  /-- Whether a comma was read after the last item. -/
  afterComma : Bool
deriving DecidableEq, Repr

/-- A JSON document, as far as it can be read. A list or an object whose last
item is itself cut short has no ending of its own. -/
inductive Doc where
  | null
  | bool (value : Bool)
  | num (value : Except Fault Json.Number)
  | str (value : Except Fault String)
  | arr (items : List Doc) (ending : Option Ending)
  | obj (members : List (Except Fault String × Doc)) (ending : Option Ending)
  | broken (stop : Break)

instance : Inhabited Doc := ⟨.null⟩

namespace Doc

mutual

/-- The document of a value; it has no faults. -/
def ofJson : Json → Doc
  | .null => null
  | .bool b => bool b
  | .num n => num (.ok n)
  | .str s => str (.ok s)
  | .arr items => arr (ofItems items) none
  | .obj members => obj (ofMembers members) none

/-- The documents of the items. -/
def ofItems : List Json → List Doc
  | [] => []
  | item :: rest => ofJson item :: ofItems rest

/-- The documents of the members. -/
def ofMembers : List (String × Json) → List (Except Fault String × Doc)
  | [] => []
  | (name, value) :: rest => (.ok name, ofJson value) :: ofMembers rest

end

mutual

/-- What a reader reports that skips the document. -/
def skip : Doc → Except Fault Unit
  | null => .ok ()
  | bool _ => .ok ()
  | num _ => .ok ()
  | str _ => .ok ()
  | arr items ending => do
    skipItems items
    match ending with
    | none => .ok ()
    | some e => .error e.stop.asSkipped
  | obj members ending => do
    skipMembers members
    match ending with
    | none => .ok ()
    | some e => .error e.stop.asSkipped
  | broken b => .error b.asSkipped

/-- Skip the items. -/
def skipItems : List Doc → Except Fault Unit
  | [] => .ok ()
  | item :: rest => do
    item.skip
    skipItems rest

/-- Skip the members. -/
def skipMembers : List (Except Fault String × Doc) → Except Fault Unit
  | [] => .ok ()
  | (_, value) :: rest => do
    value.skip
    skipMembers rest

end

mutual

/-- The whole value, for a reader that keeps it: nothing in it may be at
fault, and no more than `room` lists and objects may stand inside each
other. -/
def settle (room : Nat) : Doc → Except Fault Json
  | null => .ok .null
  | bool b => .ok (.bool b)
  | num n => n.map .num
  | str s => s.map .str
  | arr items ending =>
    match room with
    | 0 => .error .tooDeep
    | room + 1 => do
      let items ← settleItems room items
      match ending with
      | none => .ok (.arr items)
      | some e => .error e.stop.asValue
  | obj members ending =>
    match room with
    | 0 => .error .tooDeep
    | room + 1 => do
      let members ← settleMembers room members
      match ending with
      | none => .ok (.obj members)
      | some e => .error e.stop.asValue
  | broken b => .error b.asValue

/-- The values of the items. -/
def settleItems (room : Nat) : List Doc → Except Fault (List Json)
  | [] => .ok []
  | item :: rest => do
    let item ← item.settle room
    let rest ← settleItems room rest
    return item :: rest

/-- The members with their values. -/
def settleMembers (room : Nat) :
    List (Except Fault String × Doc) → Except Fault (List (String × Json))
  | [] => .ok []
  | (name, value) :: rest => do
    let name ← name
    let value ← value.settle room
    let rest ← settleMembers room rest
    return (name, value) :: rest

end

/-- How many lists and objects may stand inside each other. -/
def depthLimit : Nat := 127

end Doc

end NetworkSlice
