import NetworkSlice.Json.Basic
import NetworkSlice.Decimal.Shortest

/-
The text of a JSON value, on one line or laid out over several.

Inside a string only the quote, the backslash and the controls are escaped;
every other character stands as it is.
-/
namespace NetworkSlice.Json

/-- One character of a string. -/
def escapedChar (c : Char) : List Char :=
  if c = '"' then ['\\', '"']
  else if c = '\\' then ['\\', '\\']
  else if c = '\x08' then ['\\', 'b']
  else if c = '\t' then ['\\', 't']
  else if c = '\n' then ['\\', 'n']
  else if c = '\x0c' then ['\\', 'f']
  else if c = '\r' then ['\\', 'r']
  else if c.toNat < 0x20 then
    ['\\', 'u', '0', '0', Nat.digitChar (c.toNat / 16), Nat.digitChar (c.toNat % 16)]
  else [c]

/-- A string in its quotes. -/
def stringText (s : String) : String :=
  String.ofList ('"' :: s.toList.flatMap escapedChar ++ ['"'])

/-- The text of a number. -/
def Number.text : Number → String
  | int n => toString n
  | float x => x.text

mutual

/-- The value on one line, without blanks. -/
def compact : Json → String
  | null => "null"
  | bool true => "true"
  | bool false => "false"
  | num n => n.text
  | str s => stringText s
  | arr items => "[" ++ compactItems items ++ "]"
  | obj members => "\x7b" ++ compactMembers members ++ "\x7d"

/-- Items with commas between them. -/
def compactItems : List Json → String
  | [] => ""
  | [item] => item.compact
  | item :: rest => item.compact ++ "," ++ compactItems rest

/-- Members with commas between them. -/
def compactMembers : List (String × Json) → String
  | [] => ""
  | [(name, value)] => stringText name ++ ":" ++ value.compact
  | (name, value) :: rest =>
    stringText name ++ ":" ++ value.compact ++ "," ++ compactMembers rest

end

/-- A new line, indented. -/
def newLine (depth : Nat) : String :=
  "\n" ++ String.ofList (List.replicate (2 * depth) ' ')

mutual

/-- The value laid out, each item and member on a line of its own, inside
something of the given depth. -/
def prettyAt (depth : Nat) : Json → String
  | null => "null"
  | bool true => "true"
  | bool false => "false"
  | num n => n.text
  | str s => stringText s
  | arr [] => "[]"
  | arr (item :: rest) => "[" ++ prettyItems (depth + 1) (item :: rest) ++ newLine depth ++ "]"
  | obj [] => "\x7b\x7d"
  | obj (member :: rest) =>
    "\x7b" ++ prettyMembers (depth + 1) (member :: rest) ++ newLine depth ++ "\x7d"

/-- Items, each on a line of its own. -/
def prettyItems (depth : Nat) : List Json → String
  | [] => ""
  | [item] => newLine depth ++ item.prettyAt depth
  | item :: rest => newLine depth ++ item.prettyAt depth ++ "," ++ prettyItems depth rest

/-- Members, each on a line of its own. -/
def prettyMembers (depth : Nat) : List (String × Json) → String
  | [] => ""
  | [(name, value)] => newLine depth ++ stringText name ++ ": " ++ value.prettyAt depth
  | (name, value) :: rest =>
    newLine depth ++ stringText name ++ ": " ++ value.prettyAt depth ++ "," ++
      prettyMembers depth rest

end

/-- The value laid out over several lines. -/
def pretty (j : Json) : String := j.prettyAt 0

end NetworkSlice.Json
