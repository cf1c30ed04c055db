import Stencil.Decimal.Shortest
import Stencil.Text.Hex

/-!
JSON values. Integers that fit 64 bits keep their exact value, every other number is a double. The
members of an object are kept in the order of their names, each name once.
-/

namespace Stencil

inductive Json.Number where
  | integer (value : Int)
  | real (value : Float)

inductive Json where
  | null
  | bool (value : Bool)
  | number (value : Json.Number)
  | string (value : String)
  | array (items : List Json)
  | object (members : List (String × Json))

namespace Json

/-- Puts a member at its place in the order of names; a member of that name is replaced. -/
def insert (name : String) (value : Json) : List (String × Json) → List (String × Json)
  | [] => [(name, value)]
  | (other, held) :: rest =>
      if name < other then (name, value) :: (other, held) :: rest
      else if name = other then (name, value) :: rest
      else (other, held) :: insert name value rest

/-- The object of the given members, a later one taking the place of an earlier one. -/
def ofMembers (members : List (String × Json)) : Json :=
  .object (members.foldl (fun held member => insert member.1 member.2 held) [])

def member? (name : String) : Json → Option Json
  | .object members => members.lookup name
  | _ => none

mutual

/-- Changes every string in a value; names of members stay. -/
def mapStrings (change : String → String) : Json → Json
  | .string text => .string (change text)
  | .array items => .array (mapItems change items)
  | .object members => .object (mapMembers change members)
  | value => value

def mapItems (change : String → String) : List Json → List Json
  | [] => []
  | item :: rest => mapStrings change item :: mapItems change rest

def mapMembers (change : String → String) : List (String × Json) → List (String × Json)
  | [] => []
  | (name, value) :: rest => (name, mapStrings change value) :: mapMembers change rest

end

/-! ### Writing -/

/-- A double has `.0` or an exponent, positional from `0.00001` to below `1e+16`. -/
def realLayout : Decimal.Layout := ⟨-5, 16, true⟩

def Number.write : Number → List Char
  | .integer value => (toString value).toList
  | .real value =>
      let digits :=
        if value == 0.0 then ['0', '.', '0'] else realLayout.write (Decimal.shortest value)
      if Decimal.isNegative value then '-' :: digits else digits

def escape (c : Char) : List Char :=
  if c = '\x22' then ['\\', '\x22']
  else if c = '\\' then ['\\', '\\']
  else if c = '\x08' then ['\\', 'b']
  else if c = '\x0c' then ['\\', 'f']
  else if c = '\n' then ['\\', 'n']
  else if c = '\r' then ['\\', 'r']
  else if c = '\t' then ['\\', 't']
  else if c.toNat < 0x20 then
    ['\\', 'u', '0', '0', Hex.digit (c.toNat / 0x10), Hex.digit (c.toNat % 0x10)]
  else [c]

def writeString (text : String) : List Char :=
  '\x22' :: text.toList.flatMap escape ++ ['\x22']

mutual

def write : Json → List Char
  | .null => ['n', 'u', 'l', 'l']
  | .bool true => ['t', 'r', 'u', 'e']
  | .bool false => ['f', 'a', 'l', 's', 'e']
  | .number value => value.write
  | .string text => writeString text
  | .array [] => ['[', ']']
  | .array (first :: rest) => '[' :: write first ++ writeItems rest
  | .object [] => ['\x7b', '\x7d']
  | .object ((name, first) :: rest) =>
      '\x7b' :: writeString name ++ ':' :: write first ++ writeMembers rest

/-- The items after the first, and the closing bracket. -/
def writeItems : List Json → List Char
  | [] => [']']
  | item :: rest => ',' :: write item ++ writeItems rest

/-- The members after the first, and the closing brace. -/
def writeMembers : List (String × Json) → List Char
  | [] => ['\x7d']
  | (name, value) :: rest => ',' :: writeString name ++ ':' :: write value ++ writeMembers rest

end

def render (value : Json) : String :=
  String.ofList value.write

end Json

end Stencil
