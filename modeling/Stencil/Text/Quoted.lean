import Stencil.Text.Hex
import Stencil.Text.Printable

/-!
Text as diagnostics show it: in double quotes, with a backslash before what would end or blur it and
`\u` with the number in braces for what cannot be seen.
-/

namespace Stencil.Text

/-- A number in lower case hexadecimal digits, without leading zeros. -/
def lowerHex (n : Nat) : List Char :=
  if n < 16 then [Hex.digit n] else lowerHex (n / 16) ++ [Hex.digit (n % 16)]
termination_by n

def quoteChar (c : Char) : List Char :=
  if c = '\u0000' then ['\\', '0']
  else if c = '\t' then ['\\', 't']
  else if c = '\r' then ['\\', 'r']
  else if c = '\n' then ['\\', 'n']
  else if c = '\\' then ['\\', '\\']
  else if c = '\x22' then ['\\', '\x22']
  else if isAttached c || isHidden c then
    ['\\', 'u', '\x7b'] ++ lowerHex c.toNat ++ ['\x7d']
  else [c]

def quote (text : String) : String :=
  String.ofList ('\x22' :: text.toList.flatMap quoteChar ++ ['\x22'])

/-- Texts in brackets, separated by a comma and a space. -/
def showList (shown : List String) : String :=
  "[" ++ String.intercalate ", " shown ++ "]"

/-- An optional value: `None`, or the value after `Some`. -/
def showOption {α : Type} (show? : α → String) : Option α → String
  | none => "None"
  | some value => "Some(" ++ show? value ++ ")"

def showRecord (name : String) (fields : List (String × String)) : String :=
  name ++ " \x7b " ++ String.intercalate ", " (fields.map (fun field => field.1 ++ ": " ++ field.2))
    ++ " \x7d"

def showBool (value : Bool) : String :=
  if value then "true" else "false"

end Stencil.Text
