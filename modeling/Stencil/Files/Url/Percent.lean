import Stencil.Text.Hex
import Stencil.Text.Utf8

/-!
Percent form. An octet that a part of an address cannot hold is written as a percent sign and its
two digits; each part has its own set of characters that are written so, besides controls and all
characters beyond ASCII.
-/

namespace Stencil.Percent

def capitalHexDigit (value : Nat) : Char :=
  if value < 10 then Char.ofNat (48 + value) else Char.ofNat (55 + value)

def octet (value : UInt8) : List Char :=
  ['%', capitalHexDigit (value.toNat / 0x10), capitalHexDigit (value.toNat % 0x10)]

/-- A text, with the characters of a set in percent form. -/
def encode (set : Char → Bool) (text : List Char) : List Char :=
  text.flatMap fun c =>
    if c.toNat < 0x20 || 0x7E < c.toNat || set c then (Utf8.encodeChar c).flatMap octet else [c]

/-- The octets that a text in percent form stands for. A percent sign without two digits after it
stands for itself. -/
def decode : List Char → Bytes
  | '%' :: a :: b :: rest =>
      match Hex.value? a, Hex.value? b with
      | some high, some low => UInt8.ofNat (high * 0x10 + low) :: decode rest
      | _, _ => 0x25 :: decode (a :: b :: rest)
  | c :: rest => Utf8.encodeChar c ++ decode rest
  | [] => []

/-! ### The sets -/

/-- No character besides controls and those beyond ASCII. -/
def inHost (_ : Char) : Bool := false

def inFragment (c : Char) : Bool :=
  c = ' ' || c = '\x22' || c = '<' || c = '>' || c = '\x60'

/-- In a query; an address of the web hides the apostrophe as well. -/
def inQuery (web : Bool) (c : Char) : Bool :=
  c = ' ' || c = '\x22' || c = '#' || c = '<' || c = '>' || (web && c = '\x27')

def inPath (c : Char) : Bool :=
  inFragment c || c = '#' || c = '?' || c = '\x7b' || c = '\x7d'

/-- In a name of the path of a file, where no character may end the name. -/
def inName (c : Char) : Bool :=
  inPath c || c = '%' || c = '\\'

def inUser (c : Char) : Bool :=
  inPath c || c = '/' || c = ':' || c = ';' || c = '=' || c = '@' || c = '[' || c = '\\' || c = ']'
    || c = '^' || c = '|'

end Stencil.Percent
