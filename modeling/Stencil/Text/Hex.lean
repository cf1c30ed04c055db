import Stencil.Text.Utf8

/-!
Octets as pairs of hexadecimal digits in lower case.
-/

namespace Stencil.Hex

def digit (value : Nat) : Char :=
  if value < 10 then Char.ofNat (48 + value) else Char.ofNat (87 + value)

def encodeOctet (octet : UInt8) : List Char :=
  [digit (octet.toNat / 0x10), digit (octet.toNat % 0x10)]

def encode (octets : Bytes) : String :=
  String.ofList (octets.flatMap encodeOctet)

def value? (c : Char) : Option Nat :=
  let n := c.toNat
  if 48 ≤ n ∧ n ≤ 57 then some (n - 48)
  else if 97 ≤ n ∧ n ≤ 102 then some (n - 87)
  else if 65 ≤ n ∧ n ≤ 70 then some (n - 55)
  else none

/-- The octets of the pairs of digits at the front of a text. -/
def decode : List Char → Bytes
  | high :: low :: rest =>
      match value? high, value? low with
      | some high, some low => UInt8.ofNat (high * 0x10 + low) :: decode rest
      | _, _ => []
  | _ => []

end Stencil.Hex
