/-!
UTF-16 code units. A script string is a list of units, so it can hold half of a surrogate pair.
`Units.scan` reads units back as characters and reports each unpaired half.
-/

namespace Stencil

/-- Text as UTF-16 code units. -/
abbrev Units := List UInt16

namespace Units

def ofChar (c : Char) : Units :=
  let n := c.toNat
  if n < 0x10000 then [UInt16.ofNat n]
  else
    [UInt16.ofNat (0xD800 + (n - 0x10000) / 0x400), UInt16.ofNat (0xDC00 + (n - 0x10000) % 0x400)]

def ofChars (text : List Char) : Units :=
  text.flatMap ofChar

def ofString (text : String) : Units :=
  ofChars text.toList

def isHigh (unit : UInt16) : Bool :=
  0xD800 ≤ unit.toNat && unit.toNat < 0xDC00

def isLow (unit : UInt16) : Bool :=
  0xDC00 ≤ unit.toNat && unit.toNat < 0xE000

def pair (high low : UInt16) : Char :=
  Char.ofNat (0x10000 + (high.toNat - 0xD800) * 0x400 + (low.toNat - 0xDC00))

/-- Every character in order; an unpaired half of a pair is reported as itself. -/
def scan : Units → List (Except UInt16 Char)
  | [] => []
  | [unit] =>
      if isHigh unit || isLow unit then [.error unit] else [.ok (Char.ofNat unit.toNat)]
  | unit :: next :: rest =>
      if isHigh unit then
        if isLow next then .ok (pair unit next) :: scan rest
        else .error unit :: scan (next :: rest)
      else if isLow unit then .error unit :: scan (next :: rest)
      else .ok (Char.ofNat unit.toNat) :: scan (next :: rest)

/-- Characters, with U+FFFD for each unpaired half. -/
def toCharsLossy (units : Units) : List Char :=
  (scan units).map fun
    | .ok c => c
    | .error _ => '\uFFFD'

def hexDigit (value : Nat) : Char :=
  if value < 10 then Char.ofNat (48 + value) else Char.ofNat (55 + value)

/-- An unpaired half is written as a backslash, `u` and four capital hexadecimal digits. -/
def escapeHalf (unit : UInt16) : List Char :=
  let n := unit.toNat
  ['\\', 'u', hexDigit (n / 0x1000), hexDigit (n / 0x100 % 0x10), hexDigit (n / 0x10 % 0x10),
    hexDigit (n % 0x10)]

def toChars (units : Units) : List Char :=
  (scan units).flatMap fun
    | .ok c => [c]
    | .error unit => escapeHalf unit

def toString (units : Units) : String :=
  String.ofList (toChars units)

end Units

end Stencil
