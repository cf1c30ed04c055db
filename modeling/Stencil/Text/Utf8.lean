/-!
UTF-8 text. `encode` writes characters as octets, `scan` reads octets one at a time and reports each
malformed sequence once, `decodeLossy` puts U+FFFD in its place and `decode?` refuses it.
-/

namespace Stencil

abbrev Bytes := List UInt8

namespace Utf8

def encodeChar (c : Char) : Bytes :=
  let n := c.toNat
  if n < 0x80 then [UInt8.ofNat n]
  else if n < 0x800 then
    [UInt8.ofNat (0xC0 + n / 0x40), UInt8.ofNat (0x80 + n % 0x40)]
  else if n < 0x10000 then
    [UInt8.ofNat (0xE0 + n / 0x1000), UInt8.ofNat (0x80 + n / 0x40 % 0x40),
      UInt8.ofNat (0x80 + n % 0x40)]
  else
    [UInt8.ofNat (0xF0 + n / 0x40000), UInt8.ofNat (0x80 + n / 0x1000 % 0x40),
      UInt8.ofNat (0x80 + n / 0x40 % 0x40), UInt8.ofNat (0x80 + n % 0x40)]

def encode (text : List Char) : Bytes :=
  text.flatMap encodeChar

def encodeString (text : String) : Bytes :=
  encode text.toList

def size (text : List Char) : Nat :=
  text.foldl (fun total c => total + c.utf8Size) 0

/-- Where a reader stands: between characters, or inside one that still lacks `count` octets, the
next of which has to lie between `lower` and `upper`. -/
inductive State where
  | start
  | inside (count lower upper value : Nat)
  deriving DecidableEq, Repr

/-- The reader after a first octet, with what the octet completes: a character or a fault. -/
def State.lead (octet : UInt8) : List (Option Char) × State :=
  let n := octet.toNat
  if n < 0x80 then ([some (Char.ofNat n)], .start)
  else if n < 0xC2 then ([none], .start)
  else if n < 0xE0 then ([], .inside 1 0x80 0xBF (n - 0xC0))
  else if n = 0xE0 then ([], .inside 2 0xA0 0xBF 0)
  else if n = 0xED then ([], .inside 2 0x80 0x9F 0xD)
  else if n < 0xF0 then ([], .inside 2 0x80 0xBF (n - 0xE0))
  else if n = 0xF0 then ([], .inside 3 0x90 0xBF 0)
  else if n < 0xF4 then ([], .inside 3 0x80 0xBF (n - 0xF0))
  else if n = 0xF4 then ([], .inside 3 0x80 0x8F 4)
  else ([none], .start)

/-- One octet. An octet that cannot continue a character ends it as a fault and starts anew. -/
def State.step (state : State) (octet : UInt8) : List (Option Char) × State :=
  match state with
  | .start => State.lead octet
  | .inside count lower upper value =>
      if lower ≤ octet.toNat ∧ octet.toNat ≤ upper then
        let longer := value * 0x40 + (octet.toNat - 0x80)
        if count ≤ 1 then ([some (Char.ofNat longer)], .start)
        else ([], .inside (count - 1) 0x80 0xBF longer)
      else
        let next := State.lead octet
        (none :: next.1, next.2)

/-- Every character in order, with `none` for each maximal malformed sequence. -/
def scan : State → Bytes → List (Option Char)
  | .start, [] => []
  | .inside .., [] => [none]
  | state, octet :: rest =>
      let next := state.step octet
      next.1 ++ scan next.2 rest

def replacement : Char := '\uFFFD'

def decodeLossy (octets : Bytes) : List Char :=
  (scan .start octets).map (fun read => read.getD replacement)

def decode? (octets : Bytes) : Option (List Char) :=
  (scan .start octets).mapM id

end Utf8

end Stencil
