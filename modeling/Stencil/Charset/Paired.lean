import Stencil.Charset.Index.Korean
import Stencil.Charset.Index.Traditional

/-!
Charsets that write a character with one octet or with a pair. Octets are read from the front: the
first ones tell a text, or that something is wrong with them, and the rest is read after them.
-/

namespace Stencil

namespace Charset

/-! ### Reading from the front -/

/-- What an octet tells with those behind it, and how many of those it takes. -/
structure Front where
  text : List Char
  more : Nat := 0

/-- Octets that stand for no character. -/
def Front.fault (more : Nat) : Front :=
  ⟨['\uFFFD'], more⟩

/-- What a pair tells. One that stands for no character leaves its second octet if that is ASCII. -/
def Front.ofPair (trail : UInt8) : Option (List Char) → Front
  | some text => ⟨text, 1⟩
  | none => .fault (if trail.toNat < 0x80 then 0 else 1)

/-- Octets from the front, after `skip` of them that were taken already. -/
def decodeFrom (front : UInt8 → Bytes → Front) : Nat → Bytes → List Char
  | _, [] => []
  | skip + 1, _ :: rest => decodeFrom front skip rest
  | 0, octet :: rest => (front octet rest).text ++ decodeFrom front (front octet rest).more rest

def ascii? (octet : UInt8) : Option Char :=
  if octet.toNat < 0x80 then some (Char.ofNat octet.toNat) else none

def asciiOctet? (c : Char) : Option UInt8 :=
  if c.toNat < 0x80 then some (UInt8.ofNat c.toNat) else none

/-! ### References -/

/-- What is written for a character that a charset lacks. -/
def reference (c : Char) : List Char :=
  '&' :: '#' :: Nat.toDigits 10 c.toNat ++ [';']

/-! ### Pairs -/

/-- A charset of single octets and pairs. A pair may stand for several characters, and what is written
for a character is not every pair that stands for it. -/
structure Paired where
  grid : Grid
  single? : UInt8 → Option Char
  octet? : Char → Option UInt8
  text? : Nat → Option (List Char)
  pointer? : Char → Option Nat

namespace Paired

def front (code : Paired) (octet : UInt8) (rest : Bytes) : Front :=
  match code.single? octet with
  | some c => ⟨[c], 0⟩
  | none =>
      match Grid.place? octet.toNat code.grid.leads, rest with
      | some _, trail :: _ => .ofPair trail ((code.grid.pointer? octet trail).bind code.text?)
      | _, _ => .fault 0

def decode (code : Paired) (octets : Bytes) : List Char :=
  decodeFrom code.front 0 octets

def encodeChar? (code : Paired) (c : Char) : Option Bytes :=
  match code.octet? c with
  | some octet => some [octet]
  | none => (code.pointer? c).map code.grid.octets

/-! ### EUC-KR and Big5 -/

def eucKr : Paired where
  grid := ⟨[(0x81, 126)], [(0x41, 190)]⟩
  single? := ascii?
  octet? := asciiOctet?
  text? pointer := (Index.eucKr.char? pointer).map (fun c => [c])
  pointer? := Index.eucKr.pointer?

/-- Letters with two marks, for which there is no single character. -/
def big5Marked : List (Nat × List Char) :=
  [(1133, ['Ê', '\u0304']), (1135, ['Ê', '\u030C']), (1164, ['ê', '\u0304']),
    (1166, ['ê', '\u030C'])]

/-- The characters that are written at the last of their pointers. -/
def big5Last : List Char :=
  ['═', '╞', '╡', '╪', '十', '卅']

/-- What Hong Kong added is read and not written. -/
def big5 : Paired where
  grid := ⟨[(0x81, 126)], [(0x40, 63), (0xA1, 94)]⟩
  single? := ascii?
  octet? := asciiOctet?
  text? pointer :=
    match big5Marked.lookup pointer with
    | some text => some text
    | none => (Index.big5.char? pointer).map (fun c => [c])
  pointer? c :=
    let index := Index.big5.without 0 5024
    if c ∈ big5Last then index.lastPointer? c else index.pointer? c

end Paired

end Charset

end Stencil
