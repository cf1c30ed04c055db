import Stencil.Charset.Basic
import Stencil.Charset.Gb18030
import Stencil.Charset.Japanese
import Stencil.Text.Units

/-!
Reading octets as text and writing text as octets. A byte order mark decides how octets are read,
whatever charset is asked for, and is taken away. What cannot be read becomes U+FFFD, a character
that cannot be written becomes its decimal reference.
-/

namespace Stencil

/-! ### UTF-16 in octets -/

namespace Units

/-- The units of octets in pairs, and whether an octet is left over. -/
def ofBytes (bigEndian : Bool) : Bytes → Units × Bool
  | [] => ([], false)
  | [_] => ([], true)
  | first :: second :: rest =>
      let high := if bigEndian then first else second
      let low := if bigEndian then second else first
      let next := ofBytes bigEndian rest
      (UInt16.ofNat (high.toNat * 0x100 + low.toNat) :: next.1, next.2)

/-- A text in pairs of octets; half a pair at the end is one fault, together with an unpaired high
half before it. -/
def decodeBytes (bigEndian : Bool) (octets : Bytes) : List Char :=
  let read := ofBytes bigEndian octets
  let text := toCharsLossy read.1
  let openHalf := read.1.getLast?.any isHigh
  if read.2 && !openHalf then text ++ ['\uFFFD'] else text

end Units

namespace Charset

/-! ### Reading -/

def decodeUserDefined (octet : UInt8) : Char :=
  let n := octet.toNat
  if n < 0x80 then Char.ofNat n else Char.ofNat (0xF780 + (n - 0x80))

def decodeUnmarked : Charset → Bytes → List Char
  | .utf8, octets => Utf8.decodeLossy octets
  | .utf16le, octets => Units.decodeBytes false octets
  | .utf16be, octets => Units.decodeBytes true octets
  | .replacement, octets => if octets.isEmpty then [] else ['\uFFFD']
  | .userDefined, octets => octets.map decodeUserDefined
  | .page codes, octets => octets.map (fun octet => (codes.decodeOctet octet).getD '\uFFFD')
  | .gbk, octets => Gb18030.decode octets
  | .gb18030, octets => Gb18030.decode octets
  | .big5, octets => Paired.big5.decode octets
  | .eucJp, octets => EucJp.decode octets
  | .iso2022Jp, octets => JisSet.decode .ascii false octets
  | .shiftJis, octets => Paired.shiftJis.decode octets
  | .eucKr, octets => Paired.eucKr.decode octets

/-- The charset that a byte order mark tells, and the octets after the mark. -/
def sniff : Bytes → Option (Charset × Bytes)
  | 0xEF :: 0xBB :: 0xBF :: rest => some (.utf8, rest)
  | 0xFF :: 0xFE :: rest => some (.utf16le, rest)
  | 0xFE :: 0xFF :: rest => some (.utf16be, rest)
  | _ => none

def decode (charset : Charset) (octets : Bytes) : List Char :=
  match sniff octets with
  | some (marked, rest) => marked.decodeUnmarked rest
  | none => charset.decodeUnmarked octets

def decodeString (charset : Charset) (octets : Bytes) : String :=
  String.ofList (charset.decode octets)

/-! ### Writing -/

/-- The octets of a character, if the charset has it; where it has several sets, those in the first of
them that has the character. -/
def encodeChar? : Charset → Char → Option Bytes
  | .userDefined, c =>
      if 0xF780 ≤ c.toNat ∧ c.toNat ≤ 0xF7FF then some [UInt8.ofNat (c.toNat - 0xF780 + 0x80)]
      else (asciiOctet? c).map (fun octet => [octet])
  | .page codes, c => (codes.encodeChar c).map (fun octet => [octet])
  | .gbk, c => Gb18030.encodeGbk? c
  | .gb18030, c => Gb18030.encodeChar? c
  | .big5, c => Paired.big5.encodeChar? c
  | .eucJp, c => EucJp.encodeChar? c
  | .iso2022Jp, c => (JisSet.first? c).map Prod.snd
  | .shiftJis, c => Paired.shiftJis.encodeChar? c
  | .eucKr, c => Paired.eucKr.encodeChar? c
  | _, c => some (Utf8.encodeChar c)

/-- A character, or its reference where the charset lacks it. -/
def encodeChar (charset : Charset) (c : Char) : Bytes :=
  match charset.encodeChar? c with
  | some octets => octets
  | none => Utf8.encode (reference c)

/-- A text in the output charset. In one with several sets the octets of a character depend on those
before it. -/
def encode (charset : Charset) (text : List Char) : Bytes :=
  match charset.output with
  | .iso2022Jp => JisSet.encode .ascii text
  | written => text.flatMap written.encodeChar

/-- Whether the output charset has every character of a text. -/
def Covers (charset : Charset) (text : List Char) : Prop :=
  ∀ c ∈ text, (charset.output.encodeChar? c).isSome = true

instance (charset : Charset) (text : List Char) : Decidable (charset.Covers text) :=
  List.decidableBAll (fun c => (charset.output.encodeChar? c).isSome = true) text

end Charset

end Stencil
