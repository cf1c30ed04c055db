import Stencil.Charset.Index.Japanese
import Stencil.Charset.Paired

/-!
The Japanese charsets. Shift_JIS and EUC-JP lay the same index out over different octets.
ISO-2022-JP has the octets of several sets and changes between them by escape sequences.
-/

namespace Stencil

namespace Charset

/-! ### Half-width katakana -/

def isKatakana (c : Char) : Bool :=
  0xFF61 ≤ c.toNat && c.toNat ≤ 0xFF9F

/-- The half-width katakana of an octet. -/
def katakana? (octet : UInt8) : Option Char :=
  if 0xA1 ≤ octet.toNat ∧ octet.toNat ≤ 0xDF then
    some (Char.ofNat (0xFF61 + (octet.toNat - 0xA1)))
  else none

def katakanaOctet (c : Char) : UInt8 :=
  UInt8.ofNat (0xA1 + (c.toNat - 0xFF61))

/-- The same letters in full width. -/
def wideKatakana : List Char :=
  "。「」、・ヲァィゥェォャュョッーアイウエオカキクケコサシスセソタチツテトナニヌネノハヒフヘホマミムメモヤユヨラリルレロワン゛゜".toList

/-! ### Shift_JIS and EUC-JP -/

/-- A character, or the one that is written in its place. -/
def jisWritten (c : Char) : Char :=
  if c = '−' then '－' else c

/-- The octet of a yen sign or an overline, which have the places of two ASCII characters. -/
def romanOctet? (c : Char) : Option UInt8 :=
  if c = '¥' then some 0x5C else if c = '‾' then some 0x7E else none

/-- Rows without characters of their own are for private use; of two rows of the same characters only
the later ones are written. -/
def Paired.shiftJis : Paired where
  grid := ⟨[(0x81, 31), (0xE0, 29)], [(0x40, 63), (0x80, 125)]⟩
  single? octet := if octet = 0x80 then some '\u0080' else (ascii? octet).or (katakana? octet)
  octet? c :=
    if c = '\u0080' then some 0x80
    else if isKatakana c then some (katakanaOctet c)
    else (asciiOctet? c).or (romanOctet? c)
  text? pointer :=
    if 8836 ≤ pointer ∧ pointer < 10716 then some [Char.ofNat (0xE000 + (pointer - 8836))]
    else (Index.jis0208.char? pointer).map (fun c => [c])
  pointer? c := (Index.jis0208.without 8272 564).pointer? (jisWritten c)

namespace EucJp

def grid : Grid :=
  ⟨[(0xA1, 94)], [(0xA1, 94)]⟩

def text? (index : Index) (lead trail : UInt8) : Option (List Char) :=
  (grid.pointer? lead trail).bind fun pointer => (index.char? pointer).map (fun c => [c])

def isLead (octet : UInt8) : Bool :=
  (Grid.place? octet.toNat grid.leads).isSome

/-- Two octets after the one that announces the second index. -/
def frontSupplement (lead : UInt8) : Bytes → Front
  | [] => .fault (if lead.toNat < 0x80 then 0 else 1)
  | trail :: _ =>
      if isLead lead then
        let told := Front.ofPair trail (text? Index.jis0212 lead trail)
        { told with more := told.more + 1 }
      else .ofPair lead none

def front (octet : UInt8) (rest : Bytes) : Front :=
  match ascii? octet, rest with
  | some c, _ => ⟨[c], 0⟩
  | none, [] => .fault 0
  | none, trail :: after =>
      if octet = 0x8E then .ofPair trail ((katakana? trail).map (fun c => [c]))
      else if octet = 0x8F then frontSupplement trail after
      else if isLead octet then .ofPair trail (text? Index.jis0208 octet trail)
      else .fault 0

def decode (octets : Bytes) : List Char :=
  decodeFrom front 0 octets

def encodeChar? (c : Char) : Option Bytes :=
  match (asciiOctet? c).or (romanOctet? c) with
  | some octet => some [octet]
  | none =>
      if isKatakana c then some [0x8E, katakanaOctet c]
      else (Index.jis0208.pointer? (jisWritten c)).map grid.octets

end EucJp

/-! ### ISO-2022-JP -/

/-- The sets that an escape sequence chooses between. -/
inductive JisSet where
  | ascii
  | roman
  | katakana
  | wide
  deriving DecidableEq, Repr

namespace JisSet

/-- The set that the two octets after an escape choose. -/
def ofEscape? : UInt8 → UInt8 → Option JisSet
  | 0x28, 0x42 => some .ascii
  | 0x28, 0x4A => some .roman
  | 0x28, 0x49 => some .katakana
  | 0x24, 0x40 => some .wide
  | 0x24, 0x42 => some .wide
  | _, _ => none

def escape : JisSet → Bytes
  | .ascii => [0x1B, 0x28, 0x42]
  | .roman => [0x1B, 0x28, 0x4A]
  | .katakana => [0x1B, 0x28, 0x49]
  | .wide => [0x1B, 0x24, 0x42]

/-- Octets that would choose another set and stand for no character. -/
def isShift (n : Nat) : Bool :=
  n = 0x0E || n = 0x0F || n = 0x1B

/-- The character of one octet in a set; an octet of the wide set stands for none alone. -/
def decodeOctet (set : JisSet) (octet : UInt8) : Char :=
  let n := octet.toNat
  match set with
  | .ascii => if n < 0x80 && !isShift n then Char.ofNat n else '\uFFFD'
  | .roman =>
      if n = 0x5C then '¥'
      else if n = 0x7E then '‾'
      else if n < 0x80 && !isShift n then Char.ofNat n
      else '\uFFFD'
  | .katakana => if 0x21 ≤ n && n ≤ 0x5F then Char.ofNat (0xFF61 + (n - 0x21)) else '\uFFFD'
  | .wide => '\uFFFD'

def grid : Grid :=
  ⟨[(0x21, 94)], [(0x21, 94)]⟩

def isWideOctet (octet : UInt8) : Bool :=
  0x21 ≤ octet.toNat && octet.toNat ≤ 0x7E

/-- The character of two octets in the wide set. -/
def decodePair (lead trail : UInt8) : Char :=
  ((grid.pointer? lead trail).bind Index.jis0208.char?).getD '\uFFFD'

/-- Octets of a charset that changes its set by escape sequences. A sequence that chooses no set is
a fault at its first octet; one that follows another at once is a fault as well. -/
def decode (set : JisSet) (chosen : Bool) : Bytes → List Char
  | [] => []
  | [octet] => [set.decodeOctet octet]
  | octet :: next :: rest =>
      if octet = 0x1B then
        match rest with
        | [] => '\uFFFD' :: decode set false [next]
        | last :: after =>
            match ofEscape? next last with
            | some other => (if chosen then ['\uFFFD'] else []) ++ decode other true after
            | none => '\uFFFD' :: decode set false (next :: last :: after)
      else if set = .wide && isWideOctet octet && next != 0x1B then
        decodePair octet next :: decode set false rest
      else set.decodeOctet octet :: decode set false (next :: rest)
termination_by octets => octets.length

def asciiOctets? (c : Char) : Option Bytes :=
  if c.toNat < 0x80 && !isShift c.toNat then some [UInt8.ofNat c.toNat] else none

/-- A character in a set. Half-width katakana have a set of their own that is only read, and are
written as the same letters of the wide one. -/
def octets? : JisSet → Char → Option Bytes
  | .ascii, c => asciiOctets? c
  | .roman, c =>
      match romanOctet? c with
      | some octet => some [octet]
      | none => if c = '\\' ∨ c = '~' then none else asciiOctets? c
  | .katakana, _ => none
  | .wide, c =>
      let letter := if isKatakana c then wideKatakana.getD (c.toNat - 0xFF61) c else c
      (Index.jis0208.pointer? (jisWritten letter)).map grid.octets

/-- The first set that has a character, and its octets there. -/
def first? (c : Char) : Option (JisSet × Bytes) :=
  [ascii, roman, wide].findSome? fun set => (set.octets? c).map (fun octets => (set, octets))

/-- A character that no set has, as its reference shows it: one that would choose another set is
told as U+FFFD. -/
def missing (c : Char) : Char :=
  if isShift c.toNat then '\uFFFD' else c

/-- A character after others that were written in a set: the set that it leaves, and its octets. A
set is left only for a character that it lacks, and the wide one for a reference. -/
def write (set : JisSet) (c : Char) : JisSet × Bytes :=
  match set.octets? c, first? c with
  | some octets, _ => (set, octets)
  | none, some (other, octets) => (other, other.escape ++ octets)
  | none, none =>
      let shown := Utf8.encode (reference (missing c))
      if set = .wide then (.ascii, escape .ascii ++ shown) else (set, shown)

/-- A text after others that were written in a set. At its end the first set is chosen again. -/
def encode : JisSet → List Char → Bytes
  | set, [] => if set = .ascii then [] else escape .ascii
  | set, c :: rest => (set.write c).2 ++ encode (set.write c).1 rest

end JisSet

end Charset

end Stencil
