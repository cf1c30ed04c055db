import Stencil.Charset.Index.Simplified
import Stencil.Charset.Paired

/-!
GB 18030 and GBK. Both are read in the same way: characters have one octet, two, or four with a
digit in every second place. GBK writes none with four octets.
-/

namespace Stencil

namespace Charset

namespace Gb18030

def grid : Grid :=
  ⟨[(0x81, 126)], [(0x40, 63), (0x80, 127)]⟩

/-! ### Four octets -/

def isLead (octet : UInt8) : Bool :=
  0x81 ≤ octet.toNat && octet.toNat ≤ 0xFE

def isDigit (octet : UInt8) : Bool :=
  0x30 ≤ octet.toNat && octet.toNat ≤ 0x39

def fourPointer (first second third fourth : UInt8) : Nat :=
  (((first.toNat - 0x81) * 10 + (second.toNat - 0x30)) * 126 + (third.toNat - 0x81)) * 10 +
    (fourth.toNat - 0x30)

def fourOctets (pointer : Nat) : Bytes :=
  [UInt8.ofNat (0x81 + pointer / 12600), UInt8.ofNat (0x30 + pointer / 1260 % 10),
    UInt8.ofNat (0x81 + pointer / 10 % 126), UInt8.ofNat (0x30 + pointer % 10)]

/-- The character of a pointer. One pointer in the middle of a run has a character for private use. -/
def fourChar? (pointer : Nat) : Option Char :=
  if (39420 ≤ pointer ∧ pointer < 189000) ∨ 1237576 ≤ pointer then none
  else if pointer = 7457 then some '\uE7C7'
  else
    (Index.gb18030Runs.reverse.find? (fun run => run.1 ≤ pointer)).map
      (fun run => Char.ofNat (run.2 + (pointer - run.1)))

def fourPointer? (c : Char) : Option Nat :=
  if c = '\uE7C7' then some 7457
  else
    (Index.gb18030Runs.reverse.find? (fun run => run.2 ≤ c.toNat)).map
      (fun run => run.1 + (c.toNat - run.2))

/-! ### Reading -/

/-- A digit behind a first octet begins the rest of four. Where one of four is not in its place,
only the first one is at fault, and the others are read again. -/
def frontFour (first second : UInt8) (rest : Bytes) : Front :=
  match rest with
  | [] => .fault 1
  | [third] => if isLead third then .fault 2 else .fault 0
  | third :: fourth :: _ =>
      if isLead third && isDigit fourth then
        match fourChar? (fourPointer first second third fourth) with
        | some c => ⟨[c], 3⟩
        | none => .fault 3
      else .fault 0

def front (octet : UInt8) (rest : Bytes) : Front :=
  if octet.toNat < 0x80 then ⟨[Char.ofNat octet.toNat], 0⟩
  else if octet = 0x80 then ⟨['€'], 0⟩
  else
    match isLead octet, rest with
    | true, second :: after =>
        if isDigit second then frontFour octet second after
        else
          .ofPair second ((grid.pointer? octet second).bind fun pointer =>
            (Index.gb18030.char? pointer).map (fun c => [c]))
    | _, _ => .fault 0

def decode (octets : Bytes) : List Char :=
  decodeFrom front 0 octets

/-! ### Writing -/

/-- Characters for private use that stood where the standard has other characters since. They are
still written there. -/
def former : List (Char × Bytes) :=
  [('\uE78D', [0xA6, 0xD9]), ('\uE78E', [0xA6, 0xDA]), ('\uE78F', [0xA6, 0xDB]),
    ('\uE790', [0xA6, 0xDC]), ('\uE791', [0xA6, 0xDD]), ('\uE792', [0xA6, 0xDE]),
    ('\uE793', [0xA6, 0xDF]), ('\uE794', [0xA6, 0xEC]), ('\uE795', [0xA6, 0xED]),
    ('\uE796', [0xA6, 0xF3]), ('\uE81E', [0xFE, 0x59]), ('\uE826', [0xFE, 0x61]),
    ('\uE82B', [0xFE, 0x66]), ('\uE82C', [0xFE, 0x67]), ('\uE832', [0xFE, 0x6D]),
    ('\uE843', [0xFE, 0x7E]), ('\uE854', [0xFE, 0x90]), ('\uE864', [0xFE, 0xA0])]

/-- What both charsets write with one octet or two. -/
def pair? (c : Char) : Option Bytes :=
  match former.lookup c with
  | some octets => some octets
  | none => (Index.gb18030.pointer? c).map grid.octets

def encodeChar? (c : Char) : Option Bytes :=
  if c.toNat < 0x80 then some [UInt8.ofNat c.toNat]
  else if c = '\uE5E5' then none
  else
    match pair? c with
    | some octets => some octets
    | none => (fourPointer? c).map fourOctets

/-- GBK has a single octet for the euro sign. -/
def encodeGbk? (c : Char) : Option Bytes :=
  if c.toNat < 0x80 then some [UInt8.ofNat c.toNat]
  else if c = '\uE5E5' then none
  else if c = '€' then some [0x80]
  else pair? c

end Gb18030

end Charset

end Stencil
