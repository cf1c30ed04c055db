import Stencil.Files.Url.Percent
import Stencil.Files.Url.Punycode
import Stencil.Text.Blank
import Stencil.Text.Case

/-!
Hosts. On the web a host is a number of four or of sixteen octets or a name, and is brought into one
written form; elsewhere it is any text without delimiters.
-/

namespace Stencil.Host

/-! ### Four octets -/

/-- A part of an address of four octets, in the base that its start announces. -/
def part? (text : List Char) : Option Nat :=
  let read (base : Nat) (digits : List Char) : Option Nat :=
    digits.foldlM (fun value c => do
      let digit ← Hex.value? c
      if digit < base then some (value * base + digit) else none) 0
  match text with
  | [] => none
  | '0' :: 'x' :: digits => read 16 digits
  | '0' :: 'X' :: digits => read 16 digits
  | '0' :: c :: digits => read 8 (c :: digits)
  | digits => read 10 digits

/-- Whether the last label of a name, one without anything in it left out, is a number. -/
def endsInNumber (name : List Char) : Bool :=
  let last :=
    match (Text.splitOn '.' name).reverse with
    | [] :: before :: _ => before
    | last :: _ => last
    | [] => []
  (!last.isEmpty && last.all Char.isDigit) || (part? last).isSome

def octets (value : Nat) : List Nat :=
  [value / 0x1000000, value / 0x10000 % 0x100, value / 0x100 % 0x100, value % 0x100]

def dotted (value : Nat) : List Char :=
  List.intercalate ['.'] ((octets value).map (Nat.toDigits 10))

/-- An address of four octets; the last part stands for all octets that are left. -/
def ofDotted? (name : List Char) : Option Nat := do
  let labels := Text.splitOn '.' name
  let labels := if labels.getLast? = some [] then labels.dropLast else labels
  let parts ← labels.mapM part?
  let last ← parts.getLast?
  let leading := parts.dropLast
  let left := Nat.pow 0x100 (4 - leading.length)
  if 3 < leading.length || leading.any (fun part => 255 < part) || left ≤ last then none
  else some (leading.foldl (fun value part => value * 0x100 + part) 0 * left + last)

/-! ### Sixteen octets -/

def group? (text : List Char) : Option Nat :=
  if text.isEmpty || 4 < text.length then none
  else text.foldlM (fun value c => do return value * 16 + (← Hex.value? c)) 0

/-- Four octets without leading zeros, as two groups. -/
def dottedGroups? (text : List Char) : Option (List Nat) := do
  let labels := Text.splitOn '.' text
  if labels.any (fun label => label.head? = some '0' && 1 < label.length)
      || !labels.all (fun label => !label.isEmpty && label.all Char.isDigit) then
    none
  let parts ← labels.mapM part?
  match parts with
  | [a, b, c, d] =>
      if parts.any (fun part => 255 < part) then none else some [a * 0x100 + b, c * 0x100 + d]
  | _ => none

/-- Groups between colons. The last may be four octets where nothing follows it. -/
def groups? (ends : Bool) (text : List Char) : Option (List Nat) :=
  if text.isEmpty then some []
  else
    let pieces := Text.splitOn ':' text
    match pieces.getLast? with
    | some last =>
        if ends && last.contains '.' then do
          return (← pieces.dropLast.mapM group?) ++ (← dottedGroups? last)
        else pieces.mapM group?
    | none => none

/-- The text before and after the first two colons in a row. -/
def splitGap : List Char → Option (List Char × List Char)
  | ':' :: ':' :: rest => some ([], rest)
  | c :: rest => (splitGap rest).map (fun (before, after) => (c :: before, after))
  | [] => none

/-- The eight groups of an address; a gap stands for all groups that are not written. -/
def eightGroups? (text : List Char) : Option (List Nat) := do
  match splitGap text with
  | none =>
      let groups ← groups? true text
      if groups.length = 8 then some groups else none
  | some (before, after) =>
      let first ← groups? false before
      let last ← groups? true after
      if first.length + last.length ≤ 7 then
        some (first ++ List.replicate (8 - first.length - last.length) 0 ++ last)
      else none

def zeroRun (groups : List Nat) : Nat :=
  (groups.takeWhile (fun group => group = 0)).length

/-- The place and the length of the first longest run of zeros. -/
def longestRun (groups : List Nat) : Nat × Nat :=
  (List.range groups.length).foldl
    (fun best place =>
      let length := zeroRun (groups.drop place)
      if best.2 < length then (place, length) else best)
    (0, 0)

def showGroups (groups : List Nat) : List Char :=
  List.intercalate [':'] (groups.map (Nat.toDigits 16))

/-- An address of eight groups in writing: a gap takes the place of the longest run of zeros. -/
def bracketed (groups : List Nat) : List Char :=
  let (place, length) := longestRun groups
  let inner :=
    if length < 2 then showGroups groups
    else showGroups (groups.take place) ++ [':', ':'] ++ showGroups (groups.drop (place + length))
  '[' :: inner ++ [']']

/-! ### Names -/

/-- A character of a name as the written form has it; some are left out. -/
def normalized (c : Char) : List Char :=
  let n := c.toNat
  if n = 0xAD || n = 0x200B || n = 0x2060 || n = 0xFEFF || (0xFE00 ≤ n && n ≤ 0xFE0F) then []
  else if n = 0x3002 || n = 0xFF0E || n = 0xFF61 then ['.']
  else if 0xFF01 ≤ n && n ≤ 0xFF5E then [(Char.ofNat (n - 0xFEE0)).toLower]
  else if n = 0x1E9E then ['s', 's']
  else Text.small c

/-- Characters that delimit the parts of an address. -/
def isDelimiter (c : Char) : Bool :=
  c = ' ' || c = '#' || c = '/' || c = ':' || c = '<' || c = '>' || c = '?' || c = '@' || c = '['
    || c = '\\' || c = ']' || c = '^' || c = '|'

def isForbidden (c : Char) : Bool :=
  c.toNat < 0x20 || c.toNat = 0x7F || c = '%' || c = '\uFFFD' || isDelimiter c

def label (text : List Char) : List Char :=
  if text.all (fun c => c.toNat < 0x80) then text else "xn--".toList ++ Punycode.encode text

def name? (text : List Char) : Option (List Char) :=
  let decoded := Utf8.decodeLossy (Percent.decode text)
  let name := decoded.flatMap normalized
  if name.isEmpty || name.any isForbidden then none
  else some (List.intercalate ['.'] ((Text.splitOn '.' name).map label))

/-! ### Hosts -/

def ofBrackets? (text : List Char) : Option (List Char) :=
  match text.reverse with
  | ']' :: inner => bracketed <$> eightGroups? inner.reverse
  | _ => none

def ofWeb? (text : List Char) : Option (List Char) :=
  match text with
  | '[' :: inner => ofBrackets? inner
  | _ => do
      let name ← name? text
      if endsInNumber name then dotted <$> ofDotted? name else some name

def ofOther? (text : List Char) : Option (List Char) :=
  match text with
  | '[' :: inner => ofBrackets? inner
  | _ =>
      if text.any (fun c => c.toNat = 0 || isDelimiter c) then none
      else some (Percent.encode Percent.inHost text)

end Stencil.Host
