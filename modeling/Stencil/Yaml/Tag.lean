import Stencil.Text.Hex
import Stencil.Yaml.Cursor

/-!
Names and tags: anchors and aliases, tags in their three forms, and the directives at the head of a
document that say what a tag's handle stands for.
-/

namespace Stencil.Yaml.Scan

/-! ### Anchors and aliases -/

def endsName (c : Char) : Bool :=
  c = '?' || c = ':' || c = ',' || c = ']' || c = '\x7d' || c = '%' || c = '@' || c = '\x60'

def name : Scan (List Char) := do
  skip
  let text ← takeWhile isWord
  let next ← peek
  if text.isEmpty || !(isGap next || next.any endsName) then failure
  return text

/-! ### Tags -/

def isTagMark (c : Char) : Bool :=
  isWord c || c = ';' || c = '/' || c = '?' || c = ':' || c = '@' || c = '&' || c = '=' || c = '+'
    || c = '$' || c = '.' || c = '%' || c = '!' || c = '~' || c = '*' || c = '\x27' || c = '('
    || c = ')'

def escapedOctet : Scan Nat := do
  match (← get).input with
  | '%' :: high :: low :: _ =>
      match Hex.value? high, Hex.value? low with
      | some high, some low =>
          skipMany 3
          return high * 16 + low
      | _, _ => failure
  | _ => failure

def laterOctets : Nat → Nat → Scan Nat
  | 0, value => return value
  | count + 1, value => do
      let octet ← escapedOctet
      if octet / 64 != 2 then failure
      laterOctets count (value * 64 + octet % 64)

/-- A character as its escaped octets, as many as the first one announces. -/
def escapedChar : Scan Char := do
  let first ← escapedOctet
  if first < 0x80 then return Char.ofNat first
  else if 0xC0 ≤ first && first < 0xE0 then return Char.ofNat (← laterOctets 1 (first % 32))
  else if 0xE0 ≤ first && first < 0xF0 then return Char.ofNat (← laterOctets 2 (first % 16))
  else if 0xF0 ≤ first && first < 0xF8 then return Char.ofNat (← laterOctets 3 (first % 8))
  else failure

def tagLoop (verbatim : Bool) : Nat → List Char → Scan (List Char)
  | 0, held => return held.reverse
  | fuel + 1, held => do
      match ← peek with
      | some c =>
          if c = '%' then tagLoop verbatim fuel ((← escapedChar) :: held)
          else if isTagMark c || (verbatim && (c = ',' || c = '[' || c = ']')) then
            skip
            tagLoop verbatim fuel (c :: held)
          else return held.reverse
      | none => return held.reverse

/-- The characters of a tag. Only in a verbatim one may flow marks stand. -/
def tagText (verbatim : Bool) : Scan (List Char) := do
  tagLoop verbatim (← turns) []

/-- An exclamation mark, a word, and perhaps another exclamation mark. -/
def handle : Scan (List Char) := do
  if (← peek) != some '!' then failure
  skip
  let word ← takeWhile isWord
  if (← peek) = some '!' then
    skip
    return '!' :: word ++ ['!']
  else return '!' :: word

/-- A tag. One without a handle of its own has the handle `!`, and a lone mark is a suffix without a
handle, as is what a verbatim tag holds. -/
def tag : Scan Token := do
  let flow ← inFlow
  let token ← do
    if (← look 1) = some '<' then
      skipMany 2
      let suffix ← tagText true
      if suffix.isEmpty || (← peek) != some '>' then failure
      skip
      pure (Token.tag [] suffix)
    else
      let handle ← handle
      let suffix ← tagText false
      if 2 ≤ handle.length && handle.getLast? = some '!' then
        if suffix.isEmpty then failure
        pure (Token.tag handle suffix)
      else
        let suffix := handle.tail ++ suffix
        pure (if suffix.isEmpty then Token.tag [] handle else Token.tag ['!'] suffix)
  let next ← peek
  if !(isGap next || (flow && next = some ',')) then failure
  return token

/-! ### Directives -/

def skipBlanks : Scan Unit := do
  let _ ← takeWhile isBlank

def restOfLine : Scan Unit := do
  skipBlanks
  if (← peek) = some '#' then
    let _ ← takeWhile (fun c => !isBreak c)
  match ← peek with
  | none => return ()
  | some c => if isBreak c then skipLine else failure

def number : Scan Nat := do
  let digits ← takeWhile Char.isDigit
  if digits.isEmpty || 9 < digits.length then failure
  return digits.foldl (fun n c => n * 10 + (c.toNat - 48)) 0

/-- A directive: the version of the language, or what a handle stands for. -/
def directive : Scan Token := do
  skip
  let word ← takeWhile isWord
  if word.isEmpty || !isGap (← peek) then failure
  skipBlanks
  let token ← do
    if word = ['Y', 'A', 'M', 'L'] then
      let major ← number
      if (← peek) != some '.' then failure
      skip
      pure (Token.version major (← number))
    else if word = ['T', 'A', 'G'] then
      let handle ← handle
      if 2 ≤ handle.length && handle.getLast? != some '!' then failure
      if !(← peek).any isBlank then failure
      skipBlanks
      let lead ← tagText true
      if lead.isEmpty || !isGap (← peek) then failure
      pure (Token.tagDirective handle lead)
    else failure
  restOfLine
  return token

end Stencil.Yaml.Scan
