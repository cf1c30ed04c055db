import Stencil.Json.Fault
import Stencil.Text.Hex

/-!
Reading JSON. A reader takes what it wants from the front of a text and gives back the rest, or a
fault with its place. Every loop takes at least one character a turn, so its fuel is the length of
what is left.
-/

namespace Stencil.Json

abbrev Reader (α : Type) := List Char → Except Fault (α × List Char)

namespace Reader

def isSpace (c : Char) : Bool :=
  c = ' ' || c = '\n' || c = '\t' || c = '\r'

def skipSpace (input : List Char) : List Char :=
  input.dropWhile isSpace

/-! ### Strings -/

/-- Four hexadecimal digits. A text that ends within four octets is unfinished, else the four octets
count as taken. -/
def hexEscape (input : List Char) : Except Fault (Nat × List Char) :=
  match input with
  | a :: b :: c :: d :: rest =>
      match Hex.value? a, Hex.value? b, Hex.value? c, Hex.value? d with
      | some a, some b, some c, some d => .ok (a * 0x1000 + b * 0x100 + c * 0x10 + d, rest)
      | _, _, _, _ => .error ⟨.badEscape, Utf8.size input - 4⟩
  | _ =>
      if 4 ≤ Utf8.size input then .error ⟨.badEscape, Utf8.size input - 4⟩
      else .error ⟨.endInString, 0⟩

/-- The rest of an escape after the first half of a surrogate pair. -/
def secondHalf (high : Nat) (input : List Char) : Except Fault (Char × List Char) :=
  match input with
  | [] => .error (.here .endInString [])
  | '\\' :: [] => .error (.here .endInString [])
  | '\\' :: 'u' :: rest =>
      match hexEscape rest with
      | .error fault => .error fault
      | .ok (low, rest) =>
          if 0xDC00 ≤ low ∧ low ≤ 0xDFFF then
            .ok (Char.ofNat (0x10000 + (high - 0xD800) * 0x400 + (low - 0xDC00)), rest)
          else .error (.here .loneHalf rest)
  | '\\' :: c :: rest => .error ⟨.unfinishedPair, Utf8.size (c :: rest) - 1⟩
  | c :: rest => .error ⟨.unfinishedPair, Utf8.size (c :: rest) - 1⟩

/-- The character of an escape, after its backslash. -/
def escaped (input : List Char) : Except Fault (Char × List Char) :=
  match input with
  | [] => .error (.here .endInString [])
  | '\x22' :: rest => .ok ('\x22', rest)
  | '\\' :: rest => .ok ('\\', rest)
  | '/' :: rest => .ok ('/', rest)
  | 'b' :: rest => .ok ('\x08', rest)
  | 'f' :: rest => .ok ('\x0c', rest)
  | 'n' :: rest => .ok ('\n', rest)
  | 'r' :: rest => .ok ('\r', rest)
  | 't' :: rest => .ok ('\t', rest)
  | 'u' :: rest =>
      match hexEscape rest with
      | .error fault => .error fault
      | .ok (unit, rest) =>
          if 0xDC00 ≤ unit ∧ unit ≤ 0xDFFF then .error (.here .loneHalf rest)
          else if 0xD800 ≤ unit ∧ unit ≤ 0xDBFF then secondHalf unit rest
          else .ok (Char.ofNat unit, rest)
  | c :: rest => .error ⟨.badEscape, Utf8.size (c :: rest) - 1⟩

/-- Characters up to the closing quote, in front of which `held` were read, the last one first. -/
def stringLoop : Nat → List Char → Reader String
  | 0, _, input => .error (.here .endInString input)
  | fuel + 1, held, input =>
      match input with
      | [] => .error (.here .endInString [])
      | '\x22' :: rest => .ok (String.ofList held.reverse, rest)
      | '\\' :: rest =>
          match escaped rest with
          | .error fault => .error fault
          | .ok (c, rest) => stringLoop fuel (c :: held) rest
      | c :: rest =>
          if c.toNat < 0x20 then .error (.here .controlCharacter rest)
          else stringLoop fuel (c :: held) rest

def stringBody : Reader String := fun input =>
  stringLoop (input.length + 1) [] input

/-! ### Numbers -/

def isDigit (c : Char) : Bool :=
  48 ≤ c.toNat && c.toNat ≤ 57

def digitValue (c : Char) : Nat :=
  c.toNat - 48

def maxUnsigned : Nat := Nat.pow 2 64 - 1

/-- Digits as far as the number they spell fits 64 bits: that number and the digits after them. -/
def takeDigits (value : Nat) : List Char → Nat × List Char
  | [] => (value, [])
  | c :: rest =>
      if isDigit c && value * 10 + digitValue c ≤ maxUnsigned then
        takeDigits (value * 10 + digitValue c) rest
      else (value, c :: rest)

/-- `significand * 10 ^ exponent` in floating-point arithmetic: one conversion and one
multiplication or division by a power of ten; a second division where the power is out of range. -/
def scale (significand : Nat) (exponent : Int) : Option Float :=
  let value := Float.ofScientific significand false 0
  let power (k : Nat) : Float := Float.ofScientific 1 false k
  if 0 ≤ exponent then
    if exponent ≤ 308 then
      let product := value * power exponent.toNat
      if product.isInf then none else some product
    else if significand = 0 then some value
    else none
  else if -308 ≤ exponent then some (value / power (-exponent).toNat)
  else if -616 ≤ exponent then some (value / 1e308 / power (-exponent - 308).toNat)
  else some 0.0

def signed (positive : Bool) (value : Float) : Float :=
  if positive then value else -value

def scaled (positive : Bool) (significand : Nat) (exponent : Int) : Reader Number := fun rest =>
  match scale significand exponent with
  | some value => .ok (.real (signed positive value), rest)
  | none => .error (.here .numberTooLarge rest)

def maxExponent : Nat := Nat.pow 2 31 - 1

/-- The digits of an exponent as far as they fit 31 bits. -/
def takeExponent (value : Nat) : List Char → Nat × List Char
  | [] => (value, [])
  | c :: rest =>
      if isDigit c && value * 10 + digitValue c ≤ maxExponent then
        takeExponent (value * 10 + digitValue c) rest
      else (value, c :: rest)

def exponentPart (positive : Bool) (significand : Nat) (exponent : Int) : Reader Number :=
  fun input =>
    let (up, digits) :=
      match input with
      | '+' :: rest => (true, rest)
      | '-' :: rest => (false, rest)
      | _ => (true, input)
    match digits with
    | [] => .error (.here .endInValue [])
    | c :: rest =>
        if isDigit c then
          let (power, rest) := takeExponent 0 digits
          let total := if up then exponent + power else exponent - power
          match rest with
          | d :: tail =>
              if isDigit d then
                if up && significand != 0 then .error (.here .numberTooLarge tail)
                else .ok (.real (signed positive 0.0), tail.dropWhile isDigit)
              else scaled positive significand total rest
          | [] => scaled positive significand total rest
        else .error ⟨.badNumber, Utf8.size (c :: rest) - 1⟩

def fractionPart (positive : Bool) (significand : Nat) (exponent : Int) : Reader Number :=
  fun input =>
    match input with
    | [] => .error (.next .endInValue [])
    | c :: _ =>
        if isDigit c then
          let (value, rest) := takeDigits significand input
          let exponent := exponent - (input.length - rest.length : Nat)
          match rest.dropWhile isDigit with
          | 'e' :: rest => exponentPart positive value exponent rest
          | 'E' :: rest => exponentPart positive value exponent rest
          | rest => scaled positive value exponent rest
        else .error (.next .badNumber input)

def numberTail (positive : Bool) (significand : Nat) : Reader Number := fun input =>
  let rest := input.dropWhile isDigit
  let extra : Int := (input.length - rest.length : Nat)
  match rest with
  | '.' :: rest => fractionPart positive significand extra rest
  | 'e' :: rest => exponentPart positive significand extra rest
  | 'E' :: rest => exponentPart positive significand extra rest
  | _ =>
      if 0 < extra then scaled positive significand extra rest
      else if positive then .ok (.integer significand, rest)
      else if significand = 0 || Nat.pow 2 63 < significand then
        .ok (.real (-(Float.ofScientific significand false 0)), rest)
      else .ok (.integer (-(significand : Int)), rest)

def numberBody (positive : Bool) : Reader Number := fun input =>
  match input with
  | [] => .error (.here .endInValue [])
  | '0' :: rest =>
      match rest with
      | c :: _ => if isDigit c then .error (.next .badNumber rest) else numberTail positive 0 rest
      | [] => numberTail positive 0 rest
  | c :: rest =>
      if isDigit c then
        let (value, rest) := takeDigits 0 input
        numberTail positive value rest
      else .error ⟨.badNumber, Utf8.size (c :: rest) - 1⟩

/-! ### Values -/

def ident : List Char → List Char → Except Fault (List Char)
  | [], input => .ok input
  | _ :: _, [] => .error (.here .endInValue [])
  | wanted :: letters, c :: rest =>
      if c = wanted then ident letters rest else .error (.here .wantIdent rest)

def literal {α : Type} (letters : String) (value : α) : Reader α := fun input =>
  match ident letters.toList input with
  | .ok rest => .ok (value, rest)
  | .error fault => .error fault

def colon (input : List Char) : Except Fault (List Char) :=
  match skipSpace input with
  | ':' :: rest => .ok rest
  | [] => .error (.next .endInObject [])
  | rest => .error (.next .wantColon rest)

/-- Where the next item of a list starts; nothing when the list ends. -/
def nextItem (first : Bool) (input : List Char) : Except Fault (Option (List Char)) :=
  match skipSpace input with
  | [] => .error (.next .endInList [])
  | ']' :: _ => .ok none
  | c :: rest =>
      if first then .ok (some (c :: rest))
      else if c = ',' then
        match skipSpace rest with
        | ']' :: tail => .error (.next .trailingComma (']' :: tail))
        | [] => .error (.next .endInValue [])
        | rest => .ok (some rest)
      else .error (.next .wantCommaInList (c :: rest))

/-- The name of the next member, read up to its closing quote; nothing when the object ends. -/
def nextName (first : Bool) (input : List Char) : Except Fault (Option (String × List Char)) :=
  match skipSpace input with
  | [] => .error (.next .endInObject [])
  | '\x7d' :: _ => .ok none
  | c :: rest =>
      let start : Except Fault (List Char) :=
        if first then
          if c = '\x22' then .ok rest else .error (.next .keyNotString (c :: rest))
        else if c = ',' then
          match skipSpace rest with
          | '\x22' :: rest => .ok rest
          | '\x7d' :: tail => .error (.next .trailingComma ('\x7d' :: tail))
          | [] => .error (.next .endInValue [])
          | rest => .error (.next .keyNotString rest)
        else .error (.next .wantCommaInObject (c :: rest))
      match start with
      | .error fault => .error fault
      | .ok rest =>
          match stringBody rest with
          | .error fault => .error fault
          | .ok named => .ok (some named)

/-- The closing bracket of a list that was read to its end. -/
def closeList (input : List Char) : Except Fault (List Char) :=
  match skipSpace input with
  | ']' :: rest => .ok rest
  | ',' :: rest =>
      match skipSpace rest with
      | ']' :: tail => .error (.next .trailingComma (']' :: tail))
      | rest => .error (.next .trailingCharacters rest)
  | [] => .error (.next .endInList [])
  | rest => .error (.next .trailingCharacters rest)

/-- The closing brace of an object that was read to its end. -/
def closeObject (input : List Char) : Except Fault (List Char) :=
  match skipSpace input with
  | '\x7d' :: rest => .ok rest
  | ',' :: rest => .error (.next .trailingComma (',' :: rest))
  | [] => .error (.next .endInObject [])
  | rest => .error (.next .trailingCharacters rest)

mutual

/-- A value of at most `depth` nested lists and objects. -/
def valueLoop : Nat → Nat → Reader Json
  | 0, _, input => .error (.next .wantValue input)
  | fuel + 1, depth, input =>
      match skipSpace input with
      | [] => .error (.next .endInValue [])
      | 'n' :: rest => literal "ull" Json.null rest
      | 't' :: rest => literal "rue" (Json.bool true) rest
      | 'f' :: rest => literal "alse" (Json.bool false) rest
      | '-' :: rest =>
          match numberBody false rest with
          | .ok (value, rest) => .ok (.number value, rest)
          | .error fault => .error fault
      | '\x22' :: rest =>
          match stringBody rest with
          | .ok (text, rest) => .ok (.string text, rest)
          | .error fault => .error fault
      | '[' :: rest =>
          if depth ≤ 1 then .error (.next .tooDeep ('[' :: rest))
          else
            match itemLoop fuel (depth - 1) true [] rest with
            | .error fault => .error fault
            | .ok (items, rest) =>
                match closeList rest with
                | .ok rest => .ok (.array items, rest)
                | .error fault => .error fault
      | '\x7b' :: rest =>
          if depth ≤ 1 then .error (.next .tooDeep ('\x7b' :: rest))
          else
            match memberLoop fuel (depth - 1) true [] rest with
            | .error fault => .error fault
            | .ok (members, rest) =>
                match closeObject rest with
                | .ok rest => .ok (.object members, rest)
                | .error fault => .error fault
      | c :: rest =>
          if isDigit c then
            match numberBody true (c :: rest) with
            | .ok (value, rest) => .ok (.number value, rest)
            | .error fault => .error fault
          else .error (.next .wantValue (c :: rest))

/-- Items up to the closing bracket, after those `held`, the last one first. -/
def itemLoop : Nat → Nat → Bool → List Json → Reader (List Json)
  | 0, _, _, _, input => .error (.next .wantValue input)
  | fuel + 1, depth, first, held, input =>
      match nextItem first input with
      | .error fault => .error fault
      | .ok none => .ok (held.reverse, input)
      | .ok (some rest) =>
          match valueLoop fuel depth rest with
          | .error fault => .error fault
          | .ok (item, rest) => itemLoop fuel depth false (item :: held) rest

/-- Members up to the closing brace, put in their places among those `held`. -/
def memberLoop : Nat → Nat → Bool → List (String × Json) → Reader (List (String × Json))
  | 0, _, _, _, input => .error (.next .wantValue input)
  | fuel + 1, depth, first, held, input =>
      match nextName first input with
      | .error fault => .error fault
      | .ok none => .ok (held, input)
      | .ok (some (name, rest)) =>
          match colon rest with
          | .error fault => .error fault
          | .ok rest =>
              match valueLoop fuel depth rest with
              | .error fault => .error fault
              | .ok (value, rest) => memberLoop fuel depth false (insert name value held) rest

end

def depthLimit : Nat := 128

def fuelFor (input : List Char) : Nat :=
  2 * input.length + 2

def value : Reader Json := fun input =>
  valueLoop (fuelFor input) depthLimit input

/-- Nothing but spaces may follow what `reader` takes. -/
def whole {α : Type} (reader : Reader α) (input : List Char) : Except Fault α :=
  match reader input with
  | .error fault => .error fault
  | .ok (value, rest) =>
      match skipSpace rest with
      | [] => .ok value
      | rest => .error (.next .trailingCharacters rest)

/-! ### Values of one kind -/

/-- The fault of a value that is not of the kind `wanted`. Scalars are read before they are
refused, lists and objects are refused at their bracket. -/
def refuse (wanted : String) (input : List Char) : Fault :=
  let settle (found : Except Fault (Found × List Char)) : Fault :=
    match found with
    | .error fault => fault
    | .ok (found, rest) => .here (.wrongType found wanted) rest
  let number (read : Except Fault (Number × List Char)) : Fault :=
    settle (read.map (fun (value, rest) => (Found.number value, rest)))
  match skipSpace input with
  | [] => .next .endInValue []
  | 'n' :: rest => settle (literal "ull" Found.null rest)
  | 't' :: rest => settle (literal "rue" (Found.bool true) rest)
  | 'f' :: rest => settle (literal "alse" (Found.bool false) rest)
  | '-' :: rest => number (numberBody false rest)
  | '\x22' :: rest =>
      settle ((stringBody rest).map (fun (text, rest) => (Found.string text, rest)))
  | '[' :: rest => .here (.wrongType .sequence wanted) ('[' :: rest)
  | '\x7b' :: rest => .here (.wrongType .map wanted) ('\x7b' :: rest)
  | c :: rest =>
      if isDigit c then number (numberBody true (c :: rest)) else .next .wantValue (c :: rest)

def string : Reader String := fun input =>
  match skipSpace input with
  | '\x22' :: rest => stringBody rest
  | _ => .error (refuse "a string" input)

def boolean : Reader Bool := fun input =>
  match skipSpace input with
  | 't' :: rest => literal "rue" true rest
  | 'f' :: rest => literal "alse" false rest
  | _ => .error (refuse "a boolean" input)

/-- `null`, or what `reader` takes. -/
def optional {α : Type} (reader : Reader α) : Reader (Option α) := fun input =>
  match skipSpace input with
  | [] => .error (.next .endInValue [])
  | 'n' :: rest => literal "ull" none rest
  | rest =>
      match reader rest with
      | .ok (value, rest) => .ok (some value, rest)
      | .error fault => .error fault

def listLoop {α : Type} (reader : Reader α) : Nat → Bool → List α → Reader (List α)
  | 0, _, _, input => .error (.next .wantValue input)
  | fuel + 1, first, held, input =>
      match nextItem first input with
      | .error fault => .error fault
      | .ok none => .ok (held.reverse, input)
      | .ok (some rest) =>
          match reader rest with
          | .error fault => .error fault
          | .ok (item, rest) => listLoop reader fuel false (item :: held) rest

def list {α : Type} (reader : Reader α) : Reader (List α) := fun input =>
  match skipSpace input with
  | '[' :: rest =>
      match listLoop reader (rest.length + 1) true [] rest with
      | .error fault => .error fault
      | .ok (items, rest) =>
          match closeList rest with
          | .ok rest => .ok (items, rest)
          | .error fault => .error fault
  | _ => .error (refuse "a sequence" input)

/-- The members of an object, in the order of their names. -/
def mapping : Reader (List (String × Json)) := fun input =>
  match skipSpace input with
  | '\x7b' :: rest =>
      match memberLoop (fuelFor rest) (depthLimit - 1) true [] rest with
      | .error fault => .error fault
      | .ok (members, rest) =>
          match closeObject rest with
          | .ok rest => .ok (members, rest)
          | .error fault => .error fault
  | _ => .error (refuse "a map" input)

end Reader

def parse (input : List Char) : Except Fault Json :=
  Reader.whole Reader.value input

end Stencil.Json
