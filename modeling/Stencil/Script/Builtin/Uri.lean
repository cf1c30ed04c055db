import Stencil.Script.Convert
import Stencil.Text.Utf8

/-!
Texts as parts of a URI. Every character that is not kept is written as the octets of its UTF-8
form, each as a percent sign and two hexadecimal digits.
-/

namespace Stencil.Script.Run

def uriMarks : List Char := "-_.!~*'()".toList

def uriReserved : List Char := ";/?:@&=+$,#".toList

def isUriPart (c : Char) : Bool :=
  c.isAlphanum || uriMarks.contains c

def writeEscapes (c : Char) : List Char :=
  (Utf8.encodeString (String.singleton c)).flatMap fun octet =>
    ['%', Units.hexDigit (octet.toNat / 0x10), Units.hexDigit (octet.toNat % 0x10)]

def encodeUri (kept : Char → Bool) (text : Units) : Run Units := do
  let parts ← (Units.scan text).mapM fun found => do
    match found with
    | .error _ => fail .uriError "malformed URI"
    | .ok c =>
        return if kept c then [c] else writeEscapes c
  return Units.ofChars parts.flatten

/-- The octets of a number of escapes at the front of a text, and the rest. -/
def takeEscapes : Nat → List Char → Option (Bytes × List Char)
  | 0, input => some ([], input)
  | count + 1, '%' :: high :: low :: rest => do
      let high ← Hex.value? high
      let low ← Hex.value? low
      let (octets, rest) ← takeEscapes count rest
      return (UInt8.ofNat (high * 0x10 + low) :: octets, rest)
  | _ + 1, _ => none

/-- A text with its escapes read; those of characters that stay are left as they are. -/
def decodeUri (stays : Char → Bool) : Nat → List Char → Option (List Char)
  | 0, _ => none
  | fuel + 1, input =>
      match input with
      | [] => some []
      | '%' :: high :: low :: rest => do
          let octet := (← Hex.value? high) * 0x10 + (← Hex.value? low)
          if octet < 0x80 then
            let read := if stays (Char.ofNat octet) then ['%', high, low] else [Char.ofNat octet]
            return read ++ (← decodeUri stays fuel rest)
          let count := if octet < 0xE0 then 2 else if octet < 0xF0 then 3 else 4
          let (octets, rest) ← takeEscapes count input
          let text ← String.fromUTF8? ⟨octets.toArray⟩
          return text.toList ++ (← decodeUri stays fuel rest)
      | '%' :: _ => none
      | c :: rest => do return c :: (← decodeUri stays fuel rest)

def runUri (call : Caller) (function : UriFunction) (arguments : List Value) : Run Value := do
  let text ← toText call (argument arguments 0)
  let decoded (stays : Char → Bool) : Run Value := do
    let chars := Units.toCharsLossy text
    match decodeUri stays (chars.length + 1) chars with
    | some chars => return .text (Units.ofChars chars)
    | none => fail .uriError "malformed URI"
  match function with
  | .encode => return .text (← encodeUri (fun c => isUriPart c || uriReserved.contains c) text)
  | .encodePart => return .text (← encodeUri isUriPart text)
  | .decode => decoded uriReserved.contains
  | .decodePart => decoded fun _ => false

end Stencil.Script.Run
