import Stencil.Decimal.Shortest
import Stencil.Text.Hex
import Stencil.Text.Units

/-!
Numbers of scripts: doubles, the integers that the bit operators see in them, and their texts. A
number is written with the fewest digits that read back, positionally from `0.000001` to below
`1e+21`.
-/

namespace Stencil.Script.Number

def nan : Float := 0.0 / 0.0

def infinity : Float := 1.0 / 0.0

/-! ### Integers -/

/-- The integer part of a finite number; nothing for the others. -/
def truncate? (x : Float) : Option Int :=
  if x.isNaN || x.isInf then none
  else
    let b := Decimal.Binary.ofBits x.toBits
    let magnitude : Nat :=
      if 0 ≤ b.exponent then b.significand * Nat.pow 2 b.exponent.toNat
      else b.significand / Nat.pow 2 (-b.exponent).toNat
    some (if Decimal.isNegative x then -(magnitude : Int) else magnitude)

/-- The integer that a count or a position stands for: zero for what is no number, and the ends of a
wide range for the infinities. -/
def toInteger (x : Float) : Int :=
  if x.isNaN then 0
  else if x.isInf then (if x < 0 then -0x10000000000000000 else 0x10000000000000000)
  else (truncate? x).getD 0

/-- The number as an unsigned integer of 32 bits. -/
def toUnsigned (x : Float) : Nat :=
  (((truncate? x).getD 0) % 0x100000000).toNat

/-- The number as a signed integer of 32 bits. -/
def toSigned (x : Float) : Int :=
  let n := toUnsigned x
  if n < 0x80000000 then n else (n : Int) - 0x100000000

/-- The number whose pattern of 32 bits is the given one, the top bit being the sign. -/
def ofBits (n : Nat) : Float :=
  let n := n % 0x100000000
  if n < 0x80000000 then Float.ofNat n else -(Float.ofNat (0x100000000 - n))

def isWhole (x : Float) : Bool :=
  !x.isNaN && !x.isInf && x.floor == x

/-- A position in a text or list: negative ones count from the end. -/
def clampRelative (x : Float) (length : Nat) : Nat :=
  let n := toInteger x
  if n < 0 then ((length : Int) + n).toNat else min n.toNat length

/-- A position in a text: negative ones are the start. -/
def clamp (x : Float) (length : Nat) : Nat :=
  min (toInteger x).toNat length

/-! ### Arithmetic -/

/-- What division toward zero leaves, exactly, with the sign of the dividend. -/
def remainder (x y : Float) : Float :=
  if x.isNaN || y.isNaN || x.isInf || y == 0.0 then nan
  else if y.isInf || x == 0.0 then x
  else
    let a := Decimal.Binary.ofBits x.toBits
    let b := Decimal.Binary.ofBits y.toBits
    let low := min a.exponent b.exponent
    let left := a.significand * Nat.pow 2 (a.exponent - low).toNat
    let right := b.significand * Nat.pow 2 (b.exponent - low).toNat
    let rest := (Float.ofNat (left % right)).scaleB low
    if Decimal.isNegative x then -rest else rest

/-- Whether a number is a whole one of 32 bits; the negative zero is none. -/
def isSmall (x : Float) : Bool :=
  isWhole x && -2147483648.0 ≤ x && x ≤ 2147483647.0 && !(x == 0.0 && Decimal.isNegative x)

/-- The product. Whole numbers of 32 bits have no negative zero among their products. -/
def multiply (x y : Float) : Float :=
  let product := x * y
  if product == 0.0 && isSmall x && isSmall y then 0.0 else product

/-- `held * base ^ exponent` by squaring the base; the exponent loses a bit in every turn. -/
def squaring (held base : Float) (exponent : Nat) : Float :=
  let held := if exponent % 2 = 1 then held * base else held
  if 1 < exponent then squaring held (base * base) (exponent / 2) else held
termination_by exponent
decreasing_by omega

/-- A power. Whole exponents of 32 bits are reached by squaring. -/
def power (x y : Float) : Float :=
  if y.isNaN then nan
  else if y == 0.0 then 1.0
  else if y.isInf && x.abs == 1.0 then nan
  else if isSmall y then
    let magnitude := squaring 1.0 x ((truncate? y).getD 0).natAbs
    if y < 0.0 then 1.0 / magnitude else magnitude
  else x.pow y

/-! ### Writing -/

def layout : Decimal.Layout := ⟨-6, 21, false⟩

def sign (x : Float) : List Char :=
  if x < 0 then ['-'] else []

def write (x : Float) : List Char :=
  if x.isNaN then "NaN".toList
  else if x == 0.0 then ['0']
  else if x.isInf then sign x ++ "Infinity".toList
  else sign x ++ layout.write (Decimal.shortest x)

def toUnits (x : Float) : Units :=
  Units.ofChars (write x)

/-- The nearest multiple of `10 ^ -places`, a half going to the even one, as a count of them. -/
def roundPlaces (x : Float) (places : Nat) : Nat :=
  let b := Decimal.Binary.ofBits x.toBits
  let above := b.significand * Nat.pow 2 b.exponent.toNat * Nat.pow 10 places
  let below := Nat.pow 2 (-b.exponent).toNat
  let count := above / below
  let twice := 2 * (above % below)
  if below < twice || (twice = below && count % 2 = 1) then count + 1 else count

/-- A number with a fixed count of decimal places; great positive ones are written in short. -/
def writeFixed (x : Float) (places : Nat) : List Char :=
  if x.isNaN || x.isInf || 1e21 ≤ x then write x
  else
    let digits := Decimal.natDigits (roundPlaces x places)
    let padded := List.replicate (places + 1 - digits.length) '0' ++ digits
    let whole := padded.take (padded.length - places)
    sign x ++ whole ++ (if places = 0 then [] else '.' :: padded.drop (padded.length - places))

def writeWhole (radix : Nat) (n : Nat) : List Char :=
  if 2 ≤ radix ∧ radix ≤ n then writeWhole radix (n / radix) ++ [digitOf (n % radix)]
  else [digitOf n]
termination_by n
decreasing_by exact Nat.div_lt_self (by omega) (by omega)
where
  digitOf (d : Nat) : Char := Char.ofNat (if d < 10 then 48 + d else 87 + d)

/-- The digits after the point, as many as it takes to tell the fraction from its neighbours. -/
def writeFraction (radix : Float) : Nat → (fraction delta : Float) → List Char
  | 0, _, _ => []
  | places + 1, fraction, delta =>
      if fraction < delta then []
      else
        let scaled := fraction * radix
        let wide := delta * radix
        let digit := scaled.floor
        let rest := scaled - digit
        if 0.5 < rest && 1.0 < rest + wide then
          [writeWhole.digitOf ((truncate? digit).getD 0 + 1).toNat]
        else
          writeWhole.digitOf ((truncate? digit).getD 0).toNat
            :: writeFraction radix places rest wide

def writeRadix (x : Float) (radix : Nat) : List Char :=
  if radix = 10 || x.isNaN || x.isInf then write x
  else
    let whole := x.abs.floor
    let fraction := x.abs - whole
    let delta := max (0.5 * (Float.ofBits (x.abs.toBits + 1) - x.abs)) 5e-324
    let after := writeFraction (Float.ofNat radix) 1100 fraction delta
    sign x ++ writeWhole radix ((truncate? whole).getD 0).toNat
      ++ (if after.isEmpty then [] else '.' :: after)

/-! ### Reading -/

/-- The value of a digit in bases up to 36. -/
def digit? (c : Char) : Option Nat :=
  let n := c.toNat
  if 48 ≤ n ∧ n ≤ 57 then some (n - 48)
  else if 97 ≤ n ∧ n ≤ 122 then some (n - 87)
  else if 65 ≤ n ∧ n ≤ 90 then some (n - 55)
  else none

def isDigit (radix : Nat) (c : Char) : Bool :=
  (digit? c).any (fun value => value < radix)

def ofDigits (radix : Nat) (digits : List Char) : Nat :=
  digits.foldl (fun value c => value * radix + (digit? c).getD 0) 0

/-- The value of digits that are gathered one by one, with a rounding after each. -/
def gather (radix : Nat) (digits : List Char) : Float :=
  digits.foldl
    (fun value c => value * Float.ofNat radix + Float.ofNat ((digit? c).getD 0)) 0.0

def spanDigits (radix : Nat) (input : List Char) : List Char × List Char :=
  input.span (isDigit radix)

/-- `digits * 10 ^ exponent`, rounded once. Exponents far out of range are cut. -/
def decimal (digits : Nat) (exponent : Int) : Float :=
  if digits = 0 then 0.0
  else if 400 + (0 : Int) < exponent then infinity
  else if exponent < -400 - (Decimal.countDigits digits : Int) then 0.0
  else if 0 ≤ exponent then Float.ofScientific (digits * Nat.pow 10 exponent.toNat) false 0
  else Float.ofScientific digits true (-exponent).toNat

/-- The exponent at the front of a text: its value, and the rest. -/
def exponentPart (span : List Char → List Char × List Char) (input : List Char) :
    Option (Int × List Char) :=
  match input with
  | c :: rest =>
      if c = 'e' || c = 'E' then
        let (down, rest) :=
          match rest with
          | '-' :: rest => (true, rest)
          | '+' :: rest => (false, rest)
          | rest => (false, rest)
        match span rest with
        | ([], _) => none
        | (digits, rest) =>
            let value : Int := ofDigits 10 (digits.dropWhile (· == '0') |>.take 9)
            some (if down then -value else value, rest)
      else none
  | [] => none

/-- The longest unsigned decimal number at the front of a text; `span` takes runs of digits. -/
def takeDecimal (span : List Char → List Char × List Char) (input : List Char) :
    Option (Float × List Char) :=
  let (whole, rest) := span input
  let (fraction, rest) :=
    match rest with
    | '.' :: tail =>
        let (digits, after) := span tail
        if whole.isEmpty && digits.isEmpty then ([], rest) else (digits, after)
    | _ => ([], rest)
  if whole.isEmpty && fraction.isEmpty then none
  else
    let digits := ofDigits 10 (whole ++ fraction)
    match exponentPart span rest with
    | some (exponent, rest) => some (decimal digits (exponent - fraction.length), rest)
    | none => some (decimal digits (-(fraction.length : Int)), rest)

/-- The longest decimal number at the front of a text, with its sign; `Infinity` is one. -/
def takeSigned (input : List Char) : Option (Float × List Char) :=
  let magnitude (input : List Char) : Option (Float × List Char) :=
    if "Infinity".toList.isPrefixOf input then some (infinity, input.drop 8)
    else takeDecimal (spanDigits 10) input
  match input with
  | '-' :: rest => (magnitude rest).map (fun (value, rest) => (-value, rest))
  | '+' :: rest => magnitude rest
  | _ => magnitude input

/-- The radix that the letter after a leading zero announces. -/
def radixOf? (c : Char) : Option Nat :=
  if c = 'x' || c = 'X' then some 16
  else if c = 'o' || c = 'O' then some 8
  else if c = 'b' || c = 'B' then some 2
  else none

/-- A whole number that all of a text spells after `0x`, `0o` or `0b`. A plus sign may stand before
digits of 32 bits. -/
def ofPrefixed? (input : List Char) : Option Float :=
  match input with
  | '0' :: c :: rest =>
      (radixOf? c).map fun radix =>
        let spelled (digits : List Char) : Bool := !digits.isEmpty && digits.all (isDigit radix)
        match rest with
        | '+' :: digits =>
            if spelled digits && ofDigits radix digits < 0x100000000 then gather radix digits
            else nan
        | digits => if spelled digits then gather radix digits else nan
  | _ => none

/-- The infinities as they may be spelled in letters of any case after a sign. -/
def ofInfinite? (input : List Char) : Option Float :=
  match input with
  | [] => none
  | mark :: name =>
      let name := name.map Char.toLower
      if name = "inf".toList || name = "infinity".toList then
        if mark = '-' then some (-infinity) else if mark = '+' then some infinity else none
      else none

/-- White space and the ends of lines, as scripts count them. -/
def isSpace (c : Char) : Bool :=
  let n := c.toNat
  (9 ≤ n && n ≤ 13) || n = 0x20 || n = 0xA0 || n = 0x1680 || (0x2000 ≤ n && n ≤ 0x200A)
    || n = 0x2028 || n = 0x2029 || n = 0x202F || n = 0x205F || n = 0x3000 || n = 0xFEFF

def trimStart (text : List Char) : List Char :=
  text.dropWhile isSpace

def trim (text : List Char) : List Char :=
  (trimStart (trimStart text).reverse).reverse

def ofText (text : List Char) : Float :=
  let text := trim text
  if text.isEmpty then 0.0
  else
    match (ofPrefixed? text).or (ofInfinite? text) with
    | some value => value
    | none =>
        match takeSigned text with
        | some (value, []) => value
        | _ => nan

/-- The whole number at the front of a text, in a radix or the one its prefix announces. -/
def parseWhole (text : List Char) (radix : Int) : Float :=
  let text := trimStart text
  let (negative, text) :=
    match text with
    | '-' :: rest => (true, rest)
    | '+' :: rest => (false, rest)
    | _ => (false, text)
  if radix != 0 && (radix < 2 || 36 < radix) then nan
  else
    let (radix, text) :=
      match text with
      | '0' :: c :: rest =>
          if (c = 'x' || c = 'X') && (radix = 0 || radix = 16) then (16, rest)
          else (if radix = 0 then 10 else radix.toNat, text)
      | _ => (if radix = 0 then 10 else radix.toNat, text)
    match spanDigits radix text with
    | ([], _) => nan
    | (digits, _) =>
        let value :=
          if radix ≤ 16 && digits.length ≤ 16 then
            Float.ofScientific (ofDigits radix digits) false 0
          else gather radix digits
        if negative then -value else value

def parseDecimal (text : List Char) : Float :=
  match takeSigned (trimStart text) with
  | some (value, _) => value
  | none => nan

end Stencil.Script.Number
