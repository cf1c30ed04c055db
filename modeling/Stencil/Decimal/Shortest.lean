/-!
The fewest decimal digits that read back as a given binary number. A double is `m * 2 ^ q`; the
reals that round to it form an interval, whose ends belong to it when `m` is even. For one, two, …
digits the two neighbours of the value on that decimal grid are tried, and the first grid with a hit
wins.
-/

namespace Stencil.Decimal

/-- A positive number `significand * 2 ^ exponent`. `narrow` tells that the next number below is
half as far away as the next one above. -/
structure Binary where
  significand : Nat
  exponent : Int
  narrow : Bool
  deriving DecidableEq, Repr

/-- The magnitude of a finite double, from its bits. -/
def Binary.ofBits (bits : UInt64) : Binary :=
  let biased : Nat := bits.toNat / Nat.pow 2 52 % Nat.pow 2 11
  let fraction : Nat := bits.toNat % Nat.pow 2 52
  if biased = 0 then ⟨fraction, -1074, false⟩
  else ⟨Nat.pow 2 52 + fraction, Int.ofNat biased - 1075, fraction = 0 && biased != 1⟩

/-- `digits * 10 ^ exponent`. -/
structure Digits where
  digits : Nat
  exponent : Int
  deriving DecidableEq, Repr

/-- `10 ^ k` as a fraction. -/
def tenTo (k : Int) : Nat × Nat :=
  if 0 ≤ k then (Nat.pow 10 k.toNat, 1) else (1, Nat.pow 10 (-k).toNat)

/-- The value and the interval that rounds to it, over one denominator. -/
structure Interval where
  lower : Nat
  value : Nat
  upper : Nat
  denominator : Nat
  closed : Bool

def Binary.interval (b : Binary) : Interval :=
  let quarters := b.exponent - 2
  let scale := Nat.pow 2 quarters.toNat
  { lower := (4 * b.significand - (if b.narrow then 1 else 2)) * scale
    value := 4 * b.significand * scale
    upper := (4 * b.significand + 2) * scale
    denominator := Nat.pow 2 (-quarters).toNat
    closed := b.significand % 2 = 0 }

/-- Whether `digits * 10 ^ k` rounds to the value. -/
def Interval.holds (i : Interval) (k : Int) (digits : Nat) : Bool :=
  let power := tenTo k
  let left := digits * power.1 * i.denominator
  if i.closed then i.lower * power.2 ≤ left && left ≤ i.upper * power.2
  else i.lower * power.2 < left && left < i.upper * power.2

/-- The point of the grid `10 ^ k` that stands for the value, if one does: the nearer of the two
neighbours, the even one of two equally near. -/
def Interval.pick (i : Interval) (k : Int) : Option Nat :=
  let power := tenTo k
  let below := i.value * power.2 / (power.1 * i.denominator)
  let twice := 2 * i.value * power.2
  let middle := (2 * below + 1) * power.1 * i.denominator
  let nearBelow := twice < middle || (twice = middle && below % 2 = 0)
  let first := if nearBelow then below else below + 1
  let second := if nearBelow then below + 1 else below
  if i.holds k first then some first
  else if i.holds k second then some second
  else none

/-- How many decimal digits a number has; none for zero. -/
def countDigits (n : Nat) : Nat :=
  if n = 0 then 0 else countDigits (n / 10) + 1
termination_by n

/-- The exponent of the leading decimal digit of a positive number. -/
def Interval.leading (i : Interval) : Int :=
  (countDigits (i.value * Nat.pow 10 400 / i.denominator) : Int) - 401

def Interval.search (i : Interval) : Nat → Int → Digits
  | 0, k => ⟨i.value * (tenTo k).2 / ((tenTo k).1 * i.denominator), k⟩
  | tries + 1, k =>
      match i.pick k with
      | some digits => ⟨digits, k⟩
      | none => i.search tries (k - 1)

/-- Drops zeros at the end; `fuel` bounds how many. -/
def Digits.strip : Nat → Digits → Digits
  | 0, d => d
  | fuel + 1, d =>
      if d.digits % 10 = 0 && d.digits != 0 then Digits.strip fuel ⟨d.digits / 10, d.exponent + 1⟩
      else d

/-- The shortest digits of a positive finite double. -/
def shortest (x : Float) : Digits :=
  let i := (Binary.ofBits x.toBits).interval
  Digits.strip 20 (i.search 17 i.leading)

/-- How a writer lays digits out. A leading digit at an exponent from `least` up to below `limit` is
written positionally, `point` adds `.0` to a whole number; other exponents are written after `e`
with their sign. -/
structure Layout where
  least : Int
  limit : Int
  point : Bool

def natDigits (n : Nat) : List Char :=
  Nat.toDigits 10 n

def Layout.write (layout : Layout) (d : Digits) : List Char :=
  let digits := natDigits d.digits
  let leading := d.exponent + (digits.length : Int) - 1
  if layout.least ≤ leading && leading < layout.limit then
    if 0 ≤ d.exponent then
      digits ++ List.replicate d.exponent.toNat '0' ++ (if layout.point then ['.', '0'] else [])
    else if 0 ≤ leading then
      digits.take (leading.toNat + 1) ++ '.' :: digits.drop (leading.toNat + 1)
    else '0' :: '.' :: List.replicate (-leading - 1).toNat '0' ++ digits
  else
    let fraction := digits.drop 1
    digits.take 1 ++ (if fraction.isEmpty then [] else '.' :: fraction)
      ++ 'e' :: (if leading < 0 then '-' else '+') :: natDigits leading.natAbs

def isNegative (x : Float) : Bool :=
  x.toBits.toNat / Nat.pow 2 63 = 1

end Stencil.Decimal
