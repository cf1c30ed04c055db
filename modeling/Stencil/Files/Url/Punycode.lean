/-!
Names of hosts beyond ASCII. The ASCII characters of a label stand first; the others follow in
rising order, each as the count of places passed over since the last one, in digits whose weights
adapt to the counts before.
-/

namespace Stencil.Punycode

def digit (value : Nat) : Char :=
  Char.ofNat (if value < 26 then 97 + value else 22 + value)

/-- The number of values that end a count at a place. -/
def threshold (place bias : Nat) : Nat :=
  if place ≤ bias then 1 else if bias + 26 ≤ place then 26 else place - bias

theorem one_le_threshold (place bias : Nat) : 1 ≤ threshold place bias := by
  grind [threshold]

def count (bias place value : Nat) : List Char :=
  let bound := threshold place bias
  if value < bound then [digit value]
  else
    digit (bound + (value - bound) % (36 - bound))
      :: count bias (place + 36) ((value - bound) / (36 - bound))
termination_by value
decreasing_by
  have low := one_le_threshold place bias
  have := Nat.div_le_self (value - threshold place bias) (36 - threshold place bias)
  omega

/-- How often a count can be divided down, as a bias, and what is left. -/
def settle (value bias : Nat) : Nat × Nat :=
  if 455 < value then settle (value / 35) (bias + 36) else (value, bias)
termination_by value
decreasing_by exact Nat.div_lt_self (by omega) (by omega)

def adapt (value written : Nat) (first : Bool) : Nat :=
  let scaled := if first then value / 700 else value / 2
  let (left, bias) := settle (scaled + scaled / written) 0
  bias + 36 * left / (left + 38)

/-- What was written so far: the digits, the places passed over, the bias, and how many characters
are placed. -/
structure Progress where
  digits : List Char
  passed : Nat
  bias : Nat
  placed : Nat

/-- Passes one character of the label while those equal to `point` are placed. -/
def pass (basic point : Nat) (progress : Progress) (c : Char) : Progress :=
  if c.toNat < point then { progress with passed := progress.passed + 1 }
  else if c.toNat = point then
    { digits := progress.digits ++ count progress.bias 36 progress.passed
      passed := 0
      bias := adapt progress.passed (progress.placed + 1) (progress.placed = basic)
      placed := progress.placed + 1 }
  else progress

/-- Places the characters of the given points, which rise; all below `next` are placed. -/
def placeAll (label : List Char) (basic : Nat) : Nat → List Nat → Progress → Progress
  | _, [], progress => progress
  | next, point :: rest, progress =>
      let skipped := progress.passed + (point - next) * (progress.placed + 1)
      let after := label.foldl (pass basic point) { progress with passed := skipped }
      placeAll label basic (point + 1) rest { after with passed := after.passed + 1 }

def encode (label : List Char) : List Char :=
  let basic := label.filter (fun c => c.toNat < 0x80)
  let points := ((label.map Char.toNat).filter (fun point => 0x80 ≤ point)).mergeSort
    (fun a b => a ≤ b)
  let start : Progress := { digits := [], passed := 0, bias := 72, placed := basic.length }
  basic ++ (if basic.isEmpty then [] else ['-'])
    ++ (placeAll label basic.length 0x80 points.eraseDups start).digits

end Stencil.Punycode
