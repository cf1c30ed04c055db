/-!
Decimal literals: digits with a point and an exponent. A literal overflows when the double nearest
to it is infinite, which is a comparison of natural numbers.
-/

namespace Stencil.Decimal

/-- The number `digits * 10 ^ exponent`. -/
structure Literal where
  digits : Nat
  exponent : Int
  deriving DecidableEq, Repr

namespace Literal

def ofDigits (digits : List Char) : Nat :=
  digits.foldl (fun value c => value * 10 + (c.toNat - 48)) 0

/-- An exponent after its letter, or none where the text ends. -/
def exponent? : List Char → Option Int
  | [] => some 0
  | c :: rest =>
      let (down, digits) :=
        match rest with
        | '-' :: digits => (true, digits)
        | '+' :: digits => (false, digits)
        | digits => (false, digits)
      if (c = 'e' || c = 'E') && !digits.isEmpty && digits.all Char.isDigit then
        some (if down then -(ofDigits digits : Int) else ofDigits digits)
      else none

/-- Reads a literal without a sign. A digit has to stand on one side of the point. -/
def read? (text : List Char) : Option Literal :=
  let (whole, rest) := text.span Char.isDigit
  let (fraction, rest) :=
    match rest with
    | '.' :: tail => tail.span Char.isDigit
    | rest => ([], rest)
  if whole.isEmpty && fraction.isEmpty then none
  else
    (exponent? rest).map fun exponent =>
      ⟨ofDigits (whole ++ fraction), exponent - fraction.length⟩

/-- The least number that rounds to infinity: half a step above the greatest double. -/
def overflowBound : Nat := Nat.pow 2 1024 - Nat.pow 2 970

/-- Whether a literal is beyond every double, as all powers of ten from the four hundredth on are. -/
def overflows (literal : Literal) : Bool :=
  if literal.digits = 0 then false
  else if 400 < literal.exponent then true
  else if 0 ≤ literal.exponent then
    overflowBound ≤ literal.digits * Nat.pow 10 literal.exponent.toNat
  else if literal.digits < overflowBound then false
  else overflowBound * Nat.pow 10 (-literal.exponent).toNat ≤ literal.digits

end Literal

end Stencil.Decimal
