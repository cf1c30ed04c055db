import Stencil.Decimal.Literal

/-!
What the text of a scalar can stand for besides itself: nothing, a truth value, or a number. A tag
can say which of these a scalar is meant to be.
-/

namespace Stencil.Yaml.Schema

inductive Kind where
  | nothing
  | boolean
  | integer
  | decimal
  deriving DecidableEq, Repr

/-- The kind that a tag asks for, if it asks for one of these. -/
def kindOfTag? (tag : List Char) : Option Kind :=
  [("tag:yaml.org,2002:null", Kind.nothing), ("tag:yaml.org,2002:bool", .boolean),
    ("tag:yaml.org,2002:int", .integer), ("tag:yaml.org,2002:float", .decimal)].lookup
      (String.ofList tag)

def isNothing (text : List Char) : Bool :=
  String.ofList text ∈ ["null", "Null", "NULL", "~"]

def boolean? (text : List Char) : Option Bool :=
  [("true", true), ("True", true), ("TRUE", true), ("false", false), ("False", false),
    ("FALSE", false)].lookup (String.ofList text)

/-- The value of digits of a base; there has to be one. -/
def digits? (base : Nat) (text : List Char) : Option Nat :=
  let value? (c : Char) : Option Nat :=
    let n := c.toNat
    let value :=
      if c.isDigit then n - 48
      else if 97 ≤ n && n ≤ 102 then n - 87
      else if 65 ≤ n && n ≤ 70 then n - 55
      else base
    if value < base then some value else none
  if text.isEmpty then none
  else text.foldlM (fun total c => (value? c).map (total * base + ·)) 0

/-- The magnitude of a number after its sign. A leading zero announces a base, or stands alone. -/
def magnitude? : List Char → Option Nat
  | '0' :: 'x' :: rest => digits? 16 rest
  | '0' :: 'o' :: rest => digits? 8 rest
  | '0' :: 'b' :: rest => digits? 2 rest
  | '0' :: c :: rest => if (c :: rest).all Char.isDigit then none else digits? 10 ('0' :: c :: rest)
  | text => digits? 10 text

/-- Whether a text is an integer of at most 128 bits. -/
def isInteger (text : List Char) : Bool :=
  match text with
  | '-' :: rest => (magnitude? rest).any (fun value => value ≤ Nat.pow 2 127)
  | '+' :: rest => (magnitude? rest).any (fun value => value < Nat.pow 2 128)
  | text => (magnitude? text).any (fun value => value < Nat.pow 2 128)

def afterPlus : List Char → List Char
  | '+' :: rest => rest
  | text => text

def afterMinus : List Char → List Char
  | '-' :: rest => rest
  | text => text

/-- Whether a text is a decimal number, an infinity or not a number. A decimal has to be finite. -/
def isDecimal (text : List Char) : Bool :=
  let isInfinity := String.ofList (afterMinus (afterPlus text)) ∈ [".inf", ".Inf", ".INF"]
  if text.take 2 = ['+', '-'] then false
  else
    isInfinity || String.ofList text ∈ [".nan", ".NaN", ".NAN"]
      || (Decimal.Literal.read? (afterMinus (afterPlus text))).any
        (fun literal => !literal.overflows)

def suits : Kind → List Char → Bool
  | .nothing, text => isNothing text
  | .boolean, text => (boolean? text).isSome
  | .integer, text => isInteger text
  | .decimal, text => isDecimal text

end Stencil.Yaml.Schema
