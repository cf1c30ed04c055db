import Stencil.Script.Function
import Stencil.Script.Operator

/-!
The functions on numbers, truth values and symbols, and those of mathematics.
-/

namespace Stencil.Script.Run

/-- The value that a method of a wrapped value is called on. -/
def unwrap (this : Value) : Run Value := do
  match this with
  | .object id =>
      match (← object id).kind with
      | .wrapper value => return value
      | _ => return this
  | _ => return this

def wrapFor (call : Caller) (maker : Option Nat) (prototype : Nat) (value : Value) : Run Value := do
  match maker with
  | none => return value
  | some _ =>
      return .object (← allocate
        { prototype := some (← prototypeFor call maker prototype), kind := .wrapper value })

def runNumber (call : Caller) (function : NumberFunction) (this : Value) (arguments : List Value)
    (maker : Option Nat) : Run Value := do
  let first := argument arguments 0
  let receiver : Run Float := do
    match ← unwrap this with
    | .number x => return x
    | _ => wrongType "receiver is no number"
  let asNumber? : Option Float :=
    match first with
    | .number x => some x
    | _ => none
  match function with
  | .make =>
      let x ← if arguments.isEmpty then pure 0.0 else toNumber call first
      wrapFor call maker numberPrototype (.number x)
  | .isNaN => return .bool (asNumber?.any Float.isNaN)
  | .isFinite => return .bool (asNumber?.any Float.isFinite)
  | .isInteger => return .bool (asNumber?.any Number.isWhole)
  | .isSafeInteger =>
      return .bool (asNumber?.any fun x => Number.isWhole x && x.abs ≤ 9007199254740991.0)
  | .describe =>
      let x ← receiver
      let radix ← if first.isUndefined then pure 10 else toInteger call first
      if radix < 2 || 36 < radix then fail .rangeError "radix must be between 2 and 36"
      return .text (Units.ofChars (Number.writeRadix x radix.toNat))
  | .toFixed =>
      let x ← receiver
      let places ← toInteger call first
      if places < 0 || 100 < places then fail .rangeError "digits must be between 0 and 100"
      return .text (Units.ofChars (Number.writeFixed x places.toNat))
  | .itself => return .number (← receiver)
  | .parseInt =>
      let text ← toText call first
      let radix ← toNumber call (argument arguments 1)
      return .number (Number.parseWhole (Units.toCharsLossy text) (Number.toSigned radix))
  | .parseFloat =>
      return .number (Number.parseDecimal (Units.toCharsLossy (← toText call first)))
  | .anyIsNaN => return .bool (← toNumber call first).isNaN
  | .anyIsFinite => return .bool (← toNumber call first).isFinite

def runBool (call : Caller) (function : BoolFunction) (this : Value) (arguments : List Value)
    (maker : Option Nat) : Run Value := do
  let receiver : Run Bool := do
    match ← unwrap this with
    | .bool value => return value
    | _ => wrongType "receiver is no boolean"
  match function with
  | .make => wrapFor call maker boolPrototype (.bool (toBool (argument arguments 0)))
  | .describe => return .ofString (Text.showBool (← receiver))
  | .itself => return .bool (← receiver)

def runSymbol (call : Caller) (function : SymbolFunction) (this : Value)
    (arguments : List Value) : Run Value := do
  let receiver : Run Nat := do
    match ← unwrap this with
    | .symbol id => return id
    | _ => wrongType "receiver is no symbol"
  match function with
  | .make =>
      let first := argument arguments 0
      let description ← if first.isUndefined then pure none else some <$> toText call first
      let id := (← MonadState.get).symbols.size
      modify fun machine => { machine with symbols := machine.symbols.push description }
      return .symbol id
  | .describe =>
      let description := ((← MonadState.get).symbols[← receiver]?).join.getD []
      return .text (Units.ofString "Symbol(" ++ description ++ Units.ofString ")")
  | .description =>
      match ((← MonadState.get).symbols[← receiver]?).join with
      | some text => return .text text
      | none => return .undefined
  | .itself => return .symbol (← receiver)

/-- The greater of two numbers; nothing is greater than what is no number. -/
def greater (x y : Float) : Float :=
  if x.isNaN || y.isNaN then Number.nan
  else if x == 0.0 && y == 0.0 then (if Decimal.isNegative x then y else x)
  else if x < y then y else x

def lesser (x y : Float) : Float :=
  if x.isNaN || y.isNaN then Number.nan
  else if x == 0.0 && y == 0.0 then (if Decimal.isNegative x then x else y)
  else if x < y then x else y

/-- The nearest whole number, a half going up. What is as good as a half below zero counts as one.
-/
def roundUp (x : Float) : Float :=
  let fraction := x - (if x < 0.0 then x.ceil else x.floor)
  if (fraction + 0.5).abs < 2.220446049250313e-16 then x.ceil else x.round

def runMath (call : Caller) (function : MathFunction) (arguments : List Value) : Run Value := do
  let numbers ← arguments.mapM (toNumber call)
  let x := numbers.headD Number.nan
  let y := numbers.getD 1 Number.nan
  return .number <|
    match function with
    | .abs => x.abs
    | .floor => x.floor
    | .ceil => x.ceil
    | .round => roundUp x
    | .trunc => if x < 0.0 then x.ceil else x.floor
    | .sign => if 0.0 < x then 1.0 else if x < 0.0 then -1.0 else x
    | .sqrt => x.sqrt
    | .cbrt => x.cbrt
    | .exp => x.exp
    | .log => x.log
    | .log2 => x.log2
    | .log10 => x.log10
    | .sin => x.sin
    | .cos => x.cos
    | .tan => x.tan
    | .atan => x.atan
    | .atan2 => Float.atan2 x y
    | .power => Number.power x y
    | .max => numbers.foldl greater (-Number.infinity)
    | .min => numbers.foldl lesser Number.infinity
    | .hypot => (numbers.foldl (fun sum x => sum + x * x) 0.0).sqrt

end Stencil.Script.Run
