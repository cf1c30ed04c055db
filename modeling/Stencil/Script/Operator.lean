import Stencil.Script.Convert

/-!
What the operators do with their operands once these have values.
-/

namespace Stencil.Script.Run

def identical : Value → Value → Bool
  | .undefined, .undefined => true
  | .null, .null => true
  | .bool a, .bool b => a = b
  | .number a, .number b => a == b
  | .text a, .text b => a = b
  | .symbol a, .symbol b => a = b
  | .object a, .object b => a = b
  | _, _ => false

/-- As `identical`, but that a number that is none equals itself. -/
def alike : Value → Value → Bool
  | .number a, .number b => (a.isNaN && b.isNaN) || a == b
  | a, b => identical a b

/-- Equal after the conversions that the looser comparison makes; each turn makes one. -/
def equalLoop (call : Caller) : Nat → Value → Value → Run Bool
  | 0, _, _ => return false
  | fuel + 1, a, b => do
      match a, b with
      | .bool value, .bool other => return value = other
      | .bool value, b => equalLoop call fuel (.number (if value then 1.0 else 0.0)) b
      | a, .bool value => equalLoop call fuel a (.number (if value then 1.0 else 0.0))
      | .number x, .text text => return x == Number.ofText (Units.toCharsLossy text)
      | .text text, .number x => return x == Number.ofText (Units.toCharsLossy text)
      | .object a, .object b => return a = b
      | .object id, b =>
          if b.isNothing then return false
          else equalLoop call fuel (← toPrimitive call .default (.object id)) b
      | a, .object id =>
          if a.isNothing then return false
          else equalLoop call fuel a (← toPrimitive call .default (.object id))
      | a, b => return (a.isNothing && b.isNothing) || identical a b

def equal (call : Caller) (a b : Value) : Run Bool :=
  equalLoop call 8 a b

/-- The sum of two numbers, or two texts put together. -/
def add (call : Caller) (a b : Value) : Run Value := do
  match a, b with
  | .number x, .number y => return .number (x + y)
  | .text a, .text b => return .text (a ++ b)
  | a, b =>
      let a ← toPrimitive call .default a
      let b ← toPrimitive call .default b
      match a, b with
      | .text a, b => return .text (a ++ (← textOf b))
      | a, .text b => return .text ((← textOf a) ++ b)
      | a, b => return .number ((← numberOf a) + (← numberOf b))

/-- Texts are compared unit by unit, all else as numbers; nothing where a number is none. -/
def less? (call : Caller) (a b : Value) : Run (Option Bool) := do
  let a ← toPrimitive call .number a
  let b ← toPrimitive call .number b
  match a, b with
  | .text a, .text b => return some (decide (a < b))
  | a, b =>
      let x ← numberOf a
      let y ← numberOf b
      return if x.isNaN || y.isNaN then none else some (x < y)

/-- Whether the first is less than the second, operands evaluated from the left. -/
def less (call : Caller) (a b : Value) : Run Value := do
  return .bool ((← less? call a b).getD false)

/-- Whether the second is not less than the first, and both are comparable. -/
def lessEqual (call : Caller) (a b : Value) : Run Value := do
  let a ← toPrimitive call .number a
  let b ← toPrimitive call .number b
  return .bool (!(← less? call b a).getD true)

def arithmetic (call : Caller) (operation : Float → Float → Float) (a b : Value) : Run Value := do
  let x ← toNumber call a
  let y ← toNumber call b
  return .number (operation x y)

/-- The product. Values that are no numbers yet keep the sign of a zero. -/
def multiply (call : Caller) (a b : Value) : Run Value := do
  match a, b with
  | .number x, .number y => return .number (Number.multiply x y)
  | a, b => arithmetic call (· * ·) a b

/-- Operations on patterns of 32 bits. -/
def bitwise (call : Caller) (operation : Nat → Nat → Nat) (a b : Value) : Run Value := do
  let x ← toNumber call a
  let y ← toNumber call b
  return .number (Number.ofBits (operation (Number.toUnsigned x) (Number.toUnsigned y)))

def shiftRight (call : Caller) (signed : Bool) (a b : Value) : Run Value := do
  let x ← toNumber call a
  let y ← toNumber call b
  let count := Number.toUnsigned y % 32
  if signed then return .number (Float.ofInt (Number.toSigned x / (Nat.pow 2 count : Nat)))
  else return .number (Float.ofNat (Number.toUnsigned x / Nat.pow 2 count))

/-- Whether an object stands in a chain of prototypes. -/
def inChain (wanted : Nat) : Nat → Option Nat → Run Bool
  | 0, _ => return false
  | _, none => return false
  | fuel + 1, some id => do
      if id = wanted then return true else inChain wanted fuel (← object id).prototype

/-- Whether the prototype of a function stands in the chain of an object. -/
def instanceLoop (call : Caller) (value : Value) : Nat → Value → Run Bool
  | 0, _ => return false
  | fuel + 1, function => do
      let .object id := function
        | wrongType "right-hand side of 'instanceof' should be an object"
      if !(← isFunction function) then
        wrongType "right-hand side of 'instanceof' is not callable"
      match (← object id).kind with
      | .bound target _ _ => instanceLoop call value fuel (.object target)
      | _ =>
          let .object held := value | return false
          match ← getOf call id .prototype with
          | .object prototype =>
              inChain prototype ((← Machine.objects <$> MonadState.get).size + 1)
                (← object held).prototype
          | _ => wrongType "prototype is not an object"

def isInstance (call : Caller) (value function : Value) : Run Bool := do
  if function.isObject then
    let special ← get call function (.symbol instanceSymbol)
    if !special.isNothing then return toBool (← call special function [value])
  instanceLoop call value 64 function

def isIn (call : Caller) (key object : Value) : Run Value := do
  match object with
  | .object id => return .bool (← has id (← keyOf call key))
  | _ => wrongType "right-hand side of 'in' should be an object"

def binary (call : Caller) (op : BinaryOp) (a b : Value) : Run Value := do
  match op with
  | .add => add call a b
  | .subtract => arithmetic call (· - ·) a b
  | .multiply => multiply call a b
  | .divide => arithmetic call (· / ·) a b
  | .remainder => arithmetic call Number.remainder a b
  | .power => arithmetic call Number.power a b
  | .shiftLeft => bitwise call (fun x y => x * Nat.pow 2 (y % 32)) a b
  | .shiftRight => shiftRight call true a b
  | .shiftRightUnsigned => shiftRight call false a b
  | .bitAnd => bitwise call Nat.land a b
  | .bitOr => bitwise call Nat.lor a b
  | .bitXor => bitwise call Nat.xor a b
  | .less => less call a b
  | .greater =>
      let a ← toPrimitive call .number a
      less call b a
  | .lessEqual => lessEqual call a b
  | .greaterEqual =>
      let a ← toPrimitive call .number a
      let b ← toPrimitive call .number b
      lessEqual call b a
  | .equal => return .bool (← equal call a b)
  | .notEqual => return .bool (!(← equal call a b))
  | .identical => return .bool (identical a b)
  | .notIdentical => return .bool (!identical a b)
  | .instanceOf => return .bool (← isInstance call a b)
  | .isIn => isIn call a b

/-- The kind of a value as `typeof` names it. -/
def kindName (value : Value) : Run String := do
  match value with
  | .undefined => return "undefined"
  | .null => return "object"
  | .bool _ => return "boolean"
  | .number _ => return "number"
  | .text _ => return "string"
  | .symbol _ => return "symbol"
  | .object _ => return if ← isFunction value then "function" else "object"

def unary (call : Caller) (op : UnaryOp) (value : Value) : Run Value := do
  match op with
  | .negate => return .number (-(← toNumber call value))
  | .plus => return .number (← toNumber call value)
  | .not => return .bool (!toBool value)
  | .complement =>
      let x ← toNumber call value
      return .number (Number.ofBits (0xFFFFFFFF - Number.toUnsigned x))
  | .typeOf => return .ofString (← kindName value)
  | .void => return .undefined

end Stencil.Script.Run
