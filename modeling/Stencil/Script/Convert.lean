import Stencil.Script.Object

/-!
Values of one kind as values of another. An object becomes a text or a number by way of its own
`toString` and `valueOf`.
-/

namespace Stencil.Script.Run

/-- Which kind of value an object should become. -/
inductive Hint where
  | default
  | number
  | text
  deriving DecidableEq

def Hint.name : Hint → String
  | .default => "default"
  | .number => "number"
  | .text => "string"

/-- The answer of the first of some methods that answers no object. -/
def firstAnswer (call : Caller) (value : Value) : List String → Run Value
  | [] => wrongType "cannot convert object to primitive value"
  | name :: others => do
      let method ← get call value (.ofString name)
      if ← isFunction method then
        let answer ← call method value []
        if answer.isObject then firstAnswer call value others else return answer
      else firstAnswer call value others

def toPrimitive (call : Caller) (hint : Hint) (value : Value) : Run Value := do
  if !value.isObject then return value
  let special ← get call value (.symbol toPrimitiveSymbol)
  if !special.isNothing then
    if !(← isFunction special) then wrongType "Symbol.toPrimitive is not a function"
    let answer ← call special value [.ofString hint.name]
    if answer.isObject then wrongType "cannot convert object to primitive value"
    return answer
  firstAnswer call value
    (if hint = .text then ["toString", "valueOf"] else ["valueOf", "toString"])

def toBool : Value → Bool
  | .undefined => false
  | .null => false
  | .bool value => value
  | .number x => !x.isNaN && x != 0.0
  | .text text => !text.isEmpty
  | .symbol _ => true
  | .object _ => true

/-- The number that a value that is no object stands for. -/
def numberOf : Value → Run Float
  | .undefined => return Number.nan
  | .null => return 0.0
  | .bool value => return if value then 1.0 else 0.0
  | .number x => return x
  | .text text => return Number.ofText (Units.toCharsLossy text)
  | _ => wrongType "cannot convert to number"

def toNumber (call : Caller) (value : Value) : Run Float := do
  numberOf (← toPrimitive call .number value)

def textOf : Value → Run Units
  | .undefined => return Units.ofString "undefined"
  | .null => return Units.ofString "null"
  | .bool value => return Units.ofString (Text.showBool value)
  | .number x => return Number.toUnits x
  | .text text => return text
  | _ => wrongType "cannot convert to string"

def toText (call : Caller) (value : Value) : Run Units := do
  textOf (← toPrimitive call .text value)

/-- The index that a number is, without going through its text. -/
def indexOf? (x : Float) : Option Nat :=
  if Number.isWhole x && 0 ≤ x && x < 4294967295.0 then some (Number.toUnsigned x) else none

def keyOf (call : Caller) (value : Value) : Run Key := do
  match value with
  | .number x =>
      match indexOf? x with
      | some n => return .index n
      | none => return .ofUnits (Number.toUnits x)
  | .text text => return .ofUnits text
  | .symbol id => return .symbol id
  | value =>
      match ← toPrimitive call .text value with
      | .symbol id => return .symbol id
      | value => return .ofUnits (← textOf value)

def toObject (value : Value) : Run Nat := do
  let wrap (prototype : Nat) : Run Nat :=
    allocate { prototype := some prototype, kind := .wrapper value }
  match value with
  | .undefined => wrongType "cannot convert 'null' or 'undefined' to object"
  | .null => wrongType "cannot convert 'null' or 'undefined' to object"
  | .object id => return id
  | .text _ => wrap textPrototype
  | .number _ => wrap numberPrototype
  | .bool _ => wrap boolPrototype
  | .symbol _ => wrap symbolPrototype

def toInteger (call : Caller) (value : Value) : Run Int := do
  return Number.toInteger (← toNumber call value)

def lengthOf (call : Caller) (id : Nat) : Run Nat := do
  match (← object id).kind with
  | .list length _ => return length
  | _ => return min (← toInteger call (← getOf call id .length)).toNat (Nat.pow 2 53 - 1)

def itemsOf (call : Caller) (id : Nat) : Run (List Value) := do
  let length ← lengthOf call id
  (List.range length).mapM fun index => getOf call id (.index index)

/-- The items that a value stands for where items are wanted one by one: those of a list, the
characters of a text. -/
def iterate (call : Caller) (value : Value) : Run (List Value) := do
  match value with
  | .text text =>
      return (Units.scan text).map fun
        | .ok c => .text (Units.ofChar c)
        | .error unit => .text [unit]
  | .object id =>
      match (← object id).kind with
      | .list .. => itemsOf call id
      | .arguments .. => itemsOf call id
      | _ => wrongType "value is not iterable"
  | _ => wrongType "value is not iterable"

def argument (arguments : List Value) (place : Nat) : Value :=
  arguments.getD place .undefined

end Stencil.Script.Run
