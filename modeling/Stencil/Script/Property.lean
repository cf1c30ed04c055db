import Stencil.Script.Number

/-!
Values of scripts and the properties of objects. A property map keeps its entries in the order in
which their keys first came; the keys of an object are told with the indices first, in rising order.
-/

namespace Stencil.Script

/-- A value. Objects and symbols are known by their number. -/
inductive Value where
  | undefined
  | null
  | bool (value : Bool)
  | number (value : Float)
  | text (value : Units)
  | symbol (id : Nat)
  | object (id : Nat)

namespace Value

def ofString (text : String) : Value :=
  .text (Units.ofString text)

def ofNat (n : Nat) : Value :=
  .number (Float.ofNat n)

def isUndefined : Value → Bool
  | .undefined => true
  | _ => false

/-- `undefined` or `null`. -/
def isNothing : Value → Bool
  | .undefined => true
  | .null => true
  | _ => false

def isObject : Value → Bool
  | .object _ => true
  | _ => false

end Value

/-- The key of a property. A text that is the plain decimal form of a number below `2 ^ 32 - 1` is
an index, and only as one a key. -/
inductive Key where
  | index (n : Nat)
  | name (text : Units)
  | symbol (id : Nat)
  deriving DecidableEq, Repr

namespace Key

def isDigit (unit : UInt16) : Bool :=
  48 ≤ unit.toNat && unit.toNat ≤ 57

def ofUnits (text : Units) : Key :=
  if text.isEmpty || !text.all isDigit || (text.head? = some 48 && 1 < text.length)
      || 10 < text.length then
    .name text
  else
    let n := text.foldl (fun value unit => value * 10 + (unit.toNat - 48)) 0
    if n < 0xFFFFFFFF then .index n else .name text

def ofString (text : String) : Key :=
  ofUnits (Units.ofString text)

def toUnits : Key → Units
  | .index n => Units.ofChars (Decimal.natDigits n)
  | .name text => text
  | .symbol _ => []

def isSymbol : Key → Bool
  | .symbol _ => true
  | _ => false

def length : Key := ofString "length"

def prototype : Key := ofString "prototype"

end Key

/-- What a property holds: a value, or the functions that get and set one. -/
inductive Slot where
  | value (value : Value) (writable : Bool)
  | accessor (getter setter : Value)

structure Property where
  slot : Slot
  enumerable : Bool := true
  configurable : Bool := true

namespace Property

def plain (value : Value) : Property where
  slot := .value value true

def hidden (value : Value) : Property where
  slot := .value value true
  enumerable := false

def fixed (value : Value) : Property where
  slot := .value value false
  enumerable := false
  configurable := false

/-- A property with another value, if it holds one. -/
def withValue (property : Property) (value : Value) : Property :=
  match property.slot with
  | .value _ writable => { property with slot := .value value writable }
  | .accessor .. => property

def readOnly (value : Value) : Property where
  slot := .value value false
  enumerable := false

end Property

/-- Properties by their keys, in the order in which the keys came. -/
structure Properties where
  entries : Array (Key × Property) := #[]

namespace Properties

def get? (properties : Properties) (key : Key) : Option Property :=
  (properties.entries.find? (fun entry => entry.1 = key)).map Prod.snd

/-- Puts a property in the place of the one with its key, or at the end. -/
def set (properties : Properties) (key : Key) (property : Property) : Properties :=
  match properties.entries.findIdx? (fun entry => entry.1 = key) with
  | some place => ⟨properties.entries.set! place (key, property)⟩
  | none => ⟨properties.entries.push (key, property)⟩

def erase (properties : Properties) (key : Key) : Properties :=
  ⟨properties.entries.filter (fun entry => entry.1 != key)⟩

/-- Drops the indices from `length` on. -/
def truncate (properties : Properties) (length : Nat) : Properties :=
  ⟨properties.entries.filter fun entry =>
    match entry.1 with
    | .index n => n < length
    | _ => true⟩

/-- The indices in rising order, then the names and the symbols as they came. -/
def keys (properties : Properties) : List Key :=
  let all := properties.entries.toList.map Prod.fst
  let indices := all.filterMap fun
    | .index n => some n
    | _ => none
  let names := all.filter fun
    | .name _ => true
    | _ => false
  (indices.mergeSort (fun a b => a ≤ b)).map .index ++ names ++ all.filter Key.isSymbol

def ofList (entries : List (Key × Property)) : Properties :=
  entries.foldl (fun held entry => held.set entry.1 entry.2) {}

end Properties

end Stencil.Script
