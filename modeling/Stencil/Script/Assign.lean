import Stencil.Script.Convert

/-!
Assigning, defining and removing properties. An assignment asks the properties along the chain of
prototypes, a definition only the one that it replaces.
-/

namespace Stencil.Script.Run

/-! ### Lengths of lists -/

/-- The length that a value asks for. It is converted twice, once to an integer of 32 bits and once
to a number, and both have to agree. -/
def lengthAsked (call : Caller) (value : Value) : Run Nat := do
  let whole := Number.toUnsigned (← toNumber call value)
  if Float.ofNat whole == (← toNumber call value) then return whole
  else fail .rangeError "invalid array length"

/-- Gives a list the length that a property tells, and settles it if the property cannot be
changed; tells whether the list could be cut so far. -/
def placeLength (id : Nat) (value : Value) (writable : Bool) : Run Bool := do
  let done ←
    match lengthOf? value with
    | some length => setLength id length
    | none => pure false
  if !writable then
    update id fun held =>
      match held.kind with
      | .list length _ => { held with kind := .list length true }
      | _ => held
  return done

/-! ### Assignments -/

/-- Whether a key of an object is the length of a list, and whether that is settled. -/
def settledLength? (target : Value) (key : Key) : Run (Option Bool) := do
  let .object id := target | return none
  match (← object id).kind with
  | .list _ settled => return if key = .length then some settled else none
  | _ => return none

def assign (call : Caller) (target : Value) (key : Key) (value : Value) : Run Bool := do
  let start ←
    match target with
    | .undefined => wrongType "cannot convert 'null' or 'undefined' to object"
    | .null => wrongType "cannot convert 'null' or 'undefined' to object"
    | .object id => pure id
    | .text _ => pure textPrototype
    | .number _ => pure numberPrototype
    | .bool _ => pure boolPrototype
    | .symbol _ => pure symbolPrototype
  match ← settledLength? target key with
  | some true => return false
  | some false => setLength start (← lengthAsked call value)
  | none =>
      match ← find? start key with
      | some (_, { slot := .value _ false, .. }) => return false
      | some (_, { slot := .accessor _ setter, .. }) =>
          if setter.isUndefined then return false
          let _ ← call setter target [value]
          return true
      | _ => putOwn target key value

/-- Assigns to a property. What may not be is passed over, or refused in strict code. -/
def put (call : Caller) (strict : Bool) (target : Value) (key : Key) (value : Value) :
    Run Unit := do
  if !(← assign call target key value) && strict then
    wrongType "cannot set non-writable property"

/-! ### Definitions -/

/-- A property that a new definition would leave as it is may be defined again. -/
def sameValue : Value → Value → Bool
  | .undefined, .undefined => true
  | .null, .null => true
  | .bool a, .bool b => a = b
  | .number a, .number b => (a.isNaN && b.isNaN) || a.toBits = b.toBits
  | .text a, .text b => a = b
  | .symbol a, .symbol b => a = b
  | .object a, .object b => a = b
  | _, _ => false

/-- Whether a property may take the place of one that is there. -/
def mayReplace (old new : Property) : Bool :=
  old.configurable
    || (!new.configurable && old.enumerable = new.enumerable
      && match old.slot, new.slot with
        | .value _ true, .value .. => true
        | .value held false, .value wanted writable => !writable && sameValue held wanted
        | .accessor getter setter, .accessor otherGetter otherSetter =>
            sameValue getter otherGetter && sameValue setter otherSetter
        | _, _ => false)

def define (id : Nat) (key : Key) (property : Property) : Run Bool := do
  match ← ownProperty? id key with
  | some old =>
      if !mayReplace old property then return false
      match ← settledLength? (.object id) key, property.slot with
      | some _, .value value writable => placeLength id value writable
      | _, _ =>
          place id key property
          return true
  | none =>
      if ← mayGrow id key then
        place id key property
        return true
      else return false

/-- Takes a property away; tells whether it may be. -/
def remove (id : Nat) (key : Key) : Run Bool := do
  match ← ownProperty? id key with
  | none => return true
  | some property =>
      if property.configurable then
        update id fun held =>
          { unlinked held key with properties := held.properties.erase key }
        return true
      else return false

end Stencil.Script.Run
