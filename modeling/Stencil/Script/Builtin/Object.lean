import Stencil.Script.Function
import Stencil.Script.Operator

/-!
The functions on objects as such.
-/

namespace Stencil.Script.Run

/-- What a description of a property says; what it leaves open stays as it is. -/
structure Description where
  value : Option Value
  writable : Option Bool
  getter : Option Value
  setter : Option Value
  enumerable : Option Bool
  configurable : Option Bool

def getIfPresent (call : Caller) (id : Nat) (name : String) : Run (Option Value) := do
  let key := Key.ofString name
  if ← has id key then some <$> getOf call id key else return none

def descriptionOf (call : Caller) (value : Value) : Run Description := do
  let .object id := value | wrongType "property descriptor must be an object"
  let enumerable ← getIfPresent call id "enumerable"
  let configurable ← getIfPresent call id "configurable"
  let held ← getIfPresent call id "value"
  let writable ← getIfPresent call id "writable"
  let getter ← getIfPresent call id "get"
  let setter ← getIfPresent call id "set"
  let check (function : Option Value) : Run Unit := do
    match function with
    | some value =>
        if !value.isUndefined && !(← isFunction value) then
          wrongType "accessor must be a function"
    | none => return ()
  check getter
  check setter
  if (getter.isSome || setter.isSome) && (held.isSome || writable.isSome) then
    wrongType "property descriptor has both accessor and value"
  pure
    { value := held
      writable := writable.map toBool
      getter := getter
      setter := setter
      enumerable := enumerable.map toBool
      configurable := configurable.map toBool }

/-- The property that a description makes of the one that is there. -/
def Description.apply (description : Description) (old : Option Property) : Property :=
  let isAccessor := description.getter.isSome || description.setter.isSome
  let isValue := description.value.isSome || description.writable.isSome
  let slot :=
    match old.map Property.slot with
    | some (.accessor getter setter) =>
        if isValue then
          .value (description.value.getD .undefined) (description.writable.getD false)
        else .accessor (description.getter.getD getter) (description.setter.getD setter)
    | some (.value value writable) =>
        if isAccessor then
          .accessor (description.getter.getD .undefined) (description.setter.getD .undefined)
        else .value (description.value.getD value) (description.writable.getD writable)
    | none =>
        if isAccessor then
          .accessor (description.getter.getD .undefined) (description.setter.getD .undefined)
        else .value (description.value.getD .undefined) (description.writable.getD false)
  { slot := slot
    enumerable := description.enumerable.getD ((old.map Property.enumerable).getD false)
    configurable := description.configurable.getD ((old.map Property.configurable).getD false) }

/-- A description whose value is the length that it asks for, where it describes that of a list. -/
def Description.converted (call : Caller) (id : Nat) (key : Key) (description : Description) :
    Run Description := do
  match ← settledLength? (.object id) key, description.value with
  | some _, some value =>
      return { description with value := some (.ofNat (← lengthAsked call value)) }
  | _, _ => return description

def defineBy (call : Caller) (id : Nat) (key : Key) (value : Value) : Run Unit := do
  let description ← (← descriptionOf call value).converted call id key
  let property := description.apply (← ownProperty? id key)
  if !(← define id key property) then wrongType "cannot redefine property"

/-- Defines a property for every description in an object. -/
def defineEach (call : Caller) (id : Nat) (descriptions : Value) : Run Unit := do
  let held ← toObject descriptions
  (← ownKeys held).forM fun key => do
    match ← ownProperty? held key with
    | some property => if property.enumerable then defineBy call id key (← getOf call held key)
    | none => return ()

def describeProperty (property : Property) : Run Value := do
  let slot : List (Key × Value) :=
    match property.slot with
    | .value value writable =>
        [(Key.ofString "value", value), (Key.ofString "writable", .bool writable)]
    | .accessor getter setter => [(Key.ofString "get", getter), (Key.ofString "set", setter)]
  newRecord (slot ++ [(Key.ofString "enumerable", .bool property.enumerable),
    (Key.ofString "configurable", .bool property.configurable)])

/-- Keeps an object from growing and its properties from being taken away or, when `frozen`, from
being changed. -/
def close (id : Nat) (frozen : Bool) : Run Unit := do
  for key in ← ownKeys id do
    match ← ownProperty? id key with
    | some property =>
        let slot :=
          match property.slot with
          | .value value writable => .value value (writable && !frozen)
          | slot => slot
        if !(key = .length) then place id key { property with slot := slot, configurable := false }
    | none => pure ()
  update id fun held => { held with extensible := false }

def isClosed (id : Nat) (frozen : Bool) : Run Bool := do
  let held ← object id
  return !held.extensible && held.properties.entries.all fun entry =>
    !entry.2.configurable
      && match entry.2.slot with
        | .value _ writable => !(frozen && writable)
        | _ => true

def setPrototype (id : Nat) (value : Value) : Run Unit := do
  match value with
  | .object prototype =>
      if ← inChain id ((← MonadState.get).objects.size + 1) (some prototype) then
        wrongType "cyclic prototype"
      update id fun held => { held with prototype := some prototype }
  | .null => update id fun held => { held with prototype := none }
  | _ => return ()

/-- The word between the brackets of an object's own description. -/
def tagOf (id : Nat) : Run String := do
  match (← object id).kind with
  | .list .. => return "Array"
  | .closure .. => return "Function"
  | .builtin _ => return "Function"
  | .bound .. => return "Function"
  | .error => return "Error"
  | .wrapper (.bool _) => return "Boolean"
  | .wrapper (.number _) => return "Number"
  | .wrapper (.text _) => return "String"
  | .pattern .. => return "RegExp"
  | .arguments .. => return "Arguments"
  | _ => return "Object"

def describeObject (call : Caller) (value : Value) : Run Value := do
  match value with
  | .undefined => return .ofString "[object Undefined]"
  | .null => return .ofString "[object Null]"
  | value =>
      let id ← toObject value
      let usual ← tagOf id
      let word :=
        match ← get call (.object id) (.symbol tagSymbol) with
        | .text text => text
        | _ => Units.ofString usual
      return .text (Units.ofString "[object " ++ word ++ Units.ofString "]")

/-- The keys, values or pairs that loops over an object see. -/
def listed (call : Caller) (value : Value) (show? : Key → Value → Run Value) : Run Value := do
  let id ← toObject value
  newList (← (← ownEnumerable id).mapM fun key => do show? key (← getOf call id key))

def runObject (call : Caller) (function : ObjectFunction) (this : Value) (arguments : List Value)
    (maker : Option Nat) : Run Value := do
  let first := argument arguments 0
  let second := argument arguments 1
  let onObject (value : Value) (run : Nat → Run Value) (otherwise : Value) : Run Value :=
    match value with
    | .object id => run id
    | _ => return otherwise
  match function with
  | .make =>
      if first.isNothing then
        let prototype ← prototypeFor call maker objectPrototype
        return .object (← allocate { prototype := some prototype })
      else return .object (← toObject first)
  | .keys =>
      let id ← toObject first
      newList ((← ownEnumerable id).map (fun key => .text key.toUnits))
  | .values => listed call first fun _ value => return value
  | .entries => listed call first fun key value => newList [.text key.toUnits, value]
  | .ofEntries =>
      let members ← (← iterate call first).mapM fun pair => do
        let key ← keyOf call (← get call pair (.index 0))
        return (key, ← get call pair (.index 1))
      newRecord members
  | .create =>
      let prototype ←
        match first with
        | .object id => pure (some id)
        | .null => pure none
        | _ => wrongType "object prototype may only be an object or null"
      let id ← allocate { prototype := prototype }
      if !second.isUndefined then defineEach call id second
      return .object id
  | .define =>
      let .object id := first | wrongType "Object.defineProperty called on non-object"
      defineBy call id (← keyOf call second) (argument arguments 2)
      return first
  | .defineAll =>
      let .object id := first | wrongType "Object.defineProperties called on non-object"
      defineEach call id second
      return first
  | .ownNames =>
      let id ← toObject first
      newList (((← ownKeys id).filter (fun key => !key.isSymbol)).map
        (fun key => .text key.toUnits))
  | .ownDescriptor =>
      let id ← toObject first
      match ← ownProperty? id (← keyOf call second) with
      | some property => describeProperty property
      | none => return .undefined
  | .prototypeOf =>
      match (← object (← toObject first)).prototype with
      | some id => return .object id
      | none => return .null
  | .setPrototype =>
      if first.isNothing then wrongType "cannot set prototype of undefined or null"
      if !second.isObject && !(identical second .null) then
        wrongType "prototype must be an object or null"
      onObject first (fun id => do
        setPrototype id second
        return first) first
  | .assign =>
      let id ← toObject first
      for source in arguments.drop 1 do
        if !source.isNothing then
          let held ← toObject source
          for key in ← ownEnumerable held do
            put call true (.object id) key (← getOf call held key)
      return .object id
  | .freeze =>
      onObject first (fun id => do
        close id true
        return first) first
  | .seal =>
      onObject first (fun id => do
        close id false
        return first) first
  | .isFrozen => onObject first (fun id => return .bool (← isClosed id true)) (.bool true)
  | .isSealed => onObject first (fun id => return .bool (← isClosed id false)) (.bool true)
  | .preventExtensions =>
      onObject first (fun id => do
        update id fun held => { held with extensible := false }
        return first) first
  | .isExtensible => onObject first (fun id => return .bool (← object id).extensible) (.bool false)
  | .same => return .bool (sameValue first second)
  | .hasOwn =>
      let id ← toObject first
      return .bool (← ownProperty? id (← keyOf call second)).isSome
  | .hasOwnProperty =>
      let key ← keyOf call first
      return .bool (← ownProperty? (← toObject this) key).isSome
  | .describe => describeObject call this
  | .describeLocally => call (← get call this (.ofString "toString")) this []
  | .itself => return .object (← toObject this)
  | .isPrototypeOf =>
      let .object held := first | return .bool false
      let id ← toObject this
      return .bool
        (← inChain id ((← MonadState.get).objects.size + 1) (← object held).prototype)
  | .isEnumerable =>
      let key ← keyOf call first
      return .bool (((← ownProperty? (← toObject this) key).map Property.enumerable).getD false)
  | .getPrototype =>
      match (← object (← toObject this)).prototype with
      | some id => return .object id
      | none => return .null
  | .putPrototype =>
      if let .object id := this then setPrototype id first
      return .undefined

end Stencil.Script.Run
