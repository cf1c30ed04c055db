import Stencil.Script.Machine

/-!
The properties of objects. A property is looked for along the chain of prototypes; lists keep their
length in step with their indices, wrapped texts show their characters, and the arguments of a call
may be the variables of its parameters.
-/

namespace Stencil.Script

namespace Run

/-- The property of a wrapped text that stands for one of its characters or its length. -/
def textProperty? (text : Units) : Key → Option Property
  | .index n =>
      match text[n]? with
      | some unit =>
          some { slot := .value (.text [unit]) false, enumerable := true, configurable := false }
      | none => none
  | key => if key = .length then some (.fixed (.ofNat text.length)) else none

/-! ### Linked arguments -/

def variableIn? (scope : Nat) (id : Units) : Run (Option Value) := do
  return ((← get).scopes[scope]?.bind (Scope.find? · id none)).bind Variable.value

/-- The name of the variable that a key of an object is linked with, and its scope. -/
def link? (held : Object) (key : Key) : Option (Nat × Units) :=
  match held.kind, key with
  | .arguments scope links, .index n => (links.lookup n).map (fun id => (scope, id))
  | _, _ => none

/-- The property at a key of an object, with the value of the variable that it is linked with. -/
def linkedProperty? (held : Object) (key : Key) : Run (Option Property) := do
  let property := held.properties.get? key
  match link? held key with
  | none => return property
  | some (scope, id) =>
      match ← variableIn? scope id with
      | some value => return property.map (fun property => property.withValue value)
      | none => return property

/-- An object whose key is linked with nothing any more. -/
def unlinked (held : Object) (key : Key) : Object :=
  match held.kind, key with
  | .arguments scope links, .index n =>
      { held with kind := .arguments scope (links.filter (fun link => link.1 != n)) }
  | _, _ => held

/-- Gives the variable that a key is linked with the value of a property that is put there. The link
ends with a property that cannot be changed. -/
def followLink (id : Nat) (key : Key) (property : Property) : Run Unit := do
  match link? (← object id) key with
  | none => return ()
  | some (scope, name) =>
      match property.slot with
      | .value value writable =>
          modify fun machine =>
            { machine with
              scopes := machine.scopes.modify scope fun held =>
                { held with
                  bindings := held.bindings.map fun entry =>
                    if entry.id = name then { entry with value := some value } else entry } }
          if !writable then update id (fun held => unlinked held key)
      | .accessor .. => update id (fun held => unlinked held key)

/-! ### Own properties -/

def ownProperty? (id : Nat) (key : Key) : Run (Option Property) := do
  let held ← object id
  match held.kind with
  | .list length settled =>
      if key = .length then
        return some
          { slot := .value (.ofNat length) (!settled), enumerable := false, configurable := false }
      else return held.properties.get? key
  | .wrapper (.text text) => return (textProperty? text key).or (held.properties.get? key)
  | .arguments .. => linkedProperty? held key
  | _ => return held.properties.get? key

def ownKeys (id : Nat) : Run (List Key) := do
  let held ← object id
  match held.kind with
  | .list .. =>
      let keys := held.properties.keys
      let isIndex : Key → Bool := fun
        | .index _ => true
        | _ => false
      return keys.filter isIndex ++ .length :: keys.filter (fun key => !isIndex key)
  | .wrapper (.text text) =>
      return (List.range text.length).map .index ++ held.properties.keys ++ [.length]
  | _ => return held.properties.keys

/-- The first object along the chain that has a property, and the property. -/
def findLoop (key : Key) : Nat → Nat → Run (Option (Nat × Property))
  | 0, _ => return none
  | fuel + 1, id => do
      match ← ownProperty? id key with
      | some property => return some (id, property)
      | none =>
          match (← object id).prototype with
          | some next => findLoop key fuel next
          | none => return none

def find? (id : Nat) (key : Key) : Run (Option (Nat × Property)) := do
  findLoop key ((← get).objects.size + 1) id

def has (id : Nat) (key : Key) : Run Bool := do
  return (← find? id key).isSome

def read (call : Caller) (receiver : Value) : Option Property → Run Value
  | none => return .undefined
  | some property =>
      match property.slot with
      | .value value _ => return value
      | .accessor getter _ =>
          if getter.isUndefined then return .undefined else call getter receiver []

def getOf (call : Caller) (id : Nat) (key : Key) : Run Value := do
  read call (.object id) ((← find? id key).map Prod.snd)

def get (call : Caller) (value : Value) (key : Key) : Run Value := do
  let inherited (prototype : Nat) : Run Value := do
    read call value ((← find? prototype key).map Prod.snd)
  match value with
  | .undefined => wrongType "cannot convert 'null' or 'undefined' to object"
  | .null => wrongType "cannot convert 'null' or 'undefined' to object"
  | .object id => getOf call id key
  | .text text =>
      match textProperty? text key with
      | some property => read call value (some property)
      | none => inherited textPrototype
  | .number _ => inherited numberPrototype
  | .bool _ => inherited boolPrototype
  | .symbol _ => inherited symbolPrototype

/-! ### Putting in place -/

def place (id : Nat) (key : Key) (property : Property) : Run Unit := do
  update id fun held =>
    let kind :=
      match held.kind, key with
      | .list length settled, .index n => .list (max length (n + 1)) settled
      | kind, _ => kind
    { held with kind := kind, properties := held.properties.set key property }
  followLink id key property

/-- Whether an object can get a property that it does not have yet. A list whose length is settled
does not grow. -/
def mayGrow (id : Nat) (key : Key) : Run Bool := do
  let held ← object id
  match held.kind, key with
  | .list length true, .index n => return held.extensible && n < length
  | _, _ => return held.extensible

/-- The shortest that a list can become when it is cut to a length: behind its last item that cannot
be taken away. -/
def leastLength (held : Object) (length : Nat) : Nat :=
  held.properties.entries.foldl (fun least entry =>
    match entry.1 with
    | .index n => if !entry.2.configurable && least ≤ n then n + 1 else least
    | _ => least) length

/-- Gives a list another length; tells whether it could be cut so far. -/
def setLength (id length : Nat) : Run Bool := do
  let held ← object id
  let least := leastLength held length
  update id fun held =>
    match held.kind with
    | .list _ settled =>
        { held with
          kind := .list least settled
          properties := held.properties.truncate least }
    | _ => held
  return least = length

/-- Makes or changes a property by assignment to a receiver; tells whether it may. -/
def putOwn (receiver : Value) (key : Key) (value : Value) : Run Bool := do
  let .object id := receiver | return false
  match ← ownProperty? id key with
  | some { slot := .value _ true, enumerable, configurable } =>
      place id key { slot := .value value true, enumerable, configurable }
      return true
  | some _ => return false
  | none =>
      if ← mayGrow id key then
        place id key (.plain value)
        return true
      else return false

def isFunction (value : Value) : Run Bool := do
  match value with
  | .object id =>
      match (← object id).kind with
      | .closure .. => return true
      | .builtin _ => return true
      | .bound .. => return true
      | _ => return false
  | _ => return false

/-- The length that a value asks for, if it is one. -/
def lengthOf? : Value → Option Nat
  | .number x =>
      if Number.isWhole x && 0 ≤ x && x < 4294967296.0 then some (Number.toUnsigned x) else none
  | _ => none

/-- The keys of the own properties that loops see, without symbols. -/
def ownEnumerable (id : Nat) : Run (List Key) := do
  (← ownKeys id).filterM fun key => do
    match ← ownProperty? id key with
    | some property => return property.enumerable && !key.isSymbol
    | none => return false

/-- The keys that a loop over an object runs through: its own, then those of its prototypes that are
not hidden by earlier ones. -/
def loopKeys : Nat → List Key → Nat → Run (List Key)
  | 0, _, _ => return []
  | fuel + 1, seen, id => do
      let all := (← ownKeys id).filter (fun key => !key.isSymbol && !seen.contains key)
      let shown ← all.filterM fun key => do
        return ((← ownProperty? id key).map Property.enumerable).getD false
      match (← object id).prototype with
      | some next => return shown ++ (← loopKeys fuel (seen ++ all) next)
      | none => return shown

/-- A new object with the members given, as a literal makes it. -/
def newRecord (members : List (Key × Value)) : Run Value := do
  return .object (← allocate
    { prototype := some objectPrototype
      properties := .ofList (members.map fun member => (member.1, .plain member.2)) })

end Run

end Stencil.Script
