import Stencil.Script.Assign

/-!
Variables. A name stands for the variable of the nearest scope that has it; outside every function
the properties of the global object are variables as well, behind those of `let`, `const` and
`class`.
-/

namespace Stencil.Script.Run

def newScope (parent : Nat) (receiver : Option Receiver) : Run Nat := do
  let id := (← MonadState.get).scopes.size
  modify fun machine =>
    { machine with scopes := machine.scopes.push { parent := some parent, receiver := receiver } }
  return id

def changeScope (id : Nat) (change : Scope → Scope) : Run Unit :=
  modify fun machine => { machine with scopes := machine.scopes.modify id change }

def scope (id : Nat) : Run Scope := do
  return ((← MonadState.get).scopes[id]?).getD { parent := none }

/-- A variable in a scope; one that is there already gives way. -/
def declare (scope : Nat) (entry : Variable) : Run Unit :=
  changeScope scope fun held =>
    match held.placeOf? entry.id with
    | some place => { held with bindings := held.bindings.set! place entry }
    | none => { held with bindings := held.bindings.push entry }

/-- A variable in a scope that has none of its name yet. -/
def declareMissing (scope : Nat) (entry : Variable) : Run Unit :=
  changeScope scope fun held =>
    match held.placeOf? entry.id with
    | some _ => held
    | none => { held with bindings := held.bindings.push entry }

/-- Names without a value yet, each with whether it stays as it is once it has one. -/
def declareUnset (scope : Nat) (escapes : Units → Bool) (names : List (Units × Bool)) : Run Unit :=
  names.forM fun (id, isConst) =>
    declare scope ⟨id, none, if isConst then .never else .free, escapes id⟩

/-- Gives a variable of a scope its value, whatever it was. -/
def settle (scope : Nat) (id : Units) (value : Value) : Run Unit :=
  changeScope scope fun held =>
    match held.placeOf? id with
    | some place =>
        { held with
          bindings := held.bindings.modify place fun entry =>
            { entry with value := some value } }
    | none => held

/-- The nearest scope that has a name, and the variable. -/
def findVariableLoop (id : Units) : Nat → Option Nat → Nat → Run (Option (Nat × Variable))
  | 0, _, _ => return none
  | fuel + 1, known, current => do
      let held ← scope current
      match held.find? id known with
      | some entry => return some (current, entry)
      | none =>
          match held.parent with
          | some parent => findVariableLoop id fuel held.known parent
          | none => return none

def findVariable? (current : Nat) (id : Units) : Run (Option (Nat × Variable)) := do
  findVariableLoop id ((← MonadState.get).scopes.size + 1) none current

/-- A scope for a script, which knows the global variables that there are by now. -/
def newScriptScope : Run Nat := do
  let known := (← scope globalScope).bindings.size
  let id := (← MonadState.get).scopes.size
  modify fun machine =>
    { machine with
      scopes := machine.scopes.push { parent := some globalScope, known := some known } }
  return id

/-- Gives the variable that a name stands for its first value. -/
def settleNearest (current : Nat) (id : Units) (value : Value) : Run Unit := do
  match ← findVariable? current id with
  | some (scope, _) => settle scope id value
  | none => return ()

def unknownName {α : Type} (id : Units) : Run α :=
  fail .referenceError (Units.toString id ++ " is not defined")

/-- The value that a name stands for; nothing if it stands for none. -/
def valueOf? (call : Caller) (current : Nat) (id : Units) : Run (Option Value) := do
  match ← findVariable? current id with
  | some (_, { value := some value, .. }) => return some value
  | some (_, { value := none, escapes, .. }) =>
      if escapes then unknownName id
      else fail .referenceError "access to uninitialized binding"
  | none =>
      match ← find? globalObject (.ofUnits id) with
      | some (_, property) => return some (← read call (.object globalObject) (some property))
      | none => return none

def readVariable (call : Caller) (current : Nat) (id : Units) : Run Value := do
  match ← valueOf? call current id with
  | some value => return value
  | none => unknownName id

/-- Assigns to what a name stands for. A variable that has no value yet takes one only where no
other code sees it. A name that stands for nothing becomes a property of the global object, but not
in strict code. -/
def writeVariable (call : Caller) (current : Nat) (strict : Bool) (id : Units) (value : Value) :
    Run Unit := do
  match ← findVariable? current id with
  | some (_, { change := .never, .. }) => wrongType "cannot assign to a constant"
  | some (_, { change := .ignored, .. }) => return ()
  | some (scope, { value := some _, .. }) => settle scope id value
  | some (scope, { value := none, escapes, .. }) =>
      if escapes then
        fail .referenceError
          ("cannot assign to uninitialized binding `" ++ Units.toString id ++ "`")
      else settle scope id value
  | none =>
      let key := Key.ofUnits id
      if strict && !(← has globalObject key) then
        fail .referenceError
          ("cannot assign to uninitialized global property `" ++ Units.toString id ++ "`")
      put call strict (.object globalObject) key value

/-- The scope that tells what the surrounding function was called on. -/
def receiverLoop : Nat → Nat → Run (Option (Nat × Receiver))
  | 0, _ => return none
  | fuel + 1, current => do
      let held ← scope current
      match held.receiver with
      | some receiver => return some (current, receiver)
      | none =>
          match held.parent with
          | some parent => receiverLoop fuel parent
          | none => return none

def receiver? (current : Nat) : Run (Option (Nat × Receiver)) := do
  receiverLoop ((← MonadState.get).scopes.size + 1) current

/-- What `this` is. -/
def readThis (current : Nat) : Run Value := do
  match ← receiver? current with
  | none => return .object globalObject
  | some (_, receiver) =>
      match receiver.value with
      | some value => return value
      | none => fail .referenceError "must call super constructor before accessing 'this'"

/-- A copy of a scope's own variables in a new scope. -/
def copyScope (current : Nat) : Run Nat := do
  let held ← scope current
  let id := (← MonadState.get).scopes.size
  modify fun machine => { machine with scopes := machine.scopes.push held }
  return id

end Stencil.Script.Run
