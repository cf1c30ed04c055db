import Stencil.Journal
import Stencil.Script.Builtin.Names
import Stencil.Script.Pattern
import Stencil.Script.Property
import Stencil.Script.Syntax

/-!
The machine that scripts run on: objects and scopes, known by their numbers and never taken away,
the names declared in the global scope, and the lines written to the console. A run changes the
machine and may throw; what it changed before stays.
-/

namespace Stencil.Script

/-- What an object is besides its properties. -/
inductive ObjectKind where
  | ordinary
  /-- A list; its length may be settled for good. -/
  | list (length : Nat) (settled : Bool)
  /-- A function written in a script, the scope it closes over, and the object it is a member of. -/
  | closure (code : Code) (scope : Nat) (home : Option Nat)
  | builtin (function : Builtin)
  /-- A function with its receiver and its first arguments given. -/
  | bound (target : Nat) (receiver : Value) (arguments : List Value)
  | error
  | wrapper (value : Value)
  | pattern (source flags : Units) (compiled : Pattern)
  /-- The arguments of a call. Those at the linked indices are the variables of the given names in
  the scope of the call. -/
  | arguments (scope : Nat) (links : List (Nat × Units))

structure Object where
  prototype : Option Nat
  kind : ObjectKind := .ordinary
  properties : Properties := {}
  extensible : Bool := true

/-- How a variable may be changed: freely, never, or with attempts passed over. -/
inductive Change where
  | free
  | never
  | ignored
  deriving DecidableEq, Repr

/-- A variable; it has no value until its declaration is reached. One that `escapes` is seen by
inner functions or by other scripts. -/
structure Variable where
  id : Units
  value : Option Value
  change : Change := .free
  escapes : Bool := true

/-- What a function was called on. Inside a derived class there is no value before `super` is
called. -/
structure Receiver where
  value : Option Value
  callee : Nat
  home : Option Nat
  /-- The constructor that `new` was used on. -/
  maker : Option Nat

/-- Variables inside those of a parent. The scope of a script tells how many variables of its parent
the script knows, which are those of earlier scripts and its own. -/
structure Scope where
  parent : Option Nat
  bindings : Array Variable := #[]
  receiver : Option Receiver := none
  known : Option Nat := none

def Scope.placeOf? (scope : Scope) (id : Units) : Option Nat :=
  scope.bindings.findIdx? (fun entry => entry.id = id)

/-- The variable of a name, if it is one of the first `known`. -/
def Scope.find? (scope : Scope) (id : Units) (known : Option Nat) : Option Variable := do
  let place ← scope.placeOf? id
  if known.all (fun count => place < count) then scope.bindings[place]? else none

structure Machine where
  objects : Array Object
  scopes : Array Scope
  /-- Names that `var` and functions declared globally. -/
  globals : List Units := []
  symbols : Array (Option Units) := #[]
  /-- Lines of the console, the last one first. -/
  console : List (Level × String) := []
  /-- How many calls and scripts are under way. -/
  depth : Nat := 0
  /-- The value of the statement that was last run for its value. -/
  result : Value := .undefined
  /-- The lists whose items are just being joined. -/
  joining : List Nat := []

/-- What stops a run: a value that was thrown, an error of the language itself, or calls that nest
too deep, which no handler sees. -/
inductive Thrown where
  | value (value : Value)
  | fault (kind : ErrorKind) (message : String)
  | tooDeep

abbrev Run := EStateM Thrown Machine

/-- How functions call functions: what is called, what on, and with what. -/
abbrev Caller := Value → Value → List Value → Run Value

/-! ### The objects that every machine has -/

def globalObject : Nat := 0

def objectPrototype : Nat := 1

def functionPrototype : Nat := 2

def listPrototype : Nat := 3

def textPrototype : Nat := 4

def numberPrototype : Nat := 5

def boolPrototype : Nat := 6

def symbolPrototype : Nat := 7

def patternPrototype : Nat := 8

def errorPrototype : ErrorKind → Nat
  | .error => 9
  | .typeError => 10
  | .rangeError => 11
  | .referenceError => 12
  | .syntaxError => 13
  | .evalError => 14
  | .uriError => 15

def refusal : Nat := 16

def iteratorSymbol : Nat := 0

def toPrimitiveSymbol : Nat := 1

def tagSymbol : Nat := 2

def instanceSymbol : Nat := 3

/-- The scope of `let`, `const` and `class` outside every function. -/
def globalScope : Nat := 0

namespace Run

def fail {α : Type} (kind : ErrorKind) (message : String) : Run α :=
  throw (.fault kind message)

def wrongType {α : Type} (message : String) : Run α :=
  fail .typeError message

/-! ### Objects -/

def object (id : Nat) : Run Object := do
  return ((← get).objects[id]?).getD { prototype := none }

def allocate (object : Object) : Run Nat := do
  let id := (← get).objects.size
  modify fun machine => { machine with objects := machine.objects.push object }
  return id

def update (id : Nat) (change : Object → Object) : Run Unit :=
  modify fun machine => { machine with objects := machine.objects.modify id change }

def newObject : Run Nat :=
  allocate { prototype := some objectPrototype }

def newList (items : List Value) : Run Value := do
  let entries := items.mapIdx fun index item => (Key.index index, Property.plain item)
  return .object (← allocate
    { prototype := some listPrototype
      kind := .list items.length false
      properties := ⟨entries.toArray⟩ })

def newError (kind : ErrorKind) (message : String) : Run Value := do
  return .object (← allocate
    { prototype := some (errorPrototype kind)
      kind := .error
      properties := .ofList
        [(Key.ofString "message", .hidden (.text (Units.ofString message)))] })

/-- A thrown thing as the value that a handler gets. -/
def caught : Thrown → Run Value
  | .value value => return value
  | .fault kind message => newError kind message
  | .tooDeep => throw .tooDeep

/-! ### Console -/

def writeLine (level : Level) (line : String) : Run Unit :=
  modify fun machine => { machine with console := (level, line) :: machine.console }

/-! ### Calls -/

def depthLimit : Nat := 512

def checkDepth : Run Unit := do
  if depthLimit ≤ (← get).depth then throw .tooDeep

def deeper {α : Type} (run : Run α) : Run α := fun machine =>
  let depth := machine.depth
  if depthLimit ≤ depth then .error .tooDeep machine
  else
    match run { machine with depth := depth + 1 } with
    | .ok value machine => .ok value { machine with depth := depth }
    | .error thrown machine => .error thrown { machine with depth := depth }

/-! ### The value of a script -/

def setResult (value : Value) : Run Unit :=
  modify fun machine => { machine with result := value }

def result : Run Value := do
  return (← get).result

def attempt {α : Type} (run : Run α) : Run (Except Thrown α) := fun machine =>
  match run machine with
  | .ok value machine => .ok (.ok value) machine
  | .error thrown machine => .ok (.error thrown) machine

end Run

end Stencil.Script
