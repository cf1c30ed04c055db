import Stencil.Script.Builtin.Pattern

/-!
Values of expressions. Expressions, statements and calls contain each other, so each is evaluated
through a `Runner`, the record of all three; the functions here say what one expression does when
its parts are left to the runner.
-/

namespace Stencil.Script

/-- Where code runs: the scope of its names, what inner functions keep of its scopes, and whether
the code is strict. -/
structure Frame where
  scope : Nat
  captured : Captured
  strict : Bool
  /-- Whether a statement is run for its value. -/
  records : Bool := false

/-- How a statement ends. -/
inductive Completion where
  | normal
  | broke (label : Option Units)
  | continued (label : Option Units)
  | returned (value : Value)

structure Runner where
  eval : Frame → Expr → Run Value
  exec : Frame → Stmt → Run Completion
  /-- Calls a function object on a receiver; with a constructor, to make an object of it. -/
  apply : Nat → Value → List Value → Option Nat → Run Value

namespace Runner

open Run

def call (r : Runner) : Caller := fun function receiver arguments => do
  match function with
  | .object id =>
      if ← isFunction function then r.apply id receiver arguments none
      else wrongType "not a callable function"
  | _ => wrongType "not a callable function"

def construct (r : Runner) (callee : Value) (arguments : List Value) : Run Value := do
  match callee with
  | .object id =>
      if ← isConstructor id then r.apply id .undefined arguments (some id)
      else wrongType "not a constructor"
  | _ => wrongType "not a constructor"

/-! ### Parts -/

def items (r : Runner) (frame : Frame) (items : List Item) : Run (List Value) := do
  let parts ← items.mapM fun item => do
    match item with
    | .one value => return [← r.eval frame value]
    | .spread value => iterate r.call (← r.eval frame value)
  return parts.flatten

def propertyKey (r : Runner) (frame : Frame) : PropertyName → Run Key
  | .fixed text => return .ofUnits text
  | .computed key => do keyOf r.call (← r.eval frame key)

/-- What is read or assigned to, once its parts have values. -/
inductive Reference where
  | name (id : Units)
  | member (object : Value) (key : Key)

/-- A target whose parts have values, though the key is not converted yet. -/
inductive OpenReference where
  | name (id : Units)
  | fixed (object : Value) (key : Key)
  | computed (object key : Value)

def openReference (r : Runner) (frame : Frame) : Target → Run OpenReference
  | .name id => return .name id
  | .member object (.fixed text) => return .fixed (← r.eval frame object) (.ofUnits text)
  | .member object (.computed key) => do
      let object ← r.eval frame object
      return .computed object (← r.eval frame key)

/-- Converts the key, unless there is no object to look for it in. -/
def OpenReference.close (r : Runner) : OpenReference → Run Reference
  | .name id => return .name id
  | .fixed object key => return .member object key
  | .computed object key => do
      if object.isNothing then wrongType "cannot convert 'null' or 'undefined' to object"
      return .member object (← keyOf r.call key)

def reference (r : Runner) (frame : Frame) (target : Target) : Run Reference := do
  (← openReference r frame target).close r

def readReference (r : Runner) (frame : Frame) : Reference → Run Value
  | .name id => readVariable r.call frame.scope id
  | .member object key => Run.get r.call object key

def writeReference (r : Runner) (frame : Frame) (reference : Reference) (value : Value) :
    Run Unit :=
  match reference with
  | .name id => writeVariable r.call frame.scope frame.strict id value
  | .member object key => put r.call frame.strict object key value

/-- The object whose method the surrounding code is, as seen by `super`. -/
def superObject (frame : Frame) : Run Value := do
  match ← receiver? frame.scope with
  | some (_, { home := some home, .. }) =>
      match (← object home).prototype with
      | some id => return .object id
      | none => return .null
  | _ => fail .syntaxError "'super' keyword unexpected here"

/-! ### Functions and classes -/

/-- A function over the current scope, called by the name that it shows. -/
def functionValue (frame : Frame) (code : Code) : Run Value := do
  return .object (← newFunction code code.id frame.scope none (some functionPrototype))

/-- A function that knows itself by its name, in a scope of its own. Assignments to this name are
passed over, unless the function asks for strict code. -/
def boundFunction (frame : Frame) (code : Code) : Run Value := do
  let scope ← newScope frame.scope none
  let id ← newFunction code code.id scope none (some functionPrototype)
  declare scope
    ⟨code.id, some (.object id), if code.strictness = .asked then .never else .ignored, true⟩
  return .object id

/-- The name that a function gets from the key it is kept under. -/
def nameOfKey (key : Key) : Run Units := do
  match key with
  | .symbol id =>
      match ((← MonadState.get).symbols[id]?).join with
      | some text => return 91 :: text ++ [93]
      | none => return []
  | key => return key.toUnits

/-- A method of an object, called by its key behind a word. -/
def methodValue (frame : Frame) (home : Nat) (word : String) (key : Key) (code : Code) :
    Run Value := do
  let name := Units.ofString word ++ (← nameOfKey key)
  return .object (← newFunction code name frame.scope (some home) (some functionPrototype))

/-- Whether an expression is a function or class that was written without a name. -/
def isNameless : Expr → Bool
  | .function _ code => code.id.isEmpty
  | .classOf code => code.id.isEmpty
  | _ => false

/-- A getter or setter, next to the other one if the object has it. -/
def placeAccessor (id : Nat) (key : Key) (getter setter : Option Value) (enumerable : Bool) :
    Run Unit := do
  let (oldGetter, oldSetter) :=
    match (← ownProperty? id key).map Property.slot with
    | some (.accessor getter setter) => (getter, setter)
    | _ => (.undefined, .undefined)
  place id key
    { slot := .accessor (getter.getD oldGetter) (setter.getD oldSetter), enumerable := enumerable }

/-- Puts a member of a literal or a class into its object. -/
def placeMember (r : Runner) (frame : Frame) (id : Nat) (enumerable : Bool) (member : Member) :
    Run Unit := do
  match member with
  | .field (.fixed text) value =>
      let held ← r.eval frame value
      if text = Units.ofString "__proto__" then
        match held with
        | .object prototype => update id fun object => { object with prototype := some prototype }
        | .null => update id fun object => { object with prototype := none }
        | _ => return ()
      else place id (.ofUnits text) (.plain held)
  | .field key value =>
      let key ← propertyKey r frame key
      let held ← r.eval frame value
      if let .object made := held then
        if isNameless value then
          place made (.ofString "name") (.readOnly (.text (← nameOfKey key)))
      place id key (.plain held)
  | .shorthand name => place id (.ofUnits name) (.plain (← readVariable r.call frame.scope name))
  | .method key code =>
      let key ← propertyKey r frame key
      let method ← methodValue frame id "" key code
      place id key { slot := .value method true, enumerable := enumerable }
  | .getter key code =>
      let key ← propertyKey r frame key
      placeAccessor id key (some (← methodValue frame id "get " key code)) none enumerable
  | .setter key code =>
      let key ← propertyKey r frame key
      placeAccessor id key none (some (← methodValue frame id "set " key code)) enumerable
  | .spread value =>
      let held ← r.eval frame value
      if !held.isNothing then
        let source ← toObject held
        for key in ← ownEnumerable source do
          place id key (.plain (← getOf r.call source key))

/-- The constructor of a class that writes none: it hands its arguments on. -/
def plainConstructor (derived : Bool) : Code :=
  let arguments := Units.ofString "args"
  if derived then
    .mk [] .classDerived .inherited [] (some arguments)
      [.expression (.superCall [.spread (.target (.name arguments))])] {}
  else .mk [] .classBase .inherited [] none [] {}

def withForm (form : FunctionForm) (id : Units) : Code → Code
  | .mk _ _ strictness parameters rest body captured =>
      .mk id form strictness parameters rest body captured

/-- A class: its constructor, with its members on the prototype of its objects. -/
def classValue (r : Runner) (frame : Frame) : ClassCode → Run Value
  | .mk id base constructor members statics => do
      let scope ← newScope frame.scope none
      if !id.isEmpty then declare scope ⟨id, none, .never, frame.captured.holds id⟩
      let inner := { frame with scope := scope, strict := true }
      let (parent, prototypeParent) ←
        match base with
        | none => pure (some functionPrototype, some objectPrototype)
        | some base =>
            match ← r.eval inner base with
            | .null => pure (some functionPrototype, none)
            | .object parent =>
                if !(← isConstructor parent) then
                  wrongType "superclass must be a constructor"
                match ← getOf r.call parent .prototype with
                | .object prototype => pure (some parent, some prototype)
                | .null => pure (some parent, none)
                | _ => wrongType "superclass prototype must be an object or null"
            | _ => wrongType "superclass must be a constructor"
      let prototype ← allocate { prototype := prototypeParent }
      let form := if base.isSome then FunctionForm.classDerived else .classBase
      let code := withForm form id (constructor.getD (plainConstructor base.isSome))
      let made ← newFunction code id scope (some prototype) parent
      place made .prototype (.fixed (.object prototype))
      place prototype (.ofString "constructor") (.hidden (.object made))
      members.forM (placeMember r inner prototype false)
      statics.forM (placeMember r inner made false)
      if !id.isEmpty then settle scope id (.object made)
      return .object made

/-! ### Expressions -/

/-- A list literal; a place left empty has no property. -/
def listValue (r : Runner) (frame : Frame) (parts : List (Option Item)) : Run Value := do
  let values ← parts.mapM fun part => do
    match part with
    | none => return [none]
    | some item => return (← items r frame [item]).map some
  let values := values.flatten
  let entries := values.zipIdx.filterMap fun (value, index) =>
    value.map fun value => (Key.index index, Property.plain value)
  return .object (← allocate
    { prototype := some listPrototype
      kind := .list values.length false
      properties := ⟨entries.toArray⟩ })

def objectValue (r : Runner) (frame : Frame) (members : List Member) : Run Value := do
  let id ← newObject
  members.forM (placeMember r frame id true)
  return .object id

/-- The function that a call calls, and what it is called on. -/
def calleeOf (r : Runner) (frame : Frame) : Expr → Run (Value × Value)
  | .target (.member object key) => do
      let reference ← reference r frame (.member object key)
      match reference with
      | .member object _ => return (← readReference r frame reference, object)
      | .name _ => return (.undefined, .undefined)
  | .superMember key => do
      let key ← propertyKey r frame key
      let this ← readThis frame.scope
      match ← superObject frame with
      | .object id => return (← read r.call this ((← find? id key).map Prod.snd), this)
      | _ => return (.undefined, this)
  | callee => return (← r.eval frame callee, .undefined)

/-- Calls the constructor of the parent class for the object that is being made. -/
def superCall (r : Runner) (frame : Frame) (arguments : List Item) : Run Value := do
  match ← receiver? frame.scope with
  | some (scope, receiver) =>
      let some maker := receiver.maker | fail .syntaxError "'super' keyword unexpected here"
      let some parent := (← object receiver.callee).prototype
        | wrongType "super constructor is not a constructor"
      let arguments ← items r frame arguments
      if !(← isConstructor parent) then wrongType "super constructor is not a constructor"
      let made ← r.apply parent .undefined arguments (some maker)
      if receiver.value.isSome then
        fail .referenceError "super constructor may only be called once"
      changeScope scope fun held =>
        { held with receiver := some { receiver with value := some made } }
      return made
  | none => fail .syntaxError "'super' keyword unexpected here"

def deleteValue (r : Runner) (frame : Frame) : Expr → Run Value
  | .target (.name id) => do
      match ← findVariable? frame.scope id with
      | some _ => return .bool false
      | none => return .bool (← remove globalObject (.ofUnits id))
  | .target (.member object key) => do
      match ← reference r frame (.member object key) with
      | .member object key =>
          let removed ← remove (← toObject object) key
          if !removed && frame.strict then wrongType "cannot delete property"
          return .bool removed
      | .name _ => return .bool true
  | operand => do
      let _ ← r.eval frame operand
      return .bool true

/-- `typeof` of a name that stands for nothing is no error. -/
def kindOf (r : Runner) (frame : Frame) (operand : Expr) : Run Value := do
  let value ←
    match operand with
    | .target (.name id) => pure ((← valueOf? r.call frame.scope id).getD .undefined)
    | operand => r.eval frame operand
  return .ofString (← kindName value)

def stepValue (r : Runner) (frame : Frame) (target : Target) (up first : Bool) : Run Value := do
  let reference ← reference r frame target
  let old ← toNumber r.call (← readReference r frame reference)
  let new := if up then old + 1.0 else old - 1.0
  writeReference r frame reference (.number new)
  return .number (if first then new else old)

/-- Whether a logical operator is settled by its left operand. -/
def settles (op : LogicalOp) (left : Value) : Bool :=
  match op with
  | .and => !toBool left
  | .or => toBool left
  | .coalesce => !left.isNothing

def evaluate (r : Runner) (frame : Frame) (expr : Expr) : Run Value := do
  match expr with
  | .this => readThis frame.scope
  | .null => return .null
  | .bool value => return .bool value
  | .number value => return .number value
  | .text value => return .text value
  | .template first parts =>
      let values ← parts.mapM fun (value, after) => return (← r.eval frame value, after)
      let texts ← values.mapM fun (value, after) => return (← toText r.call value) ++ after
      return .text (first ++ texts.flatten)
  | .pattern body flags => newPattern body flags patternPrototype
  | .array parts => listValue r frame parts
  | .object members => objectValue r frame members
  | .function true code => boundFunction frame code
  | .function false code => functionValue frame code
  | .classOf code => classValue r frame code
  | .target target => readReference r frame (← reference r frame target)
  | .superCall arguments => superCall r frame arguments
  | .superMember key => return (← calleeOf r frame (.superMember key)).1
  | .call callee arguments =>
      let (function, receiver) ← calleeOf r frame callee
      r.call function receiver (← items r frame arguments)
  | .make callee arguments =>
      let callee ← r.eval frame callee
      r.construct callee (← items r frame arguments)
  | .unary .typeOf operand => kindOf r frame operand
  | .unary op operand => unary r.call op (← r.eval frame operand)
  | .delete operand => deleteValue r frame operand
  | .step target up first => stepValue r frame target up first
  | .binary op left right =>
      let left ← r.eval frame left
      binary r.call op left (← r.eval frame right)
  | .logical op left right =>
      let left ← r.eval frame left
      if settles op left then return left else r.eval frame right
  | .choice condition yes no =>
      if toBool (← r.eval frame condition) then r.eval frame yes else r.eval frame no
  | .assign target value =>
      let reference ← openReference r frame target
      let value ← r.eval frame value
      writeReference r frame (← reference.close r) value
      return value
  | .assignWith op target value =>
      let reference ← reference r frame target
      let old ← readReference r frame reference
      let value ← binary r.call op old (← r.eval frame value)
      writeReference r frame reference value
      return value
  | .assignUnless op target value =>
      let reference ← reference r frame target
      let old ← readReference r frame reference
      if settles op old then return old
      let value ← r.eval frame value
      writeReference r frame reference value
      return value
  | .sequence first second =>
      let _ ← r.eval frame first
      r.eval frame second

end Runner

end Stencil.Script
