import Stencil.Script.Builtin.Run
import Stencil.Script.Program

/-!
What calls do, and the runner that ties expressions, statements and calls together.
-/

namespace Stencil.Script

namespace Runner

open Run

/-- What a function is called on: outside strict code always an object. -/
def receiverFor (strict : Bool) (this : Value) : Run Value := do
  if strict then return this
  else if this.isNothing then return .object globalObject
  else return .object (← toObject this)

/-! ### Parameters -/

/-- The parameters that are linked with the arguments at their places. Of those with one name only
the last one is. -/
def linksFrom : Nat → List Units → List (Nat × Units)
  | _, [] => []
  | place, id :: rest =>
      let others := linksFrom (place + 1) rest
      if rest.contains id then others else (place, id) :: others

/-- The object that holds the arguments of a call. Outside strict code, and with simple parameters
only, it knows the function, and its items are the parameters. -/
def argumentsObject (scope : Nat) (code : Code) (callee : Nat) (arguments : List Value) :
    Run Value := do
  let loose := !code.strict && code.isSimple
  let links := if loose then linksFrom 0 code.parameterIds else []
  let calleeProperty :=
    if loose then Property.hidden (.object callee)
    else
      { slot := .accessor (.object refusal) (.object refusal)
        enumerable := false
        configurable := false }
  let entries := arguments.mapIdx fun index value => (Key.index index, Property.plain value)
  return .object (← allocate
    { prototype := some objectPrototype
      kind := .arguments scope (links.filter (fun link => link.1 < arguments.length))
      properties :=
        ⟨(entries ++ [(Key.length, Property.hidden (.ofNat arguments.length)),
          (Key.ofString "callee", calleeProperty)]).toArray⟩ })

/-- Gives the parameters their arguments or defaults. -/
def bindParameters (r : Runner) (frame : Frame) : List Parameter → List Value → Run Unit
  | [], _ => return ()
  | parameter :: rest, arguments => do
      let given := arguments.headD .undefined
      let value ←
        match parameter.default with
        | some default => if given.isUndefined then r.eval frame default else pure given
        | none => pure given
      settle frame.scope parameter.id value
      bindParameters r frame rest arguments.tail

/-- Declares the parameters of a function and gives them their values. -/
def openParameters (r : Runner) (frame : Frame) (code : Code) (callee : Nat)
    (arguments : List Value) : Run Unit := do
  if code.form != .arrow then
    let held ← argumentsObject frame.scope code callee arguments
    declare frame.scope ⟨Units.ofString "arguments", some held, .free, true⟩
  declareNames frame frame.scope (code.parameterIds.map (fun id => (id, false)))
  bindParameters r frame code.parameters arguments
  if let some rest := code.rest then
    settle frame.scope rest (← newList (arguments.drop code.parameters.length))

/-! ### Bodies -/

/-- The scope of a body. Where parameters have defaults it is not that of the parameters, but
variables of their names start with their values. -/
def bodyScope (frame : Frame) (code : Code) : Run Nat := do
  if code.parameters.all (fun parameter => parameter.default.isNone) then
    for id in listNames code.body do
      declareMissing frame.scope ⟨id, some .undefined, .free, true⟩
    return frame.scope
  else
    let inner ← newScope frame.scope none
    let outer ← scope frame.scope
    for id in listNames code.body do
      let value := (outer.find? id none).bind Variable.value
      declareMissing inner ⟨id, some (value.getD .undefined), .free, true⟩
    return inner

/-- Declares the names of a function and runs its body. -/
def runBody (r : Runner) (frame : Frame) (code : Code) (callee : Nat) (arguments : List Value) :
    Run Value := do
  openParameters r frame code callee arguments
  let scope ← bodyScope frame code
  let inner := { frame with scope := scope }
  declareNames frame scope (lexicalNames code.body)
  for function in declaredFunctions code.body do
    declare scope ⟨function.id, some (← functionValue inner function), .free, true⟩
  match ← execList r inner code.body with
  | .returned value => return value
  | _ => return .undefined

/-- What `new` answers: the object that the constructor gave back, or the one that it filled. -/
def made (form : FunctionForm) (scope : Nat) (answer : Value) : Run Value := do
  if answer.isObject then return answer
  if form = .classDerived && !answer.isUndefined then
    wrongType "derived constructor can only return an object or undefined"
  readThis scope

def applyClosure (r : Runner) (callee : Nat) (code : Code) (scope : Nat) (home : Option Nat)
    (this : Value) (arguments : List Value) (maker : Option Nat) : Run Value :=
  deeper do
    let isClass := code.form = .classBase || code.form = .classDerived
    if isClass && maker.isNone then
      wrongType "class constructor cannot be invoked without 'new'"
    let value ←
      match maker with
      | none => some <$> receiverFor code.strict this
      | some _ =>
          if code.form = .classDerived then pure none
          else
            let prototype ← prototypeFor r.call maker objectPrototype
            some <$> Value.object <$> allocate { prototype := some prototype }
    let receiver : Receiver := { value := value, callee := callee, home := home, maker := maker }
    let scope ← newScope scope (if code.form = .arrow then none else some receiver)
    let frame : Frame := { scope := scope, captured := code.captured, strict := code.strict }
    let answer ← runBody r frame code callee arguments
    setResult .undefined
    if maker.isNone then return answer else made code.form scope answer

def applyFunction (r : Runner) (callee : Nat) (this : Value) (arguments : List Value)
    (maker : Option Nat) : Run Value := do
  match (← object callee).kind with
  | .closure code scope home => applyClosure r callee code scope home this arguments maker
  | .builtin .evaluate => runCalled r (argument arguments 0)
  | .builtin function =>
      checkDepth
      runBuiltin r.call function this arguments maker
  | .bound target receiver first =>
      r.apply target receiver (first ++ arguments)
        (maker.map fun id => if id = callee then target else id)
  | _ => wrongType "not a callable function"

end Runner

/-- The runner for scripts that nest no deeper than the given number. -/
def runner : Nat → Runner
  | 0 =>
      { eval := fun _ _ => throw .tooDeep
        exec := fun _ _ => throw .tooDeep
        apply := fun _ _ _ _ => throw .tooDeep }
  | depth + 1 =>
      { eval := fun frame expr => (runner depth).evaluate frame expr
        exec := fun frame statement => (runner depth).execute frame statement
        apply := fun callee this arguments maker =>
          (runner depth).applyFunction callee this arguments maker }

end Stencil.Script
