import Stencil.Script.Execute
import Stencil.Script.Grammar

/-!
Whole scripts. A script first declares its names, and then runs its statements; its value is that of
the last statement that was run for its value.
-/

namespace Stencil.Script.Runner

open Run

/-- A property of the global object that no name of a script may hide. -/
def isFixedGlobal (id : Units) : Run Bool := do
  let property ← ownProperty? globalObject (.ofUnits id)
  return (← MonadState.get).globals.contains id
    || property.any (fun property => !property.configurable)

/-- Refuses a function in the place of a property that is no plain variable and stays. -/
def checkFunctionPlace (id : Units) : Run Unit := do
  match ← ownProperty? globalObject (.ofUnits id) with
  | some { slot := .value _ true, enumerable := true, .. } => return ()
  | some { configurable := false, .. } => wrongType "cannot declare global function"
  | _ => return ()

/-- Declares what a script declares globally. A script whose names clash with `let`, `const` or
`class` of an earlier one declares nothing; its own names of these kinds are there, without a value,
before they are found to clash with properties of the global object. -/
def openScript (script : Source) : Run Frame := do
  let lexical := lexicalNames script.body
  let functions := declaredFunctions script.body
  let names := listNames script.body
  let held ← scope globalScope
  let isTaken (id : Units) : Bool := (held.placeOf? id).isSome
  if (lexical.map Prod.fst ++ names ++ functions.map Code.id).any isTaken then
    fail .syntaxError "redeclaration"
  declareUnset globalScope (fun _ => true) lexical
  for (id, _) in lexical do
    if ← isFixedGlobal id then fail .syntaxError "redeclaration"
  functions.forM fun code => checkFunctionPlace code.id
  let frame : Frame :=
    { scope := ← newScriptScope
      captured := script.captured
      strict := script.strict
      records := true }
  for id in names do
    if (← ownProperty? globalObject (.ofUnits id)).isNone then
      place globalObject (.ofUnits id) { slot := .value .undefined true, configurable := false }
  for code in functions do
    place globalObject (.ofUnits code.id)
      { slot := .value (← functionValue frame code) true, configurable := false }
  modify fun machine =>
    { machine with globals := names ++ functions.map Code.id ++ machine.globals }
  return frame

/-- Runs statements for their value, one level deeper. -/
def runStatements (r : Runner) (frame : Frame) (body : List Stmt) : Run Value :=
  deeper do
    setResult .undefined
    let _ ← execList r frame body
    let value ← result
    setResult .undefined
    return value

/-- Runs a text as a script: the value of its statements. -/
def runSource (r : Runner) (source : String) : Run Value := do
  let some script := Source.ofText? source | fail .syntaxError "unexpected token"
  runStatements r (← openScript script) script.body

/-- Runs a text as a script that was called: its `var` names and functions are global, its other
names are its own. A value that is no text is its own answer. -/
def runCalled (r : Runner) (value : Value) : Run Value := do
  let .text text := value | return value
  let some script := Source.ofText? (Units.toString text)
    | fail .syntaxError "unexpected token"
  let scope ← newScope (← newScriptScope) none
  let frame : Frame :=
    { scope := scope, captured := script.captured, strict := script.strict, records := true }
  declareNames frame scope (lexicalNames script.body)
  for id in listNames script.body do
    if (← ownProperty? globalObject (.ofUnits id)).isNone then
      place globalObject (.ofUnits id) (.plain .undefined)
  for code in declaredFunctions script.body do
    place globalObject (.ofUnits code.id) (.plain (← functionValue frame code))
  runStatements r frame script.body

end Stencil.Script.Runner
