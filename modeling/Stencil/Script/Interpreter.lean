import Stencil.Engine.Basic
import Stencil.Script.Call
import Stencil.Script.Realm

/-!
The script engine. Sources run one after the other in one machine, whose global scope they share. A
function is called by its name as a property of the global object; a method is called on the object
that an expression stands for. What a call answers is turned into text.
-/

namespace Stencil

namespace Script

open Run

/-- How deep expressions, statements and calls may nest. -/
def nesting : Nat := 1000000

def topRunner : Runner := runner nesting

mutual

def ofJson : Json → Run Value
  | .null => return .null
  | .bool value => return .bool value
  | .number (.integer value) =>
      let magnitude := Float.ofScientific value.natAbs false 0
      return .number (if value < 0 then -magnitude else magnitude)
  | .number (.real value) => return .number value
  | .string text => return .ofString text
  | .array items => do newList (← ofItems items)
  | .object members => do newRecord (← ofMembers members)

def ofItems : List Json → Run (List Value)
  | [] => return []
  | item :: rest => do
      let value ← ofJson item
      return value :: (← ofItems rest)

def ofMembers : List (String × Json) → Run (List (Key × Value))
  | [] => return []
  | (name, value) :: rest => do
      let value ← ofJson value
      return (.ofString name, value) :: (← ofMembers rest)

end

def answerText (answer : Value) : Run (Except ScriptError String) := do
  match ← attempt (toText topRunner.call answer) with
  | .ok text => return .ok (Units.toString text)
  | .error thrown => return .error (.conversion (← showThrown thrown))

def callFound (name : String) (function receiver : Value) (arguments : List Json) :
    Run (Except ScriptError String) := do
  if function.isUndefined then return .error (.functionNotFound name)
  if !(← isFunction function) then return .error (.notCallable name)
  answerText (← topRunner.call function receiver (← ofItems arguments))

def callGlobal (name : String) (arguments : List Json) : Run (Except ScriptError String) := do
  let function ← getOf topRunner.call globalObject (.ofString name)
  callFound name function .undefined arguments

def callOn (receiver name : String) (arguments : List Json) :
    Run (Except ScriptError String) := do
  match ← topRunner.runSource receiver with
  | .object id =>
      let function ← getOf topRunner.call id (.ofString name)
      callFound (receiver ++ "." ++ name) function (.object id) arguments
  | _ => return .error (.notCallable (receiver ++ " is not an object"))

end Script

/-- The script engine: its machine between commands. -/
structure Interpreter where
  machine : Script.Machine := Script.Realm.start

namespace Interpreter

def engineName : String := "javascript"

def aliases : List String := ["js", "JavaScript", "ecmascript", "boa"]

/-- Performs a command. What it throws is an evaluation error, told after `lead`. -/
def perform {α : Type} (interpreter : Interpreter) (lead : String)
    (run : Script.Run (Except ScriptError α)) : Reply Interpreter α :=
  let reply (answer : Except ScriptError α) (machine : Script.Machine) : Reply Interpreter α :=
    { answer := answer
      engine := ⟨{ machine with console := [] }⟩
      console := machine.console.reverse }
  match run interpreter.machine with
  | .ok answer machine => reply answer machine
  | .error thrown machine =>
      match Script.Run.showThrown thrown machine with
      | .ok text machine => reply (.error (.evaluation (lead ++ text))) machine
      | .error _ machine => reply (.error (.evaluation lead)) machine

def eval (interpreter : Interpreter) (source : String) (origin : Option String) :
    Reply Interpreter Unit :=
  let lead := (origin.map (fun origin => origin ++ ": ")).getD ""
  interpreter.perform lead do
    let _ ← Script.topRunner.runSource source
    return .ok ()

def callFunction (interpreter : Interpreter) (name : String) (arguments : List Json) :
    Reply Interpreter String :=
  interpreter.perform "" (Script.callGlobal name arguments)

def callMethod (interpreter : Interpreter) (receiver name : String) (arguments : List Json) :
    Reply Interpreter String :=
  interpreter.perform "" (Script.callOn receiver name arguments)

instance : ScriptEngine Interpreter where
  name _ := engineName
  eval := eval
  callFunction := callFunction
  callMethod := callMethod

def factory (id : Nat) : Factory Interpreter where
  id := id
  name := engineName
  aliases := aliases
  make _ := .ok {}

end Interpreter

end Stencil
