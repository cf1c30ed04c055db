import Stencil.Engine.Basic

/-!
An engine that runs nothing. It knows the names of its functions and methods, keeps every source and
every call, and answers a call with its name and its arguments in writing.
-/

namespace Stencil

/-- The names an engine answers to, and whether it refuses every source. -/
structure Callables where
  functions : List String := []
  methods : List (String × List String) := []
  failEval : Bool := false
  deriving DecidableEq, Repr

/-- A call that was answered. -/
structure Invocation where
  receiver : Option String
  name : String
  arguments : List Json

structure Recorder where
  callables : Callables
  evaluated : List String := []
  invocations : List Invocation := []

namespace Recorder

def engineName : String := "recording"

/-- A string as it is, any other value as JSON text. -/
def show? : Json → String
  | .string text => text
  | value => value.render

def Invocation.answer (invocation : Invocation) : String :=
  invocation.name ++ "(" ++ String.intercalate ", " (invocation.arguments.map show?) ++ ")"

def accept (recorder : Recorder) (invocation : Invocation) : Reply Recorder String :=
  { answer := .ok (Invocation.answer invocation)
    engine := { recorder with invocations := recorder.invocations ++ [invocation] } }

def eval (recorder : Recorder) (source : String) (origin : Option String) : Reply Recorder Unit :=
  if recorder.callables.failEval then
    { answer := .error (.evaluation (origin.getD "<eval>" ++ ": eval disabled"))
      engine := recorder }
  else
    { answer := .ok ()
      engine := { recorder with evaluated := recorder.evaluated ++ [source] } }

def callFunction (recorder : Recorder) (name : String) (arguments : List Json) :
    Reply Recorder String :=
  if recorder.callables.functions.contains name then recorder.accept ⟨none, name, arguments⟩
  else { answer := .error (.functionNotFound name), engine := recorder }

def callMethod (recorder : Recorder) (receiver name : String) (arguments : List Json) :
    Reply Recorder String :=
  match recorder.callables.methods.lookup receiver with
  | none =>
      { answer := .error (.evaluation (receiver ++ " is not defined")), engine := recorder }
  | some names =>
      if names.contains name then recorder.accept ⟨some receiver, name, arguments⟩
      else
        { answer := .error (.functionNotFound (receiver ++ "." ++ name)), engine := recorder }

instance : ScriptEngine Recorder where
  name _ := engineName
  eval := eval
  callFunction := callFunction
  callMethod := callMethod

/-- A factory of recorders under the given names. With a `refusal` it makes none. -/
def factory (id : Nat) (name : String) (aliases : List String) (callables : Callables)
    (refusal : Option String) : Factory Recorder where
  id := id
  name := name
  aliases := aliases
  make _ :=
    match refusal with
    | some message => .error (.unavailable message)
    | none => .ok { callables := callables }

end Recorder

end Stencil
