import Stencil.Script.Function
import Stencil.Script.Grammar

/-!
The functions on functions.
-/

namespace Stencil.Script.Run

/-- The function that the text of its parameters and of its body make, in the global scope. -/
def functionOf (parameters body : Units) : Run Value := do
  let source := "(function anonymous(" ++ Units.toString parameters ++ "\n) \x7b\n"
    ++ Units.toString body ++ "\n\x7d)"
  match Source.ofText? source with
  | some ⟨_, [.expression (.function _ code)], _⟩ =>
      return .object (← newFunction code code.id (← newScriptScope) none
        (some functionPrototype))
  | _ => fail .syntaxError "invalid function source"

def describeFunction (call : Caller) (id : Nat) : Run Value := do
  let show? (name : Units) : Value :=
    .text (Units.ofString "function " ++ name ++ Units.ofString "() \x7b [native code] \x7d")
  match (← object id).kind with
  | .closure code _ _ => return show? code.id
  | .builtin _ => return show? (← toText call (← getOf call id (.ofString "name")))
  | .bound .. => return show? []
  | _ => wrongType "not a function"

def runFunction (call : Caller) (function : CallFunction) (this : Value)
    (arguments : List Value) : Run Value := do
  match function with
  | .nothing => return .undefined
  | .refuse => wrongType "'caller', 'callee', and 'arguments' properties may not be accessed"
  | .make =>
      let texts ← arguments.mapM (toText call)
      functionOf (List.intercalate (Units.ofString ",") texts.dropLast) (texts.getLast?.getD [])
  | .call => call this (argument arguments 0) (arguments.drop 1)
  | .apply =>
      match argument arguments 1 with
      | .object id => call this (argument arguments 0) (← itemsOf call id)
      | value =>
          if value.isNothing then call this (argument arguments 0) []
          else wrongType "arguments must be an object"
  | .bind =>
      let .object id := this | wrongType "cannot bind a value that is no function"
      if !(← isFunction this) then wrongType "cannot bind a value that is no function"
      let name ← get call this (.ofString "name")
      let name :=
        match name with
        | .text text => text
        | _ => []
      let length ← lengthOf call id
      return .object (← allocate
        { prototype := (← object id).prototype
          kind := .bound id (argument arguments 0) (arguments.drop 1)
          properties := .ofList
            [(.length, .readOnly (.ofNat (length - (arguments.length - 1)))),
              (Key.ofString "name", .readOnly (.text (Units.ofString "bound " ++ name)))] })
  | .describe =>
      match this with
      | .object id => describeFunction call id
      | _ => wrongType "not a function"

end Stencil.Script.Run
