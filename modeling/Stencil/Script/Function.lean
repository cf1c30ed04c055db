import Stencil.Script.Convert
import Stencil.Script.Scope

/-!
Making functions, and the objects that constructors make.
-/

namespace Stencil.Script.Run

/-- How many parameters a function counts: those before the first with a default. -/
def Code.arity (code : Code) : Nat :=
  (code.parameters.takeWhile (fun parameter => parameter.default.isNone)).length

/-- Whether `new` makes an object for this function to fill. -/
def makesObjects : FunctionForm → Bool
  | .plain => true
  | .classBase => true
  | .classDerived => true
  | _ => false

/-- A function over a scope, with a name to be called by. Those that make objects come with a
prototype for these. -/
def newFunction (code : Code) (name : Units) (scope : Nat) (home : Option Nat)
    (parent : Option Nat) : Run Nat := do
  let id ← allocate
    { prototype := parent
      kind := .closure code scope home
      properties := .ofList
        [(.length, .readOnly (.ofNat (Code.arity code))),
          (Key.ofString "name", .readOnly (.text name))] }
  if code.form = .plain then
    let prototype ← newObject
    place prototype (Key.ofString "constructor") (.hidden (.object id))
    place id .prototype
      { slot := .value (.object prototype) true, enumerable := false, configurable := false }
  return id

/-- Whether `new` can be used on a value. -/
def isConstructor (id : Nat) : Run Bool := do
  match (← object id).kind with
  | .closure code _ _ => return makesObjects code.form
  | .builtin function => return function.isConstructor
  | .bound target _ _ =>
      match (← object target).kind with
      | .closure code _ _ => return makesObjects code.form
      | .builtin function => return function.isConstructor
      | _ => return false
  | _ => return false

/-- The prototype that the objects of a constructor get. -/
def prototypeFor (call : Caller) (maker : Option Nat) (usual : Nat) : Run Nat := do
  match maker with
  | none => return usual
  | some id =>
      match ← getOf call id .prototype with
      | .object prototype => return prototype
      | _ => return usual

end Stencil.Script.Run
