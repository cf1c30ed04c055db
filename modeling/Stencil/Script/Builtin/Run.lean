import Stencil.Script.Builtin.Error
import Stencil.Script.Builtin.Function
import Stencil.Script.Builtin.Json
import Stencil.Script.Builtin.List
import Stencil.Script.Builtin.Number
import Stencil.Script.Builtin.Text
import Stencil.Script.Builtin.Uri

/-!
Calling a function that comes with the language.
-/

namespace Stencil.Script.Run

/-- Writes its arguments as a line, with spaces between them. -/
def writeConsole (call : Caller) (warning : Bool) (arguments : List Value) : Run Value := do
  let texts ← arguments.mapM fun value => return Units.toString (← toText call value)
  writeLine (if warning then .warn else .debug) (String.intercalate " " texts)
  return .undefined

/-- Runs a function on a receiver. `maker` is the constructor that `new` was used on. -/
def runBuiltin (call : Caller) (function : Builtin) (this : Value) (arguments : List Value)
    (maker : Option Nat) : Run Value :=
  match function with
  | .object function => runObject call function this arguments maker
  | .function function => runFunction call function this arguments
  | .list function => runList call function this arguments maker
  | .text function => runText call function this arguments maker
  | .number function => runNumber call function this arguments maker
  | .bool function => runBool call function this arguments maker
  | .symbol function => runSymbol call function this arguments
  | .math function => runMath call function arguments
  | .json function => runJson call function arguments
  | .pattern function => runPattern call function this arguments maker
  | .error kind => makeError call kind arguments maker
  | .describeError => describeError call this
  | .uri function => runUri call function arguments
  | .console warning => writeConsole call warning arguments
  | .evaluate => return .undefined

end Stencil.Script.Run
