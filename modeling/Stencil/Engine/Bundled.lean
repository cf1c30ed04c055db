import Stencil.Engine.Recorder
import Stencil.Engine.Registry
import Stencil.Script.Interpreter

/-!
The engines that come with the library, as one type, and the factories that are registered when
nothing else is asked for.
-/

namespace Stencil

inductive Bundled where
  | recorder (engine : Recorder)
  | script (engine : Interpreter)

namespace Bundled

def recorder? : Bundled → Option Recorder
  | .recorder engine => some engine
  | .script _ => none

instance : ScriptEngine Bundled where
  name
    | .recorder engine => ScriptEngine.name engine
    | .script engine => ScriptEngine.name engine
  eval
    | .recorder engine, source, origin =>
        (ScriptEngine.eval engine source origin).map .recorder
    | .script engine, source, origin =>
        (ScriptEngine.eval engine source origin).map .script
  callFunction
    | .recorder engine, name, arguments =>
        (ScriptEngine.callFunction engine name arguments).map .recorder
    | .script engine, name, arguments =>
        (ScriptEngine.callFunction engine name arguments).map .script
  callMethod
    | .recorder engine, receiver, name, arguments =>
        (ScriptEngine.callMethod engine receiver name arguments).map .recorder
    | .script engine, receiver, name, arguments =>
        (ScriptEngine.callMethod engine receiver name arguments).map .script

def scriptFactory (id : Nat) : Factory Bundled :=
  (Interpreter.factory id).map .script

def registry (id : Nat) : Registry Bundled :=
  ({} : Registry Bundled).register (scriptFactory id)

end Bundled

end Stencil
