import Stencil.Engine.Host
import Stencil.Resource.Loader

/-!
Bootstrap scripts. `Bootstrap.load` runs them into an engine in their order and stops at the first
one that is missing, cannot be read, or fails.
-/

namespace Stencil

structure Bootstrap where
  scripts : List String
  loader : Loader
  charset : Charset

namespace Bootstrap

def source (bootstrap : Bootstrap) (files : FileSystem) (location : String) :
    Except ViewError String :=
  let resource := bootstrap.loader.get files location
  if resource.exists? files then
    match resource.readText files bootstrap.charset with
    | .ok text => .ok text
    | .error cause => .error (.scriptLoad location (.unreadable cause))
  else .error (.resourceNotFound location)

variable {ε : Type} [ScriptEngine ε]

def loadOne (bootstrap : Bootstrap) (engine : EngineHandle) (host : Host ε) (location : String) :
    Except ViewError Unit × Host ε :=
  match bootstrap.source host.files location with
  | .error fault => (.error fault, host.lookUp location)
  | .ok text =>
      match (host.lookUp location).eval engine text (some location) with
      | (.error cause, host) => (.error (.scriptLoad location (.failed cause)), host)
      | (.ok _, host) => (.ok (), host.report (.scriptLoaded location engine.name))

/-- Runs scripts into an engine, one after another. -/
def loadAll (bootstrap : Bootstrap) (engine : EngineHandle) :
    Host ε → List String → Except ViewError Unit × Host ε
  | host, [] => (.ok (), host)
  | host, location :: rest =>
      match bootstrap.loadOne engine host location with
      | (.error fault, host) => (.error fault, host)
      | (.ok _, host) => bootstrap.loadAll engine host rest

def load (bootstrap : Bootstrap) (engine : EngineHandle) (host : Host ε) :
    Except ViewError Unit × Host ε :=
  bootstrap.loadAll engine host bootstrap.scripts

end Bootstrap

end Stencil
