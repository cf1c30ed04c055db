import Stencil.Engine.Registry
import Stencil.Resource.Loader
import Stencil.Settings.Basic

/-!
What all views of an application share: a loader, the engine factories, and the settings that views
fall back on, of which there has to be exactly one.
-/

namespace Stencil

structure Environment (ε : Type) where
  loader : Loader
  registry : Registry ε
  templates : List Settings := []

def Environment.template {ε : Type} (environment : Environment ε) : Except ConfigFault Settings :=
  match environment.templates with
  | [settings] => .ok settings
  | templates => .error (.templateConfigs templates.length)

end Stencil
