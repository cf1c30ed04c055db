import Stencil.Engine.Provider
import Stencil.Resource.SearchPath
import Stencil.Settings.Resolved
import Stencil.View.Environment

/-!
Views and how they are built. `ViewBuilder.plan` decides everything that needs no engine: the
address of the template, the settings and the loader. `ViewBuilder.build` then gets the engine.
-/

namespace Stencil

/-- A template with the settings, the loader and the engines it is rendered with. -/
structure View (ε : Type) where
  url : String
  settings : Resolved
  loader : Loader
  provider : Provider ε

namespace View

variable {ε : Type}

def exists? (view : View ε) (files : FileSystem) : Bool :=
  (view.loader.get files view.url).exists? files

def debug (view : View ε) : String :=
  Text.showRecord "ScriptTemplateView"
    [("url", Text.quote view.url), ("config", view.settings.debug),
      ("shared_engine", Text.showBool view.provider.isShared)]

end View

/-- What a view is built from. Unset settings fall back on those of the environment; a loader that
is set is used as it is. -/
structure ViewBuilder where
  url : Option String := none
  settings : Settings := {}
  loader : Option Loader := none

/-- A view that only lacks its engine. -/
structure ViewPlan where
  url : String
  settings : Resolved
  loader : Loader
  events : List Event

namespace ViewPlan

def bootstrap (plan : ViewPlan) : Bootstrap :=
  ⟨plan.settings.scripts, plan.loader, plan.settings.charset⟩

variable {ε : Type} [ScriptEngine ε]

def provideInstance (plan : ViewPlan) (engine : EngineHandle) (host : Host ε) :
    Except ViewError (Provider ε) × Host ε :=
  Provider.shared engine plan.bootstrap host

def provideShared (plan : ViewPlan) (name : String) (factory : Factory ε) (host : Host ε) :
    Except ViewError (Provider ε) × Host ε :=
  match host.make factory with
  | (.error cause, host) => (.error (.configuration (.engine name cause)), host)
  | (.ok engine, host) => Provider.shared engine plan.bootstrap host

def provide (plan : ViewPlan) (registry : Registry ε) (host : Host ε) :
    Except ViewError (Provider ε) × Host ε :=
  match plan.settings.engine with
  | .instance engine => plan.provideInstance engine host
  | .named name =>
      match registry.find? name with
      | none => (.error (.configuration (.unknownEngine name)), host)
      | some factory =>
          if plan.settings.isShared then plan.provideShared name factory host
          else (.ok (.perContext factory plan.bootstrap), host)

end ViewPlan

namespace ViewBuilder

variable {ε : Type}

/-- The loader of a view, and what is reported about it. -/
def findLoader (builder : ViewBuilder) (environment : Environment ε) (files : FileSystem)
    (path : String) : Except ViewError (Loader × List Event) :=
  match builder.loader with
  | some loader => .ok (loader, [])
  | none =>
      match environment.loader.searchRoots files path with
      | .error fault => .error fault
      | .ok roots => .ok (environment.loader.withRoots roots, [Loader.searchEvent path roots])

def plan (builder : ViewBuilder) (environment : Environment ε) (files : FileSystem) :
    Except ViewError ViewPlan :=
  match builder.url.filter (fun url => !url.isEmpty) with
  | none => .error (.configuration .noUrl)
  | some url =>
      match environment.template with
      | .error fault => .error (.configuration fault)
      | .ok template =>
          match (builder.settings.withFallback template).resolve with
          | .error fault => .error (.configuration fault)
          | .ok settings =>
              match builder.findLoader environment files settings.loaderPath with
              | .error fault => .error fault
              | .ok (loader, events) => .ok ⟨url, settings, loader, events⟩

variable [ScriptEngine ε]

/-- Builds a view, which makes and bootstraps its engine unless each context gets its own. -/
def build (builder : ViewBuilder) (environment : Environment ε) (host : Host ε) :
    Except ViewError (View ε) × Host ε :=
  match builder.plan environment host.files with
  | .error fault => (.error fault, host)
  | .ok plan =>
      match plan.provide environment.registry (plan.events.foldl Host.report host) with
      | (.error fault, host) => (.error fault, host)
      | (.ok provider, host) =>
          (.ok ⟨plan.url, plan.settings, plan.loader, provider⟩,
            host.report (.viewReady plan.url plan.settings.engine.debug provider.isShared
              plan.settings.scripts.length))

end ViewBuilder

end Stencil
