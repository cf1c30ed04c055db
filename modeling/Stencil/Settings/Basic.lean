import Stencil.Text.Quoted

/-!
Render settings. Every field may be unset; `withFallback` fills what one layer of settings leaves
unset from the next one.
-/

namespace Stencil

/-- An engine that already exists: its place among the engines of the host, and what it is called.
-/
structure EngineHandle where
  id : Nat
  name : String
  deriving DecidableEq, Repr

structure Settings where
  engine : Option EngineHandle := none
  engineName : Option String := none
  scripts : Option (List String) := none
  renderObject : Option String := none
  renderFunction : Option String := none
  charset : Option String := none
  contentType : Option String := none
  loaderPath : Option String := none
  shared : Option Bool := none
  deriving DecidableEq, Repr

namespace Settings

/-- Settings whose unset fields are taken from `fallback`. -/
def withFallback (settings fallback : Settings) : Settings where
  engine := settings.engine.or fallback.engine
  engineName := settings.engineName.or fallback.engineName
  scripts := settings.scripts.or fallback.scripts
  renderObject := settings.renderObject.or fallback.renderObject
  renderFunction := settings.renderFunction.or fallback.renderFunction
  charset := settings.charset.or fallback.charset
  contentType := settings.contentType.or fallback.contentType
  loaderPath := settings.loaderPath.or fallback.loaderPath
  shared := settings.shared.or fallback.shared

/-- Layers from the first, which counts most, to the last. -/
def merge (layers : List Settings) : Settings :=
  layers.foldl withFallback {}

def debug (settings : Settings) : String :=
  let text := Text.showOption Text.quote
  Text.showRecord "ScriptTemplateConfig"
    [("engine", text (settings.engine.map EngineHandle.name)),
      ("engine_name", text settings.engineName),
      ("scripts", Text.showOption (fun scripts => Text.showList (scripts.map Text.quote))
        settings.scripts),
      ("render_object", text settings.renderObject),
      ("render_function", text settings.renderFunction),
      ("charset", text settings.charset),
      ("content_type", text settings.contentType),
      ("resource_loader_path", text settings.loaderPath),
      ("shared_engine", Text.showOption Text.showBool settings.shared)]

end Settings

end Stencil
