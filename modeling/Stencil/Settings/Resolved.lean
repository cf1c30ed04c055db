import Stencil.Charset.Basic
import Stencil.Error.Basic
import Stencil.Settings.Basic
import Stencil.Text.Blank

/-!
Settings that were checked and completed. `Settings.resolve` names the first condition that fails,
in the order engine, sharing, render function, charset.
-/

namespace Stencil

/-- The engine of a view: one that exists, or one to be made under a name. -/
inductive EngineSource where
  | instance (engine : EngineHandle)
  | named (name : String)
  deriving DecidableEq, Repr

def EngineSource.debug : EngineSource → String
  | .instance engine => "Instance(" ++ Text.quote engine.name ++ ")"
  | .named name => "Named(" ++ Text.quote name ++ ")"

def EngineSource.isNamed : EngineSource → Bool
  | .instance _ => false
  | .named _ => true

structure Resolved where
  engine : EngineSource
  scripts : List String
  renderObject : Option String
  renderFunction : String
  charset : Charset
  outputCharset : Charset
  contentType : String
  loaderPath : String
  shared : Option Bool
  deriving DecidableEq, Repr

def Resolved.isShared (resolved : Resolved) : Bool :=
  resolved.shared != some false

namespace Settings

def defaultCharset : String := "UTF-8"

def defaultLoaderPath : String := "classpath:"

def defaultContentType (charset : Charset) : String :=
  "text/html;charset=" ++ charset.name

/-- Exactly one of an engine and a name has to be given. -/
def engineSource (settings : Settings) : Except ConfigFault EngineSource :=
  match settings.engine, settings.engineName with
  | some _, some _ => .error .bothEngines
  | none, none => .error .noEngine
  | some engine, none => .ok (.instance engine)
  | none, some name => .ok (.named name)

def visible (text : Option String) : Option String :=
  text.filter (fun held => !decide (Text.Blank held.toList))

def checkedCharset (settings : Settings) : Except ConfigFault Charset :=
  let label := settings.charset.getD defaultCharset
  match Charset.ofLabel? label with
  | some charset => .ok charset
  | none => .error (.unknownCharset label)

/-- The settings with the defaults put in, or the first thing that is wrong with them. -/
def resolve (settings : Settings) : Except ConfigFault Resolved :=
  match settings.engineSource with
  | .error fault => .error fault
  | .ok engine =>
      if settings.shared = some false ∧ engine.isNamed = false then .error .unsharedInstance
      else
        match visible settings.renderFunction with
        | none => .error .noRenderFunction
        | some renderFunction =>
            match settings.checkedCharset with
            | .error fault => .error fault
            | .ok charset =>
                .ok
                  { engine := engine
                    scripts := settings.scripts.getD []
                    renderObject := visible settings.renderObject
                    renderFunction := renderFunction
                    charset := charset
                    outputCharset := charset.output
                    contentType :=
                      settings.contentType.getD (defaultContentType charset.output)
                    loaderPath := settings.loaderPath.getD defaultLoaderPath
                    shared := settings.shared }

end Settings

namespace Resolved

def debug (resolved : Resolved) : String :=
  Text.showRecord "ResolvedRenderConfig"
    [("engine", resolved.engine.debug),
      ("scripts", Text.showList (resolved.scripts.map Text.quote)),
      ("render_object", Text.showOption Text.quote resolved.renderObject),
      ("render_function", Text.quote resolved.renderFunction),
      ("charset", resolved.charset.debug),
      ("output_charset", resolved.outputCharset.debug),
      ("content_type", Text.quote resolved.contentType),
      ("resource_loader_path", Text.quote resolved.loaderPath),
      ("shared_engine", Text.showOption Text.showBool resolved.shared)]

end Resolved

end Stencil
