import Stencil.View.Basic
import Stencil.View.Response

/-!
Rendering. The template is read first, then the engine of the context is asked for, then the render
function is called with the template and the model. Every failure is wrapped once, with the address
of the view.
-/

namespace Stencil

/-- The outcome of a render: its answer, the view with its engines, and the host afterwards. -/
structure Rendered (ε α : Type) where
  answer : Except ViewError α
  view : View ε
  host : Host ε

namespace View

variable {ε : Type}

def template (view : View ε) (files : FileSystem) : Except ViewError String :=
  let resource := view.loader.get files view.url
  if resource.exists? files then
    match resource.readText files view.settings.charset with
    | .ok text => .ok text
    | .error cause => .error (.file cause)
  else .error (.resourceNotFound view.url)

variable [ScriptEngine ε]

def engine (view : View ε) (context : RenderContext) (host : Host ε) :
    Rendered ε EngineHandle :=
  let (answer, provider, host) := view.provider.engine context host
  ⟨answer, { view with provider := provider }, host⟩

def release (view : View ε) (context : RenderContext) : Bool × View ε :=
  let (found, provider) := view.provider.release context
  (found, { view with provider := provider })

/-- Calls the render function, as a method of the render object where there is one. -/
def call (settings : Resolved) (engine : EngineHandle) (arguments : List Json) (host : Host ε) :
    Except ScriptError String × Host ε :=
  match settings.renderObject with
  | some receiver => host.callMethod engine receiver settings.renderFunction arguments
  | none => host.callFunction engine settings.renderFunction arguments

def run (view : View ε) (context : RenderContext) (model : List (String × Json)) (host : Host ε) :
    Rendered ε String :=
  match view.template host.files with
  | .error fault => ⟨.error fault, view, host⟩
  | .ok template =>
      match view.engine context host with
      | ⟨.error fault, view, host⟩ => ⟨.error fault, view, host⟩
      | ⟨.ok engine, view, host⟩ =>
          match call view.settings engine [.string template, .ofMembers model] host with
          | (.error cause, host) => ⟨.error (.script cause), view, host⟩
          | (.ok text, host) => ⟨.ok text, view, host⟩

/-- The rendered text; a failure is wrapped and reported. -/
def renderText (view : View ε) (context : RenderContext) (model : List (String × Json))
    (host : Host ε) : Rendered ε String :=
  match view.run context model host with
  | ⟨.ok text, after, host⟩ => ⟨.ok text, after, host⟩
  | ⟨.error source, after, host⟩ =>
      let error := ViewError.rendering view.url source
      ⟨.error error, after, host.report (.renderFailed view.url error)⟩

/-- Renders into a sink, which is left alone when rendering fails. -/
def renderTo {σ : Type} [Sink σ] (view : View ε) (context : RenderContext)
    (model : List (String × Json)) (sink : σ) (host : Host ε) : Rendered ε Unit × σ :=
  match view.renderText context model host with
  | ⟨.error fault, after, host⟩ => (⟨.error fault, after, host⟩, sink)
  | ⟨.ok text, after, host⟩ =>
      let typed := Sink.setContentType sink view.settings.contentType
      let written := Sink.writeBody typed text view.settings.outputCharset
      let host := written.events.foldl Host.report host
      match written.answer with
      | .ok _ => (⟨.ok (), after, host⟩, written.sink)
      | .error cause =>
          (⟨.error (.rendering view.url (.file cause)), after, host⟩, written.sink)

def render (view : View ε) (context : RenderContext) (model : List (String × Json))
    (host : Host ε) : Rendered ε Response :=
  match view.renderTo context model (Response.new view.settings.outputCharset) host with
  | (⟨.ok _, view, host⟩, response) => ⟨.ok response, view, host⟩
  | (⟨.error fault, view, host⟩, _) => ⟨.error fault, view, host⟩

end View

end Stencil
