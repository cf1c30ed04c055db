import Stencil.Proofs.Engine.Bootstrap
import Stencil.View.Render

/-!
What a render comes to, by the answer of the provider. A render that gets an engine is one call on
that engine; one that gets none leaves the engines alone.
-/

namespace Stencil

namespace View

variable {ε : Type}

def respond (settings : Resolved) (text : String) : Response :=
  ⟨settings.contentType, settings.outputCharset.encode text.toList, settings.outputCharset.output⟩

variable [ScriptEngine ε]

def invoke (settings : Resolved) (state : ε) (arguments : List Json) : Reply ε String :=
  match settings.renderObject with
  | some receiver => ScriptEngine.callMethod state receiver settings.renderFunction arguments
  | none => ScriptEngine.callFunction state settings.renderFunction arguments

def answered (url : String) : Except ScriptError String → Except ViewError String
  | .error cause => .error (.rendering url (.script cause))
  | .ok text => .ok text

theorem call_eq (settings : Resolved) (engine : EngineHandle) (arguments : List Json)
    (host : Host ε) (state : ε) (found : host.engines[engine.id]? = some state) :
    ∃ noted, call settings engine arguments host =
      ((invoke settings state arguments).answer,
        host.withEngine engine.id (invoke settings state arguments).engine noted) := by
  unfold call invoke
  cases settings.renderObject with
  | some receiver =>
      exact host.command_eq engine
        (fun held => ScriptEngine.callMethod held receiver settings.renderFunction arguments)
        state found
  | none =>
      exact host.command_eq engine
        (fun held => ScriptEngine.callFunction held settings.renderFunction arguments) state found

/-! ### Rendering to a text -/

theorem renderText_unread (view : View ε) (context : RenderContext)
    (model : List (String × Json)) (host : Host ε) (fault : ViewError)
    (unread : view.template host.files = .error fault) :
    view.renderText context model host =
      ⟨.error (.rendering view.url fault), view,
        host.report (.renderFailed view.url (.rendering view.url fault))⟩ := by
  unfold renderText run
  rw [unread]

theorem renderText_unserved (view : View ε) (context : RenderContext)
    (model : List (String × Json)) (host after : Host ε) (template : String)
    (provider : Provider ε) (fault : ViewError) (read : view.template host.files = .ok template)
    (unserved : view.provider.engine context host = (.error fault, provider, after)) :
    view.renderText context model host =
      ⟨.error (.rendering view.url fault), { view with provider := provider },
        after.report (.renderFailed view.url (.rendering view.url fault))⟩ := by
  unfold renderText run View.engine
  simp only [read, unserved]

theorem renderText_served (view : View ε) (context : RenderContext)
    (model : List (String × Json)) (host after : Host ε) (template : String)
    (provider : Provider ε) (engine : EngineHandle) (state : ε)
    (read : view.template host.files = .ok template)
    (served : view.provider.engine context host = (.ok engine, provider, after))
    (found : after.engines[engine.id]? = some state) :
    ∃ noted, view.renderText context model host =
      ⟨answered view.url
          (invoke view.settings state [.string template, .ofMembers model]).answer,
        { view with provider := provider },
        after.withEngine engine.id
          (invoke view.settings state [.string template, .ofMembers model]).engine noted⟩ := by
  obtain ⟨noted, called⟩ :=
    call_eq view.settings engine [.string template, .ofMembers model] after state found
  unfold renderText run View.engine
  simp only [read, served, called]
  cases (invoke view.settings state [.string template, .ofMembers model]).answer with
  | ok text => exact ⟨noted, rfl⟩
  | error cause =>
      refine ⟨noted ++ [.reported (.renderFailed view.url (.rendering view.url (.script cause)))], ?_⟩
      simp only [Host.withEngine_report]
      rfl

/-- A render leaves everything of a view as it is but its engines. -/
theorem renderText_view (view : View ε) (context : RenderContext) (host : Host ε)
    (model : List (String × Json)) :
    (view.renderText context model host).view = view ∨
      (view.renderText context model host).view =
        { view with provider := (view.provider.engine context host).2.1 } := by
  unfold renderText run View.engine
  cases view.template host.files with
  | error fault => exact Or.inl rfl
  | ok text =>
      right
      rcases view.provider.engine context host with ⟨answer, provider, last⟩
      cases answer with
      | error fault => rfl
      | ok engine =>
          dsimp only
          rcases call view.settings engine [.string text, .ofMembers model] last with ⟨reply, after⟩
          cases reply <;> rfl

/-! ### Rendering to a response -/

/-- A response takes every text, so a render to one answers as a render to a text does. -/
theorem render_eq (view : View ε) (context : RenderContext) (model : List (String × Json))
    (host : Host ε) :
    ∃ events : List Event, view.render context model host =
      ⟨(view.renderText context model host).answer.map (respond view.settings),
        (view.renderText context model host).view,
        events.foldl Host.report (view.renderText context model host).host⟩ := by
  unfold render renderTo
  rcases view.renderText context model host with ⟨answer, after, last⟩
  cases answer with
  | error fault => exact ⟨[], rfl⟩
  | ok text => exact ⟨_, rfl⟩

end View

end Stencil
