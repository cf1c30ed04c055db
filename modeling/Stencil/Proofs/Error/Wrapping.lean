import Stencil.Error.Context

/-!
Errors that wrap another one. `ViewError.Wraps` says that an error wraps its cause once, for one view,
and what it then tells of itself.
-/

namespace Stencil.ViewError

def isRendering : ViewError → Bool
  | .rendering _ _ => true
  | _ => false

theorem rootCause_eq_self (error : ViewError) (bare : error.isRendering = false) :
    error.rootCause = error := by
  cases error with
  | rendering url source => cases bare
  | configuration _ | resourceNotFound _ | scriptLoad _ _ | script _ | file _ => rfl

theorem code_ne_renderError (error : ViewError) (bare : error.isRendering = false) :
    error.code ≠ .renderError := by
  cases error with
  | rendering url source => cases bare
  | script cause => cases cause <;> nofun
  | configuration _ | resourceNotFound _ | scriptLoad _ _ | file _ => nofun

/-- An error that wraps a cause once, with the address of a view, and what it tells of both. -/
structure Wraps (error : ViewError) (url : String) (source : ViewError) : Prop where
  wrapped : error = .rendering url source
  bare : source.isRendering = false
  context : error.context =
    ⟨.renderError, .error, "Failed to render template " ++ url ++ ": " ++ source.message,
      some source.code⟩
  cause : source.code ≠ .renderError

theorem wraps (url : String) (source : ViewError) (bare : source.isRendering = false) :
    (rendering url source).Wraps url source where
  wrapped := rfl
  bare := bare
  context := by
    have told : (rendering url source).cause = some source.code := by
      change some source.rootCause.code = some source.code
      rw [source.rootCause_eq_self bare]
    unfold ViewError.context
    rw [told]
    rfl
  cause := source.code_ne_renderError bare

end Stencil.ViewError
