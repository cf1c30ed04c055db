import Stencil.Proofs.Error.Wrapping

/-!
Errors in wrappers, however many. What an error tells of itself is told by the addresses of its wrappers
and by its root cause: its text (`message_eq`), the chain of errors that it comes from (`after_eq_iff`),
the cause in its context (`context_cause`), and whether a resource was not found
(`isResourceNotFound_iff`).
-/

namespace Stencil

/-! ### Chains of errors -/

/-- An error at any place of a chain. -/
inductive AnyError where
  | view (error : ViewError)
  | script (error : ScriptError)
  | file (error : FileError)
  deriving DecidableEq, Repr

namespace AnyError

def message : AnyError → String
  | .view error => error.message
  | .script error => error.message
  | .file error => error.message

/-- The error that this one comes from. -/
def source? : AnyError → Option AnyError
  | .view (.script cause) => some (.script cause)
  | .view (.file cause) => some (.file cause)
  | .view (.rendering _ source) => some (.view source)
  | _ => none

/-- The error so many steps down the chain. -/
def after : Nat → AnyError → Option AnyError
  | 0, error => some error
  | steps + 1, error => error.source?.bind (after steps)

end AnyError

namespace ViewError

/-- The addresses of the wrappers, from the outside in. -/
def wrappers : ViewError → List String
  | .rendering url source => url :: source.wrappers
  | _ => []

theorem wrappers_eq_nil (error : ViewError) (bare : error.isRendering = false) :
    error.wrappers = [] := by
  cases error with
  | rendering url source => cases bare
  | configuration _ | resourceNotFound _ | scriptLoad _ _ | script _ | file _ => rfl

/-- The texts of the sources are those down the chain. -/
theorem sources_eq (error : ViewError) (steps : Nat) :
    error.sources[steps]? = (AnyError.after (steps + 1) (.view error)).map AnyError.message := by
  induction error generalizing steps with
  | rendering url source ih =>
      cases steps with
      | zero => rfl
      | succ steps => exact ih steps
  | script _ | file _ => cases steps <;> rfl
  | configuration _ | resourceNotFound _ | scriptLoad _ _ => rfl

/-! ### The root cause -/

theorem rootCause_bare (error : ViewError) : error.rootCause.isRendering = false := by
  induction error with
  | rendering url source ih => exact ih
  | configuration _ | resourceNotFound _ | scriptLoad _ _ | script _ | file _ => rfl

/-- What a bare error comes from is no error of a view. -/
theorem after_bare (error : ViewError) (bare : error.isRendering = false) (steps : Nat)
    (other : ViewError) : AnyError.after (steps + 1) (.view error) ≠ some (.view other) := by
  cases error with
  | rendering url source => cases bare
  | script _ | file _ => cases steps <;> nofun
  | configuration _ | resourceNotFound _ | scriptLoad _ _ => nofun

theorem after_eq_iff (error : ViewError) (steps : Nat) :
    AnyError.after steps (.view error) = some (.view error.rootCause) ↔
      steps = error.wrappers.length := by
  induction error generalizing steps with
  | rendering url source ih =>
      cases steps with
      | zero =>
          -- A wrapper is not its own root cause.
          have apart : rendering url source ≠ source.rootCause := by
            intro same
            have bare := source.rootCause_bare
            rw [← same] at bare
            cases bare
          constructor
          · intro reached
            exact absurd (AnyError.view.inj (Option.some.inj reached)) apart
          · nofun
      | succ steps => exact (ih steps).trans Nat.succ_inj.symm
  | configuration _ | resourceNotFound _ | scriptLoad _ _ | script _ | file _ =>
      cases steps with
      | zero => exact iff_of_true rfl rfl
      | succ steps => exact iff_of_false (after_bare _ rfl steps _) nofun

/-! ### What an error tells -/

/-- What a wrapper puts in front of the text of what it wraps. -/
def lead (url : String) : String :=
  "Failed to render template " ++ url ++ ": "

theorem message_rendering (url : String) (source : ViewError) :
    (rendering url source).message = lead url ++ source.message := rfl

theorem message_eq (error : ViewError) :
    error.message = String.join (error.wrappers.map lead) ++ error.rootCause.message := by
  induction error with
  | rendering url source ih =>
      rw [message_rendering, ih, wrappers, rootCause, List.map_cons, String.join_cons,
        String.append_assoc]
  | configuration _ | resourceNotFound _ | scriptLoad _ _ | script _ | file _ =>
      rw [wrappers_eq_nil _ rfl, rootCause_eq_self _ rfl, List.map_nil, String.join_nil,
        String.empty_append]

theorem context_cause (error : ViewError) :
    error.context.cause = if error.isRendering then some error.rootCause.code else none := by
  cases error with
  | rendering url source => rfl
  | configuration _ | resourceNotFound _ | scriptLoad _ _ | script _ | file _ => rfl

theorem code_eq_resourceNotFound (error : ViewError) (bare : error.isRendering = false) :
    error.isResourceNotFound = true ↔ error.code = .resourceNotFound := by
  cases error with
  | rendering url source => cases bare
  | resourceNotFound location => exact iff_of_true rfl rfl
  | script cause => cases cause <;> exact iff_of_false nofun nofun
  | configuration _ | scriptLoad _ _ | file _ => exact iff_of_false nofun nofun

theorem isResourceNotFound_iff (error : ViewError) :
    error.isResourceNotFound = true ↔
      error.code = .resourceNotFound ∨ error.context.cause = some .resourceNotFound := by
  have inner := code_eq_resourceNotFound _ error.rootCause_bare
  unfold isResourceNotFound at inner
  rw [rootCause_eq_self _ error.rootCause_bare] at inner
  unfold isResourceNotFound
  rw [inner, context_cause]
  by_cases wrapped : error.isRendering = true
  · have own : error.code ≠ .resourceNotFound := by
      cases error with
      | rendering url source => nofun
      | configuration _ | resourceNotFound _ | scriptLoad _ _ | script _ | file _ => cases wrapped
    rw [if_pos wrapped, Option.some_inj, or_iff_right own]
  · rw [if_neg wrapped, or_iff_left nofun,
      rootCause_eq_self error (Bool.eq_false_iff.mpr wrapped)]

/-- Of every error, in as many wrappers as there may be: its root cause is no wrapper and its own root
cause; the chain of errors that it comes from, whose texts are its sources, is at the root cause after
as many steps as there are wrappers, and at no other place; its text is what the wrappers put in front,
from the outside in, and the text of the root cause; its context names a cause exactly if it is a
wrapper, and then the code of the root cause, which is never that of a wrapper; and a resource was not
found exactly if its code or its cause says so. -/
theorem observers_agree (error : ViewError) :
    error.rootCause.isRendering = false ∧
      error.rootCause.rootCause = error.rootCause ∧
      (∀ steps, AnyError.after steps (.view error) = some (.view error.rootCause) ↔
        steps = error.wrappers.length) ∧
      (∀ steps, error.sources[steps]? =
        (AnyError.after (steps + 1) (.view error)).map AnyError.message) ∧
      error.message = String.join (error.wrappers.map fun url =>
        "Failed to render template " ++ url ++ ": ") ++ error.rootCause.message ∧
      error.context.message = error.message ∧
      (error.context.cause = none ↔ error.isRendering = false) ∧
      error.context.cause = (if error.isRendering then some error.rootCause.code else none) ∧
      error.rootCause.code ≠ .renderError ∧
      (error.isResourceNotFound = true ↔
        error.code = .resourceNotFound ∨ error.context.cause = some .resourceNotFound) := by
  have bare := error.rootCause_bare
  refine ⟨bare, rootCause_eq_self _ bare, error.after_eq_iff, error.sources_eq, error.message_eq, rfl,
    ?_, error.context_cause, code_ne_renderError _ bare, error.isResourceNotFound_iff⟩
  rw [context_cause]
  cases error.isRendering with
  | true => exact iff_of_false nofun nofun
  | false => exact iff_of_true rfl rfl

example :
    let error := rendering "a" (rendering "b" (.script (.functionNotFound "render")))
    error.message = "Failed to render template a: Failed to render template b: " ++
        "Script error: Function not found: render" ∧
      error.context.cause = some .functionNotFound := by
  decide +kernel

end ViewError

end Stencil
