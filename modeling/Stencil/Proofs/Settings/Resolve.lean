import Stencil.Settings.Resolved

/-!
Resolved settings read backwards. `resolve_eq_ok_iff` gives all that resolving went through; the
other lemmas are what builds of views need of it.
-/

namespace Stencil

namespace Settings

theorem resolve_eq_ok_iff (settings : Settings) (resolved : Resolved) :
    settings.resolve = .ok resolved ↔
      ∃ engine renderFunction charset, settings.engineSource = .ok engine ∧
        ¬ (settings.shared = some false ∧ engine.isNamed = false) ∧
        visible settings.renderFunction = some renderFunction ∧
        settings.checkedCharset = .ok charset ∧
        resolved =
          { engine := engine
            scripts := settings.scripts.getD []
            renderObject := visible settings.renderObject
            renderFunction := renderFunction
            charset := charset
            outputCharset := charset.output
            contentType := settings.contentType.getD (defaultContentType charset.output)
            loaderPath := settings.loaderPath.getD defaultLoaderPath
            shared := settings.shared } := by
  unfold resolve
  cases settings.engineSource with
  | error fault => simp
  | ok engine =>
      by_cases barred : settings.shared = some false ∧ engine.isNamed = false
      · simp [barred]
      · cases visible settings.renderFunction with
        | none => simp [barred]
        | some renderFunction =>
            cases settings.checkedCharset with
            | error fault => simp [barred]
            | ok charset =>
                simp only [if_neg barred, Except.ok.injEq, Option.some.injEq,
                  exists_and_left, exists_eq_left']
                exact ⟨fun same => ⟨barred, same.symm⟩, fun same => same.2.symm⟩

variable {settings : Settings} {resolved : Resolved} (ok : settings.resolve = .ok resolved)

include ok

/-- An engine that was supplied is shared. -/
theorem isShared_of_instance (engine : EngineHandle)
    (source : resolved.engine = .instance engine) : resolved.isShared = true := by
  obtain ⟨given, _, _, _, allowed, _, _, rfl⟩ := (resolve_eq_ok_iff settings resolved).mp ok
  have supplied : given = .instance engine := source
  have unset : settings.shared ≠ some false := by
    intro off
    exact allowed ⟨off, by rw [supplied]; rfl⟩
  simpa [Resolved.isShared] using unset

/-- Settings that name an engine can be resolved without sharing as well, and nothing else changes.
-/
theorem resolve_unshared (name : String) (source : resolved.engine = .named name) :
    ({ settings with shared := some false } : Settings).resolve =
      .ok { resolved with shared := some false } := by
  obtain ⟨given, renderFunction, charset, sourced, _, function, known, rfl⟩ :=
    (resolve_eq_ok_iff settings resolved).mp ok
  have named : given = .named name := source
  have labelled : ({ settings with shared := some false } : Settings).checkedCharset =
      settings.checkedCharset := by
    simp only [checkedCharset]
  rw [resolve_eq_ok_iff]
  refine ⟨given, renderFunction, charset, sourced, ?_, function, labelled.trans known, rfl⟩
  rintro ⟨_, unnamed⟩
  rw [named] at unnamed
  cases unnamed

end Settings

end Stencil
