import Stencil.Engine.Recorder
import Stencil.Proofs.Engine.Provider
import Stencil.Proofs.Error.Wrapping
import Stencil.Proofs.Resource.Joined
import Stencil.Proofs.View.Sinks
import Stencil.View.Resolver

/-!
Where the errors of views come from. What builds a view or finds it an engine answers with errors that
wrap nothing, and so does everything that a render goes through (`View.Stops`); a render wraps the error
that stopped it, once.
-/

namespace Stencil

variable {ε : Type}

/-! ### Engines -/

namespace Bootstrap

variable [ScriptEngine ε] {bootstrap : Bootstrap}

theorem Refuses.bare {files : FileSystem} {state : ε} {location : String} {fault : ViewError}
    (refuses : bootstrap.Refuses files state location fault) : fault.isRendering = false := by
  cases refuses with
  | missing absent => rfl
  | unreadable cause present unread => rfl
  | failed text cause present read fails => rfl

theorem source_bare (files : FileSystem) (location : String) (fault : ViewError)
    (failed : bootstrap.source files location = .error fault) : fault.isRendering = false := by
  unfold source at failed
  cases present : (bootstrap.loader.get files location).exists? files with
  | false =>
      simp only [present, Bool.false_eq_true, ↓reduceIte, Except.error.injEq] at failed
      rw [← failed]
      rfl
  | true =>
      simp only [present, ↓reduceIte] at failed
      cases read : (bootstrap.loader.get files location).readText files bootstrap.charset with
      | ok text => simp only [read, reduceCtorEq] at failed
      | error cause =>
          simp only [read, Except.error.injEq] at failed
          rw [← failed]
          rfl

theorem loadOne_bare (engine : EngineHandle) (host : Host ε) (location : String)
    (fault : ViewError) (failed : (bootstrap.loadOne engine host location).1 = .error fault) :
    fault.isRendering = false := by
  unfold loadOne at failed
  cases readable : bootstrap.source host.files location with
  | error own =>
      simp only [readable, Except.error.injEq] at failed
      rw [← failed]
      exact source_bare host.files location own readable
  | ok text =>
      simp only [readable] at failed
      rcases evaluated : (host.lookUp location).eval engine text (some location) with ⟨answer, last⟩
      rw [evaluated] at failed
      cases answer with
      | error cause =>
          rw [← Except.error.inj failed]
          rfl
      | ok done => cases failed

theorem loadAll_bare (engine : EngineHandle) (scripts : List String) (host : Host ε)
    (fault : ViewError) (failed : (bootstrap.loadAll engine host scripts).1 = .error fault) :
    fault.isRendering = false := by
  induction scripts generalizing host with
  | nil => cases failed
  | cons location rest ih =>
      rw [loadAll] at failed
      rcases ran : bootstrap.loadOne engine host location with ⟨answer, next⟩
      rw [ran] at failed
      cases answer with
      | error own =>
          rw [← Except.error.inj failed]
          exact loadOne_bare engine host location own (congrArg Prod.fst ran)
      | ok done => exact ih next failed

/-- An attempt fails over the factory or over a script. -/
theorem attempt_failed (factory : Factory ε) (files : FileSystem) (request : Nat)
    (fault : ViewError) (half : Option ε)
    (failed : bootstrap.attempt factory files request = .failed fault half) :
    (∃ cause, fault = .configuration cause) ∨
      ∃ location state, bootstrap.Refuses files (state : ε) location fault := by
  unfold attempt at failed
  cases made : factory.make request with
  | error cause =>
      simp only [made, Attempt.failed.injEq] at failed
      exact Or.inl ⟨_, failed.1.symm⟩
  | ok fresh =>
      simp only [made] at failed
      rcases passed : bootstrap.pass files fresh bootstrap.scripts with ⟨answer, state⟩
      rw [passed] at failed
      cases answer with
      | ok done => cases failed
      | error own =>
          simp only [Attempt.failed.injEq] at failed
          rw [← failed.1]
          obtain ⟨_, location, _, reached, _, _, refuses⟩ :=
            bootstrap.exists_refused files fresh bootstrap.scripts own (congrArg Prod.fst passed)
          exact Or.inr ⟨location, reached, refuses⟩

end Bootstrap

namespace Provider

variable [ScriptEngine ε]

theorem shared_bare (engine : EngineHandle) (bootstrap : Bootstrap) (host : Host ε)
    (fault : ViewError) (failed : (shared engine bootstrap host).1 = .error fault) :
    fault.isRendering = false := by
  unfold shared at failed
  rcases loaded : bootstrap.load engine host with ⟨answer, last⟩
  rw [loaded] at failed
  cases answer with
  | ok done => cases failed
  | error own =>
      rw [← Except.error.inj failed]
      exact Bootstrap.loadAll_bare engine bootstrap.scripts host own (congrArg Prod.fst loaded)

/-- A provider has no engine for a context only where an engine cannot be made or a script is refused. -/
theorem engine_error (provider : Provider ε) (context : RenderContext) (host : Host ε)
    (fault : ViewError) (failed : (provider.engine context host).1 = .error fault) :
    (∃ cause, fault = .configuration cause) ∨
      ∃ location state, provider.bootstrap.Refuses host.files (state : ε) location fault := by
  have request := provider.engine_request context host
  rw [failed] at request
  generalize (provider.engine context host).2 = outcome at request
  obtain ⟨after, last⟩ := outcome
  cases request with
  | failed bootstrap factory held own half noted absent attempted =>
      exact Bootstrap.attempt_failed factory host.files _ fault half attempted

theorem engine_bare (provider : Provider ε) (context : RenderContext) (host : Host ε)
    (fault : ViewError) (failed : (provider.engine context host).1 = .error fault) :
    fault.isRendering = false := by
  rcases provider.engine_error context host fault failed with ⟨cause, same⟩ | ⟨_, _, refuses⟩
  · rw [same]
    rfl
  · exact refuses.bare

end Provider

/-! ### Builds -/

theorem Loader.assemble_bare (files : FileSystem) (parent : Loader) (path : String)
    (fault : ViewError) (failed : parent.assemble files path = .error fault) :
    fault.isRendering = false := by
  rw [assemble_eq_error_iff] at failed
  obtain ⟨cause, same⟩ := parent.searchRoots_error files path fault failed
  rw [same]
  rfl

namespace ViewBuilder

theorem plan_bare (builder : ViewBuilder) (environment : Environment ε) (files : FileSystem)
    (fault : ViewError) (failed : builder.plan environment files = .error fault) :
    fault.isRendering = false := by
  unfold plan findLoader at failed
  split at failed
  · cases failed
    rfl
  · split at failed
    · cases failed
      rfl
    · split at failed
      · cases failed
        rfl
      · cases own : builder.loader with
        | some loader => simp [own] at failed
        | none =>
            simp only [own] at failed
            rename_i settings _
            cases searched : environment.loader.searchRoots files settings.loaderPath with
            | ok roots => simp [searched] at failed
            | error cause =>
                simp only [searched, Except.error.injEq] at failed
                obtain ⟨_, same⟩ := environment.loader.searchRoots_error files _ cause searched
                rw [← failed, same]
                rfl

end ViewBuilder

section Build

variable [ScriptEngine ε]

theorem ViewPlan.provide_bare (plan : ViewPlan) (registry : Registry ε) (host : Host ε)
    (fault : ViewError) (failed : (plan.provide registry host).1 = .error fault) :
    fault.isRendering = false := by
  unfold provide at failed
  cases source : plan.settings.engine with
  | «instance» engine =>
      simp only [source] at failed
      exact Provider.shared_bare engine plan.bootstrap host fault failed
  | named name =>
      cases found : registry.find? name with
      | none =>
          simp only [source, found, Except.error.injEq] at failed
          rw [← failed]
          rfl
      | some factory =>
          cases shared : plan.settings.isShared with
          | false => simp [source, found, shared] at failed
          | true =>
              simp only [source, found, shared, ↓reduceIte, provideShared] at failed
              rcases asked : host.make factory with ⟨made, last⟩
              rw [asked] at failed
              cases made with
              | error cause =>
                  rw [← Except.error.inj failed]
                  rfl
              | ok engine => exact Provider.shared_bare engine plan.bootstrap last fault failed

theorem ViewBuilder.build_bare (builder : ViewBuilder) (environment : Environment ε)
    (host : Host ε) (fault : ViewError)
    (failed : (builder.build environment host).1 = .error fault) : fault.isRendering = false := by
  unfold build at failed
  cases planned : builder.plan environment host.files with
  | error own =>
      simp only [planned, Except.error.injEq] at failed
      rw [← failed]
      exact builder.plan_bare environment host.files own planned
  | ok plan =>
      simp only [planned] at failed
      rcases provided : plan.provide environment.registry (plan.events.foldl Host.report host) with
        ⟨answer, last⟩
      rw [provided] at failed
      cases answer with
      | ok provider => cases failed
      | error own =>
          rw [← Except.error.inj failed]
          exact plan.provide_bare environment.registry _ own (congrArg Prod.fst provided)

theorem Resolver.resolve_bare (resolver : Resolver ε) (name : String) (site : Site ε)
    (fault : ViewError) (failed : (resolver.resolve name site).1 = .error fault) :
    fault.isRendering = false := by
  have unbuilt : (resolver.buildNew name site).1 = .error fault := by
    unfold resolve at failed
    split at failed
    · split at failed
      · cases failed
      · rcases built : resolver.buildNew name site with ⟨answer, last⟩
        rw [built] at failed
        cases answer with
        | error own => exact failed
        | ok id => cases failed
    · exact failed
  unfold buildNew Site.build at unbuilt
  rcases built : ViewBuilder.build { resolver.builder with url := some (resolver.url name) }
    resolver.environment site.host with ⟨answer, last⟩
  rw [built] at unbuilt
  cases answer with
  | ok view => cases unbuilt
  | error own =>
      rw [← Except.error.inj unbuilt]
      exact ViewBuilder.build_bare _ resolver.environment site.host own (congrArg Prod.fst built)

end Build

/-! ### Renders -/

namespace View

/-- Why the template of a view is not read: it is missing, or is there and cannot be read. -/
inductive Unread (view : View ε) (files : FileSystem) : ViewError → Prop where
  | missing (absent : view.exists? files = false) :
      Unread view files (.resourceNotFound view.url)
  | unreadable (cause : FileError) (present : view.exists? files = true)
      (failed : (view.loader.get files view.url).readText files view.settings.charset =
        .error cause) :
      Unread view files (.file cause)

theorem template_eq_error_iff (view : View ε) (files : FileSystem) (fault : ViewError) :
    view.template files = .error fault ↔ view.Unread files fault := by
  unfold template
  constructor
  · intro failed
    cases present : (view.loader.get files view.url).exists? files with
    | false =>
        simp only [present, Bool.false_eq_true, ↓reduceIte, Except.error.injEq] at failed
        rw [← failed]
        exact .missing present
    | true =>
        simp only [present, ↓reduceIte] at failed
        cases read : (view.loader.get files view.url).readText files view.settings.charset with
        | ok text => simp only [read, reduceCtorEq] at failed
        | error cause =>
            simp only [read, Except.error.injEq] at failed
            rw [← failed]
            exact .unreadable cause present read
  · intro unread
    cases unread with
    | missing absent =>
        unfold exists? at absent
        simp only [absent, Bool.false_eq_true, ↓reduceIte]
    | unreadable cause present failed =>
        unfold exists? at present
        simp only [present, failed, ↓reduceIte]

variable [ScriptEngine ε]

/-- What can stop a render: the template, the engine, or the script that is called. -/
inductive Stops (view : View ε) (context : RenderContext) (host : Host ε) : ViewError → Prop where
  | template (fault : ViewError) (unread : view.Unread host.files fault) :
      Stops view context host fault
  | engine (fault : ViewError)
      (unserved : (view.provider.engine context host).1 = .error fault) :
      Stops view context host fault
  | script (cause : ScriptError) : Stops view context host (.script cause)

theorem Stops.bare {view : View ε} {context : RenderContext} {host : Host ε} {fault : ViewError}
    (stops : view.Stops context host fault) : fault.isRendering = false := by
  cases stops with
  | template _ unread => cases unread <;> rfl
  | engine _ unserved => exact view.provider.engine_bare context host fault unserved
  | script cause => rfl

variable (view : View ε) (context : RenderContext) (model : List (String × Json)) (host : Host ε)

theorem run_error (fault : ViewError) (failed : (view.run context model host).answer = .error fault) :
    view.Stops context host fault := by
  unfold run engine at failed
  cases read : view.template host.files with
  | error own =>
      simp only [read, Except.error.injEq] at failed
      rw [← failed]
      exact .template own ((view.template_eq_error_iff host.files own).mp read)
  | ok text =>
      simp only [read] at failed
      rcases served : view.provider.engine context host with ⟨answer, provider, last⟩
      rw [served] at failed
      cases answer with
      | error own =>
          rw [← Except.error.inj failed]
          exact .engine own (congrArg Prod.fst served)
      | ok engine =>
          dsimp only at failed
          rcases called : call view.settings engine [.string text, .ofMembers model] last with
            ⟨reply, after⟩
          rw [called] at failed
          cases reply with
          | ok output => cases failed
          | error cause =>
              rw [← Except.error.inj failed]
              exact .script cause

theorem renderText_error (error : ViewError)
    (failed : (view.renderText context model host).answer = .error error) :
    ∃ source, view.Stops context host source ∧ error = .rendering view.url source := by
  unfold renderText at failed
  rcases ran : view.run context model host with ⟨answer, after, last⟩
  rw [ran] at failed
  cases answer with
  | ok text => cases failed
  | error source =>
      refine ⟨source, ?_, (Except.error.inj failed).symm⟩
      exact view.run_error context model host source (congrArg Rendered.answer ran)

theorem render_error (error : ViewError)
    (failed : (view.render context model host).answer = .error error) :
    ∃ source, view.Stops context host source ∧ error = .rendering view.url source := by
  have follows := (view.render_follows context model host).answer
  rw [failed] at follows
  cases answered : (view.renderText context model host).answer with
  | ok text => simp [answered, Except.map] at follows
  | error own =>
      rw [answered] at follows
      rw [Except.error.inj follows]
      exact view.renderText_error context model host own answered

theorem renderTo_error {σ : Type} [Sink σ] (sink : σ) (error : ViewError)
    (failed : (view.renderTo context model sink host).1.answer = .error error) :
    ∃ source, error = .rendering view.url source ∧
      (view.Stops context host source ∨ ∃ text cause,
        (deliver view.settings text sink).answer = .error cause ∧ source = .file cause) := by
  unfold renderTo at failed
  rcases rendered : view.renderText context model host with ⟨answer, after, last⟩
  rw [rendered] at failed
  cases answer with
  | error own =>
      obtain ⟨source, stops, same⟩ :=
        view.renderText_error context model host own (congrArg Rendered.answer rendered)
      rw [← Except.error.inj failed]
      exact ⟨source, same, Or.inl stops⟩
  | ok text =>
      dsimp only at failed
      cases written : (deliver view.settings text sink).answer with
      | ok done =>
          unfold deliver at written
          simp only [written] at failed
          cases failed
      | error cause =>
          refine ⟨.file cause, ?_, Or.inr ⟨text, cause, written, rfl⟩⟩
          unfold deliver at written
          simp only [written, Except.error.injEq] at failed
          exact failed.symm

/-- A render of any kind that fails answers with one wrapper, which has the address of the view and tells
the code and the text of what stopped it: the template, the engine, the script that was called, or the
sink. Nothing else that works for views answers with a wrapper: neither builds, by themselves or by
name, nor settings that are resolved, search paths that are assembled or providers of engines. -/
theorem failures_wrapped :
    (∀ error, (view.renderText context model host).answer = .error error →
      ∃ source, view.Stops context host source ∧ error.Wraps view.url source) ∧
    (∀ error, (view.render context model host).answer = .error error →
      ∃ source, view.Stops context host source ∧ error.Wraps view.url source) ∧
    (∀ (σ : Type) [Sink σ] (sink : σ) (error : ViewError),
      (view.renderTo context model sink host).1.answer = .error error →
      ∃ source, (view.Stops context host source ∨ ∃ text cause,
          (deliver view.settings text sink).answer = .error cause ∧ source = .file cause) ∧
        error.Wraps view.url source) ∧
    (∀ (builder : ViewBuilder) environment fault,
      (builder.build environment host).1 = .error fault → fault.isRendering = false) ∧
    (∀ (settings : Settings) fault,
      settings.resolve.mapError ViewError.configuration = .error fault →
      fault.isRendering = false) ∧
    (∀ (resolver : Resolver ε) name views fault,
      (resolver.resolve name ⟨host, views⟩).1 = .error fault → fault.isRendering = false) ∧
    (∀ (parent : Loader) path fault, parent.assemble host.files path = .error fault →
      fault.isRendering = false) ∧
    (∀ engine bootstrap fault, (Provider.shared engine bootstrap host).1 = .error fault →
      fault.isRendering = false) ∧
    ∀ (provider : Provider ε) other fault, (provider.engine other host).1 = .error fault →
      fault.isRendering = false := by
  refine ⟨?_, ?_, ?_, ?_, ?_, ?_, ?_, ?_, ?_⟩
  · intro error failed
    obtain ⟨source, stops, same⟩ := view.renderText_error context model host error failed
    rw [same]
    exact ⟨source, stops, ViewError.wraps view.url source stops.bare⟩
  · intro error failed
    obtain ⟨source, stops, same⟩ := view.render_error context model host error failed
    rw [same]
    exact ⟨source, stops, ViewError.wraps view.url source stops.bare⟩
  · intro σ _ sink error failed
    obtain ⟨source, same, reason⟩ := view.renderTo_error context model host sink error failed
    have bare : source.isRendering = false := by
      rcases reason with stops | ⟨_, cause, _, file⟩
      · exact stops.bare
      · rw [file]
        rfl
    rw [same]
    exact ⟨source, reason, ViewError.wraps view.url source bare⟩
  · intro builder environment fault failed
    exact builder.build_bare environment host fault failed
  · intro settings fault failed
    cases resolved : settings.resolve with
    | ok own => simp [resolved, Except.mapError] at failed
    | error own =>
        rw [resolved] at failed
        rw [← Except.error.inj failed]
        rfl
  · intro resolver name views fault failed
    exact resolver.resolve_bare name ⟨host, views⟩ fault failed
  · intro parent path fault failed
    exact parent.assemble_bare host.files path fault failed
  · intro engine bootstrap fault failed
    exact Provider.shared_bare engine bootstrap host fault failed
  · intro provider other fault failed
    exact provider.engine_bare other host fault failed

/-- The template is there, and the script that every engine needs is not. -/
def scriptless : View Recorder :=
  ⟨"t", ⟨.named "recording", ["a.js"], none, "render", .utf8, .utf8, "text/html;charset=UTF-8",
    "classpath:", some false⟩, .memory [("t", [104])],
    .perContext (Recorder.factory 0 "recording" [] {} none)
      ⟨["a.js"], .memory [("t", [104])], .utf8⟩⟩

theorem failures_wrapped_scriptless :
    ∃ error, (scriptless.render (.new 0 none) [] { files := ⟨[], []⟩, handles := [1] }).answer =
        .error error ∧ error.Wraps "t" (.resourceNotFound "a.js") := by
  have failed : (scriptless.render (.new 0 none) [] { files := ⟨[], []⟩, handles := [1] }).answer =
      .error (.rendering "t" (.resourceNotFound "a.js")) := by decide +kernel
  obtain ⟨source, _, wraps⟩ := (failures_wrapped scriptless (.new 0 none) []
    { files := ⟨[], []⟩, handles := [1] }).2.1 _ failed
  have same := wraps.wrapped
  rw [ViewError.rendering.injEq] at same
  rw [← same.2] at wraps
  exact ⟨_, failed, wraps⟩

end View

end Stencil
