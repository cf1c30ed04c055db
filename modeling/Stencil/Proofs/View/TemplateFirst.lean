import Stencil.Proofs.View.Bootstrapped
import Stencil.Proofs.View.Faults

/-!
The template comes first. A view whose template cannot be read fails every render before anything else
is looked at, so the provider, the factories and the engines are as they were. And as a view runs its
scripts from its own loader, none of them is missing at the address of a template that is there: the
check for the template says what a render will say (`exists?_eq_false_iff`).
-/

namespace Stencil

namespace View

variable {ε : Type} [ScriptEngine ε] (view : View ε) (context : RenderContext)
  (model : List (String × Json)) (host : Host ε)

/-! ### What stops a render -/

/-- What stops a render blames the template for being missing only where it is missing. -/
theorem Stops.absent {view : View ε} {context : RenderContext} {host : Host ε} {source : ViewError}
    (stops : view.Stops context host source)
    (scripts : view.provider.bootstrap = view.bootstrap)
    (blamed : source.rootCause = .resourceNotFound view.url) :
    view.exists? host.files = false := by
  rw [source.rootCause_eq_self stops.bare] at blamed
  subst blamed
  cases stops with
  | template _ unread =>
      cases unread with
      | missing absent => exact absent
  | engine _ unserved =>
      rcases view.provider.engine_error context host _ unserved with ⟨cause, same⟩ | refused
      · cases same
      · -- A script at the address of the template is looked up as the template is.
        obtain ⟨location, state, refuses⟩ := refused
        rw [scripts] at refuses
        cases refuses with
        | missing absent => exact absent

/-- Whatever way a view is rendered, if only the sink can add to what stops it, it fails over a missing
template exactly if the template is missing. -/
theorem exists?_eq_false_iff {α : Type} (scripts : view.provider.bootstrap = view.bootstrap)
    (answer : Except ViewError α)
    (stopped : ∀ error, answer = .error error → ∃ source, error = .rendering view.url source ∧
      (view.Stops context host source ∨ ∃ cause, source = .file cause))
    (unread : view.exists? host.files = false →
      answer = .error (.rendering view.url (.resourceNotFound view.url))) :
    view.exists? host.files = false ↔
      ∃ error, answer = .error error ∧ error.rootCause = .resourceNotFound view.url := by
  constructor
  · intro absent
    exact ⟨_, unread absent, rfl⟩
  · rintro ⟨error, failed, blamed⟩
    obtain ⟨source, same, stops | ⟨cause, file⟩⟩ := stopped error failed
    · rw [same] at blamed
      exact stops.absent scripts blamed
    · rw [same, file] at blamed
      cases blamed

/-! ### A template that is not read -/

/-- A render that has failed and left the view and its host as they were, but for a line in the
journal. -/
def failure {α : Type} (fault : ViewError) : Rendered ε α :=
  ⟨.error (.rendering view.url fault), view,
    host.report (.renderFailed view.url (.rendering view.url fault))⟩

omit [ScriptEngine ε] in
theorem failure_lookups {α : Type} (fault : ViewError) :
    (view.failure host fault : Rendered ε α).host.lookups = host.lookups :=
  host.report_lookups _

section Unread

variable {view host} {fault : ViewError} (unread : view.Unread host.files fault)

include unread

theorem Unread.renderText : view.renderText context model host = view.failure host fault :=
  view.renderText_unread context model host fault
    ((view.template_eq_error_iff host.files fault).mpr unread)

theorem Unread.renderTo {σ : Type} [Sink σ] (sink : σ) :
    view.renderTo context model sink host = (view.failure host fault, sink) := by
  unfold View.renderTo
  rw [unread.renderText context model]
  rfl

theorem Unread.render : view.render context model host = view.failure host fault := by
  unfold View.render
  rw [unread.renderTo context model]
  rfl

omit [ScriptEngine ε] in
/-- The template does not depend on how a view comes to its engines. -/
theorem Unread.withProvider (provider : Provider ε) :
    ({ view with provider := provider } : View ε).Unread host.files fault := by
  cases unread with
  | missing absent => exact .missing absent
  | unreadable cause present failed => exact .unreadable cause present failed

end Unread

end View

namespace Site

variable {ε : Type} [ScriptEngine ε]

/-- For every view that was built, whatever was done since: its template is missing exactly if a
render, of any kind, fails for the reason that nothing is found at the address of the view. And if
the template cannot be read, a render does nothing but fail with the reason: the view, its provider,
and the host with all engines and factories stay as they are, no script is looked up, the sink is
left alone, and with any other provider, whatever scripts and engines it has, it would be the same.
-/
theorem template_first (host : Host (Logged ε)) (operations : List (Operation ε))
    (site : Site (Logged ε)) (reached : site = (Site.mk host []).finish operations)
    (number : Nat) (view : View (Logged ε)) (present : site.view? number = some view)
    (context : RenderContext) (model : List (String × Json)) :
    (view.exists? site.host.files = false ↔
      ∃ error, (view.renderText context model site.host).answer = .error error ∧
        error.rootCause = .resourceNotFound view.url) ∧
    (view.exists? site.host.files = false ↔
      ∃ error, (view.render context model site.host).answer = .error error ∧
        error.rootCause = .resourceNotFound view.url) ∧
    (∀ (σ : Type) [Sink σ] (sink : σ), view.exists? site.host.files = false ↔
      ∃ error, (view.renderTo context model sink site.host).1.answer = .error error ∧
        error.rootCause = .resourceNotFound view.url) ∧
    ∀ fault, view.Unread site.host.files fault →
      view.renderText context model site.host = view.failure site.host fault ∧
      view.render context model site.host = view.failure site.host fault ∧
      (∀ (σ : Type) [Sink σ] (sink : σ),
        view.renderTo context model sink site.host = (view.failure site.host fault, sink)) ∧
      (∀ provider, ({ view with provider := provider }).renderText context model site.host =
        ({ view with provider := provider }).failure site.host fault) ∧
      (view.renderText context model site.host).host.lookups = site.host.lookups ∧
      (view.render context model site.host).host.lookups = site.host.lookups ∧
      ∀ (σ : Type) [Sink σ] (sink : σ),
        (view.renderTo context model sink site.host).1.host.lookups = site.host.lookups := by
  have accounted := accounted_finish host operations
  rw [← reached] at accounted
  have scripts := (accounted.orderly.ready number view present).scripts
  refine ⟨?_, ?_, ?_, ?_⟩
  · refine view.exists?_eq_false_iff context site.host scripts _ ?_ ?_
    · intro error failed
      obtain ⟨source, stops, same⟩ := view.renderText_error context model site.host error failed
      exact ⟨source, same, Or.inl stops⟩
    · intro absent
      rw [(View.Unread.missing absent).renderText context model]
      rfl
  · refine view.exists?_eq_false_iff context site.host scripts _ ?_ ?_
    · intro error failed
      obtain ⟨source, stops, same⟩ := view.render_error context model site.host error failed
      exact ⟨source, same, Or.inl stops⟩
    · intro absent
      rw [(View.Unread.missing absent).render context model]
      rfl
  · intro σ _ sink
    refine view.exists?_eq_false_iff context site.host scripts _ ?_ ?_
    · intro error failed
      obtain ⟨source, same, reason⟩ := view.renderTo_error context model site.host sink error failed
      refine ⟨source, same, reason.imp_right ?_⟩
      rintro ⟨_, cause, _, file⟩
      exact ⟨cause, file⟩
    · intro absent
      rw [(View.Unread.missing absent).renderTo context model sink]
      rfl
  · intro fault unread
    refine ⟨unread.renderText context model, unread.render context model,
      fun σ _ sink => unread.renderTo context model sink,
      fun provider => (unread.withProvider provider).renderText context model, ?_, ?_, ?_⟩
    · rw [unread.renderText context model]
      exact view.failure_lookups site.host fault
    · rw [unread.render context model]
      exact view.failure_lookups site.host fault
    · intro σ _ sink
      rw [unread.renderTo context model sink]
      exact view.failure_lookups site.host fault

/-- Each engine is given the template as a script first. -/
def selfScripted : Environment Recorder where
  loader := .memory []
  registry := Registry.ofFactories [Recorder.factory 0 "recording" [] ⟨["render"], [], false⟩ none]
  templates := [{ engineName := some "recording", scripts := some ["t"],
                  renderFunction := some "render", shared := some false }]

def shelved : FileSystem :=
  ⟨[(["site"], .directory), (["site", "t"], .file [104])], []⟩

def removed : FileSystem :=
  ⟨[(["site"], .directory)], []⟩

/-- One context renders, and then the template goes. -/
def bereft : Site (Logged Recorder) :=
  (Site.mk { files := shelved } []).finish
    [.build selfScripted { url := some "t", loader := some (.classpath ["/site"]) }, .enter none,
      .renderText 0 (.new 0 none) [], .write removed]

theorem template_first_bereft :
    ∃ view error, bereft.view? 0 = some view ∧
      view.provider.held = [{ context := 0, engine := ⟨0, "recording"⟩ }] ∧
      view.exists? bereft.host.files = false ∧
      (view.render (.new 1 none) [] bereft.host).answer = .error error ∧
      error.rootCause = .resourceNotFound "t" := by
  have first := template_first { files := shelved } _ bereft rfl 0 _ rfl (.new 1 none) []
  obtain ⟨error, failed, blamed⟩ := first.2.1.mp (by decide +kernel)
  exact ⟨_, error, rfl, by decide +kernel, by decide +kernel, failed, blamed⟩

end Site

end Stencil
