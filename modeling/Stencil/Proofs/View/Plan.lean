import Stencil.Proofs.Engine.Bootstrap
import Stencil.Proofs.Resource.Joined
import Stencil.Proofs.Settings.Resolve
import Stencil.View.Basic

/-!
What a build comes to. A build without a plan ends with the first thing that is wrong
(`plan_unaddressed` to `plan_unloaded`). Once there is a plan, the source of its engine decides the
rest: `build_instance`, `build_unknown`, `build_lent`, `build_unmade` and `build_made` give the
answer and the host afterwards for each source.
-/

namespace Stencil

variable {ε : Type}

theorem Provider.shared_eq [ScriptEngine ε] (engine : EngineHandle) (bootstrap : Bootstrap)
    (host : Host ε) (state : ε) (found : host.engines[engine.id]? = some state) :
    ∃ noted, shared engine bootstrap host =
      ((bootstrap.pass host.files state bootstrap.scripts).1.map
          (fun _ => ⟨bootstrap, .shared engine⟩),
        host.withEngine engine.id (bootstrap.pass host.files state bootstrap.scripts).2 noted) := by
  obtain ⟨noted, loaded⟩ := bootstrap.load_eq engine host state found
  refine ⟨noted, ?_⟩
  unfold shared
  rw [loaded]
  cases (bootstrap.pass host.files state bootstrap.scripts).1 with
  | error fault => rfl
  | ok done => rfl

/-- The view of a plan, with its engines. -/
def ViewPlan.view (plan : ViewPlan) (provider : Provider ε) : View ε :=
  ⟨plan.url, plan.settings, plan.loader, provider⟩

namespace ViewBuilder

/-- The settings that a builder and its environment come to. -/
def Resolves (builder : ViewBuilder) (environment : Environment ε) (resolved : Resolved) : Prop :=
  ∃ template, environment.templates = [template] ∧
    (builder.settings.withFallback template).resolve = .ok resolved

/-- The loader of a view: the one that was set, or else one assembled for the search path. -/
def Loads (builder : ViewBuilder) (environment : Environment ε) (files : FileSystem) (path : String)
    (loader : Loader) : Prop :=
  builder.loader = some loader ∨
    builder.loader = none ∧ environment.loader.assemble files path = .ok loader

theorem Resolves.unique {builder : ViewBuilder} {environment : Environment ε}
    {resolved other : Resolved} (first : builder.Resolves environment resolved)
    (second : builder.Resolves environment other) : resolved = other := by
  obtain ⟨template, only, ok⟩ := first
  obtain ⟨_, same, otherOk⟩ := second
  rw [only, List.cons.injEq] at same
  rw [← same.1, ok] at otherOk
  exact Except.ok.inj otherOk

theorem Resolves.isShared_of_instance {builder : ViewBuilder} {environment : Environment ε}
    {resolved : Resolved} (settled : builder.Resolves environment resolved) (engine : EngineHandle)
    (source : resolved.engine = .instance engine) : resolved.isShared = true := by
  obtain ⟨template, _, ok⟩ := settled
  exact Settings.isShared_of_instance ok engine source

theorem Loads.unique {builder : ViewBuilder} {environment : Environment ε} {files : FileSystem}
    {path : String} {loader other : Loader} (first : builder.Loads environment files path loader)
    (second : builder.Loads environment files path other) : loader = other := by
  rcases first with set | ⟨unset, assembled⟩
  · rcases second with otherSet | ⟨otherUnset, _⟩
    · rw [set] at otherSet
      exact Option.some.inj otherSet
    · rw [set] at otherUnset
      cases otherUnset
  · rcases second with otherSet | ⟨_, otherAssembled⟩
    · rw [unset] at otherSet
      cases otherSet
    · rw [assembled] at otherAssembled
      exact Except.ok.inj otherAssembled

/-! ### Planning -/

theorem template_eq_ok_iff (environment : Environment ε) (template : Settings) :
    environment.template = .ok template ↔ environment.templates = [template] := by
  unfold Environment.template
  split <;> rename_i listed
  · rw [listed, Except.ok.injEq, List.cons.injEq, and_iff_left rfl]
  · exact ⟨nofun, fun only => absurd only (listed template)⟩

/-- A plan is what the checks that need no engine come to. -/
theorem plan_eq_ok_iff (builder : ViewBuilder) (environment : Environment ε) (files : FileSystem)
    (planned : ViewPlan) :
    builder.plan environment files = .ok planned ↔
      builder.url.filter (fun url => !url.isEmpty) = some planned.url ∧
        builder.Resolves environment planned.settings ∧
        builder.findLoader environment files planned.settings.loaderPath =
          .ok (planned.loader, planned.events) := by
  unfold plan Resolves
  simp only [← template_eq_ok_iff]
  cases builder.url.filter (fun url => !url.isEmpty) with
  | none => simp
  | some url =>
      cases environment.template with
      | error fault => simp
      | ok template =>
          simp only [Option.some.injEq, Except.ok.injEq, exists_eq_left']
          constructor
          · intro ok
            cases resolved : (builder.settings.withFallback template).resolve with
            | error fault => simp [resolved] at ok
            | ok settings =>
                cases found : builder.findLoader environment files settings.loaderPath with
                | error fault => simp [resolved, found] at ok
                | ok lookup =>
                    simp only [resolved, found, Except.ok.injEq] at ok
                    subst ok
                    exact ⟨rfl, rfl, found⟩
          · rintro ⟨address, resolved, found⟩
            simp only [address, resolved, found]

section Planning

variable (builder : ViewBuilder) (environment : Environment ε) (files : FileSystem)

theorem plan_unaddressed (missing : builder.url = none ∨ builder.url = some "") :
    builder.plan environment files = .error (.configuration .noUrl) := by
  unfold plan
  rcases missing with unset | blank
  · rw [unset]
    rfl
  · rw [blank]
    rfl

variable {builder} {url : String} (set : builder.url = some url) (filled : url ≠ "")

include set filled

theorem filter_url : builder.url.filter (fun url => !url.isEmpty) = some url := by
  rw [set]
  simp [filled]

theorem plan_untemplated (count : environment.templates.length ≠ 1) :
    builder.plan environment files =
      .error (.configuration (.templateConfigs environment.templates.length)) := by
  unfold plan Environment.template
  rw [filter_url set filled]
  match listed : environment.templates with
  | [] => rfl
  | [template] => simp [listed] at count
  | _ :: _ :: _ => rfl

variable {environment}

theorem plan_unresolved (template : Settings) (only : environment.templates = [template])
    (fault : ConfigFault)
    (refused : (builder.settings.withFallback template).resolve = .error fault) :
    builder.plan environment files = .error (.configuration fault) := by
  unfold plan Environment.template
  simp only [filter_url set filled, only, refused]

variable {resolved : Resolved} (settled : builder.Resolves environment resolved)

include settled

theorem plan_unloaded (unset : builder.loader = none) (fault : ViewError)
    (unlisted : environment.loader.assemble files resolved.loaderPath = .error fault) :
    builder.plan environment files = .error fault := by
  obtain ⟨template, only, ok⟩ := settled
  rw [Loader.assemble_eq_error_iff] at unlisted
  unfold plan Environment.template findLoader
  simp only [filter_url set filled, only, ok, unset, unlisted]

theorem exists_plan (loader : Loader)
    (loads : builder.Loads environment files resolved.loaderPath loader) :
    ∃ events, builder.plan environment files = .ok ⟨url, resolved, loader, events⟩ := by
  simp only [plan_eq_ok_iff, filter_url set filled, settled, true_and]
  unfold findLoader
  rcases loads with own | ⟨unset, assembled⟩
  · exact ⟨[], by simp only [own]⟩
  · unfold Loader.assemble at assembled
    cases searched : environment.loader.searchRoots files resolved.loaderPath with
    | error fault => simp [searched] at assembled
    | ok roots =>
        simp only [searched, Except.ok.injEq] at assembled
        rw [← assembled]
        exact ⟨[Loader.searchEvent resolved.loaderPath roots], by simp only [unset]⟩

end Planning

/-! ### Building -/

/-- A view that was built is that of its plan, and only its engines depend on what the build met. -/
theorem exists_plan_of_build [ScriptEngine ε] {builder : ViewBuilder} {environment : Environment ε}
    {host last : Host ε} {view : View ε} (built : builder.build environment host = (.ok view, last)) :
    ∃ plan provider, builder.plan environment host.files = .ok plan ∧ view = plan.view provider := by
  unfold build at built
  cases planned : builder.plan environment host.files with
  | error fault =>
      rw [planned] at built
      cases built
  | ok plan =>
      rw [planned] at built
      dsimp only at built
      rcases provided : plan.provide environment.registry (plan.events.foldl Host.report host) with
        ⟨answer, after⟩
      rw [provided] at built
      cases answer with
      | error fault => cases built
      | ok provider => exact ⟨plan, provider, rfl, (Except.ok.inj (Prod.mk.inj built).1).symm⟩

section Building

variable [ScriptEngine ε] {builder : ViewBuilder} {environment : Environment ε} {host : Host ε}
  {plan : ViewPlan} (planned : builder.plan environment host.files = .ok plan)

include planned

theorem build_instance (engine : EngineHandle) (source : plan.settings.engine = .instance engine)
    (state : ε) (found : host.engines[engine.id]? = some state) :
    ∃ noted, builder.build environment host =
      ((plan.bootstrap.pass host.files state plan.bootstrap.scripts).1.map
          (fun _ => plan.view ⟨plan.bootstrap, .shared engine⟩),
        host.withEngine engine.id
          (plan.bootstrap.pass host.files state plan.bootstrap.scripts).2 noted) := by
  obtain ⟨noted, shared⟩ := Provider.shared_eq engine plan.bootstrap
    (plan.events.foldl Host.report host) state (by rw [Host.foldl_report]; exact found)
  have files : (plan.events.foldl Host.report host).files = host.files := by
    rw [Host.foldl_report]
  rw [files, Host.foldl_report_withEngine] at shared
  unfold build ViewPlan.provide ViewPlan.provideInstance
  simp only [planned, source, shared]
  cases (plan.bootstrap.pass host.files state plan.bootstrap.scripts).1 with
  | error fault => exact ⟨_, rfl⟩
  | ok done =>
      refine ⟨plan.events.map Entry.reported ++ noted ++
        [.reported (.viewReady plan.url plan.settings.engine.debug true
          plan.settings.scripts.length)], ?_⟩
      rw [← Host.withEngine_report, source]
      rfl

section Named

variable {name : String} (source : plan.settings.engine = .named name)

include source

theorem build_unknown (unknown : environment.registry.find? name = none) :
    builder.build environment host =
      (.error (.configuration (.unknownEngine name)), plan.events.foldl Host.report host) := by
  unfold build ViewPlan.provide
  simp only [planned, source, unknown]

variable {factory : Factory ε} (known : environment.registry.find? name = some factory)

include known

/-- A view with an engine per context is built from its plan alone. -/
theorem build_lent (unshared : plan.settings.isShared = false) :
    builder.build environment host =
      (.ok (plan.view (.perContext factory plan.bootstrap)),
        (plan.events ++ [Event.viewReady plan.url plan.settings.engine.debug false
          plan.settings.scripts.length]).foldl Host.report host) := by
  unfold build ViewPlan.provide
  rw [List.foldl_append]
  simp only [planned, source, known, unshared]
  rfl

variable (shared : plan.settings.isShared = true)

include shared

theorem build_unmade (cause : ScriptError)
    (refused : factory.make (host.requests factory.id) = .error cause) :
    builder.build environment host =
      (.error (.configuration (.engine name cause)),
        host.withMaking factory.id none (plan.events.map Entry.reported)) := by
  have asked : (plan.events.foldl Host.report host).requests factory.id =
      host.requests factory.id := by
    rw [Host.foldl_report]
    rfl
  rw [← asked] at refused
  have made := Host.make_error _ factory cause refused
  rw [Host.foldl_report_withMaking, List.append_nil] at made
  unfold build ViewPlan.provide ViewPlan.provideShared
  simp only [planned, source, known, shared, ↓reduceIte, made]

theorem build_made (fresh : ε) (made : factory.make (host.requests factory.id) = .ok fresh) :
    ∃ noted, builder.build environment host =
      ((plan.bootstrap.pass host.files fresh plan.bootstrap.scripts).1.map (fun _ => plan.view
          ⟨plan.bootstrap, .shared ⟨host.engines.length, ScriptEngine.name fresh⟩⟩),
        host.withMaking factory.id
          (some (plan.bootstrap.pass host.files fresh plan.bootstrap.scripts).2) noted) := by
  have asked : (plan.events.foldl Host.report host).requests factory.id =
      host.requests factory.id := by
    rw [Host.foldl_report]
    rfl
  have count : (plan.events.foldl Host.report host).engines.length = host.engines.length := by
    rw [Host.foldl_report]
  rw [← asked] at made
  have gave := Host.make_ok _ factory fresh made
  rw [Host.foldl_report_withMaking, count, List.append_nil] at gave
  obtain ⟨noted, ran⟩ := Provider.shared_eq ⟨host.engines.length, ScriptEngine.name fresh⟩
    plan.bootstrap (host.withMaking factory.id (some fresh) (plan.events.map Entry.reported)) fresh
    (by simp)
  rw [Host.withMaking_files, Host.withMaking_withEngine] at ran
  unfold build ViewPlan.provide ViewPlan.provideShared
  simp only [planned, source, known, shared, ↓reduceIte, gave, ran]
  cases (plan.bootstrap.pass host.files fresh plan.bootstrap.scripts).1 with
  | error fault => exact ⟨_, rfl⟩
  | ok done =>
      refine ⟨plan.events.map Entry.reported ++ noted ++
        [.reported (.viewReady plan.url plan.settings.engine.debug true
          plan.settings.scripts.length)], ?_⟩
      rw [← Host.withMaking_report, source]
      rfl

end Named

end Building

end ViewBuilder

end Stencil
