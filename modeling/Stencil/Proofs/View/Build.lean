import Stencil.Engine.Recorder
import Stencil.Proofs.Engine.History
import Stencil.Proofs.View.Checks

/-!
What a build answers and does. `ViewBuilder.Course` lists all that can become of a build, and
`build_course` puts every build on one of the courses. `build_decided` reads off them that a build
answers with the first check that fails, that it answers with a view exactly if none fails, and what
it has done to engines and factories by then.
-/

namespace Stencil

variable {ε : Type}

/-- The same view with another loader, also for its scripts. -/
def View.withLoader (loader : Loader) (view : View ε) : View ε :=
  { view with
    loader := loader
    provider :=
      { view.provider with bootstrap := { view.provider.bootstrap with loader := loader } } }

namespace ViewBuilder

/-! ### Courses of a build -/

/-- What a build with a shared engine asks of a factory: nothing for an engine that was supplied,
and otherwise one engine of the factory that has the name. -/
def Asked (environment : Environment ε) (host last : Host ε) (resolved : Resolved) : Prop :=
  match resolved.engine with
  | .instance _ => last.makings = host.makings
  | .named name => ∃ factory engine, environment.registry.find? name = some factory ∧
      last.makings = host.makings ++ [⟨factory.id, engine⟩]

variable [ScriptEngine ε]

/-- All that can become of a build. -/
inductive Course (builder : ViewBuilder) (environment : Environment ε) (host last : Host ε) :
    Except ViewError (View ε) → Prop where
  | stopped (check : Check) (fault : ViewError)
      (first : FirstFails builder environment host check fault)
      (early : check.place < Check.created.place) (engines : last.engines = host.engines)
      (lookups : last.lookups = host.lookups) (makings : last.makings = host.makings) :
      Course builder environment host last (.error fault)
  | unmade (resolved : Resolved) (fault : ViewError)
      (first : FirstFails builder environment host .created fault)
      (settled : builder.Resolves environment resolved) (shared : resolved.isShared = true)
      (asked : Asked environment host last resolved) (engines : last.engines = host.engines)
      (lookups : last.lookups = host.lookups) :
      Course builder environment host last (.error fault)
  | spoilt (resolved : Resolved) (fault : ViewError)
      (first : FirstFails builder environment host .bootstrapped fault)
      (settled : builder.Resolves environment resolved) (shared : resolved.isShared = true)
      (asked : Asked environment host last resolved) :
      Course builder environment host last (.error fault)
  | lent (view : View ε) (passed : ∀ check fault, ¬ Fails builder environment host check fault)
      (settled : builder.Resolves environment view.settings)
      (unshared : view.settings.isShared = false) (lends : view.provider.isShared = false)
      (engines : last.engines = host.engines) (lookups : last.lookups = host.lookups)
      (makings : last.makings = host.makings) :
      Course builder environment host last (.ok view)
  | shared (view : View ε) (passed : ∀ check fault, ¬ Fails builder environment host check fault)
      (settled : builder.Resolves environment view.settings)
      (shared : view.settings.isShared = true) (shares : view.provider.isShared = true)
      (asked : Asked environment host last view.settings) :
      Course builder environment host last (.ok view)

section Courses

variable {builder : ViewBuilder} {environment : Environment ε} {host : Host ε}

theorem PassesBelow.all (below : PassesBelow builder environment host Check.bootstrapped.place)
    (passes : ∀ fault, ¬ Fails builder environment host .bootstrapped fault) (check : Check)
    (fault : ViewError) : ¬ Fails builder environment host check fault := by
  by_cases last : check = .bootstrapped
  · rw [last]
    exact passes fault
  · exact below check fault (Check.place_lt_bootstrapped last)

/-- A build without a plan leaves the host as it is. -/
theorem course_unplanned {check : Check} {fault : ViewError}
    (fails : Fails builder environment host check fault)
    (below : PassesBelow builder environment host check.place)
    (early : check.place < Check.created.place)
    (unplanned : builder.plan environment host.files = .error fault) :
    Course builder environment host (builder.build environment host).2
      (builder.build environment host).1 := by
  unfold build
  rw [unplanned]
  exact .stopped check fault ⟨fails, below⟩ early rfl rfl rfl

section Settled

variable {resolved : Resolved} (settled : builder.Resolves environment resolved) {loader : Loader}
  (loads : builder.Loads environment host.files resolved.loaderPath loader)

include settled

include loads

/-- Where the scripts are run at once, how they end decides how the build ends. -/
theorem course_run {state : ε} (begins : Begins environment host resolved state)
    (below : PassesBelow builder environment host Check.bootstrapped.place)
    (shared : resolved.isShared = true) (view : View ε) (same : view.settings = resolved)
    (shares : view.provider.isShared = true) (last : Host ε)
    (asked : Asked environment host last resolved) :
    Course builder environment host last
      (((Bootstrap.mk resolved.scripts loader resolved.charset).pass host.files state
        resolved.scripts).1.map (fun _ => view)) := by
  cases ended : ((Bootstrap.mk resolved.scripts loader resolved.charset).pass host.files state
      resolved.scripts).1 with
  | error fault =>
      have fails : Fails builder environment host .bootstrapped fault :=
        (fails_bootstrapped_iff fault).mpr ⟨resolved, loader, state, settled, loads, begins, ended⟩
      exact .spoilt resolved fault ⟨fails, below⟩ settled shared asked
  | ok done =>
      have runs := passes_bootstrapped settled (by
        intro other first otherLoads otherBegins
        rw [otherLoads.unique loads, otherBegins.unique begins]
        exact ended)
      subst same
      exact .shared view (below.all runs) settled shared shares asked

variable {plan : ViewPlan} (planned : builder.plan environment host.files = .ok plan)
  (settings : plan.settings = resolved) (lookup : plan.loader = loader)
  (below : PassesBelow builder environment host Check.registered.place)

include planned settings lookup below

theorem course_supplied (engine : EngineHandle) (source : resolved.engine = .instance engine)
    (inside : engine.id < host.engines.length) :
    Course builder environment host (builder.build environment host).2
      (builder.build environment host).1 := by
  have unnamed : ∀ name, resolved.engine ≠ .named name := by
    intro name named
    rw [source] at named
    cases named
  have listed := below.next .registered
    (passes_registered settled fun name named => absurd named (unnamed name))
  have made := listed.next .created
    (passes_created settled fun name _ named => absurd named (unnamed name))
  have found := List.getElem?_eq_getElem inside
  have shared := settled.isShared_of_instance engine source
  subst settings lookup
  obtain ⟨noted, built⟩ := build_instance planned engine source _ found
  rw [built]
  refine course_run settled loads (.supplied engine _ source found) made shared
    (plan.view ⟨plan.bootstrap, .shared engine⟩) rfl rfl _ ?_
  unfold Asked
  rw [source]
  rfl

theorem course_named (name : String) (source : resolved.engine = .named name) :
    Course builder environment host (builder.build environment host).2
      (builder.build environment host).1 := by
  subst settings lookup
  cases known : environment.registry.find? name with
  | none =>
      rw [build_unknown planned source known]
      have fails : Fails builder environment host .registered _ :=
        .registered plan.settings name settled source known
      exact .stopped .registered _ ⟨fails, below⟩ (by decide) (by rw [Host.foldl_report])
        (Host.foldl_report_lookups host _) (by rw [Host.foldl_report])
  | some factory =>
      have listed := below.next .registered (passes_registered settled (by
        intro other named
        rw [source, EngineSource.named.injEq] at named
        rw [← named, known]
        exact Option.some_ne_none factory))
      cases shared : plan.settings.isShared with
      | false =>
          have made := listed.next .created (passes_created settled (by
            intro _ _ _ isShared
            rw [shared] at isShared
            cases isShared))
          have unrun : ∀ loader state,
              builder.Loads environment host.files plan.settings.loaderPath loader →
              Begins environment host plan.settings state →
              ((Bootstrap.mk plan.settings.scripts loader plan.settings.charset).pass host.files
                state plan.settings.scripts).1 = .ok () := by
            intro _ _ _ begins
            cases begins with
            | supplied engine state supplied _ =>
                rw [source] at supplied
                cases supplied
            | made _ _ state _ isShared =>
                rw [shared] at isShared
                cases isShared
          rw [build_lent planned source known shared]
          exact .lent _ (made.all (passes_bootstrapped settled unrun)) settled shared rfl
            (by rw [Host.foldl_report]) (Host.foldl_report_lookups host _)
            (by rw [Host.foldl_report])
      | true =>
          cases gave : factory.make (host.requests factory.id) with
          | error cause =>
              have built := build_unmade planned source known shared cause gave
              have fails : Fails builder environment host .created _ :=
                .created plan.settings name factory cause settled source shared known gave
              rw [built]
              refine .unmade plan.settings _ ⟨fails, listed⟩ settled shared ?_ (by simp)
                (Host.withMaking_lookups host factory.id none plan.events)
              unfold Asked
              rw [source]
              exact ⟨factory, none, known, rfl⟩
          | ok fresh =>
              obtain ⟨noted, built⟩ := build_made planned source known shared fresh gave
              have made := listed.next .created (passes_created settled (by
                intro other maker named _ found
                rw [source, EngineSource.named.injEq] at named
                rw [← named, known, Option.some.injEq] at found
                rw [← found]
                exact ⟨fresh, gave⟩))
              rw [built]
              refine course_run settled loads (.made name factory fresh source shared known gave)
                made shared (plan.view _) rfl rfl _ ?_
              unfold Asked
              rw [source]
              exact ⟨factory, some host.engines.length, known, rfl⟩

end Settled

/-- With a plan, the source of the engine decides on the course. -/
theorem course_planned {url : String} (set : builder.url = some url) (filled : url ≠ "")
    {resolved : Resolved} (settled : builder.Resolves environment resolved) (loader : Loader)
    (loads : builder.Loads environment host.files resolved.loaderPath loader)
    (below : PassesBelow builder environment host Check.loader.place)
    (known : ∀ engine, resolved.engine = .instance engine → engine.id < host.engines.length) :
    Course builder environment host (builder.build environment host).2
      (builder.build environment host).1 := by
  have loaded := below.next .loader (passes_loader settled loads)
  obtain ⟨events, planned⟩ := exists_plan host.files set filled settled loader loads
  cases source : resolved.engine with
  | «instance» engine =>
      exact course_supplied settled loads planned rfl rfl loaded engine source (known engine source)
  | named name => exact course_named settled loads planned rfl rfl loaded name source

/-- Every build takes one of the courses, so long as an engine that was supplied exists. -/
theorem build_course (known : ∀ resolved engine, builder.Resolves environment resolved →
      resolved.engine = .instance engine → engine.id < host.engines.length) :
    Course builder environment host (builder.build environment host).2
      (builder.build environment host).1 := by
  -- Each check either stops the build or joins those that have passed.
  have start : PassesBelow builder environment host Check.address.place :=
    fun _ _ impossible => absurd impossible (Nat.not_lt_zero _)
  by_cases missing : builder.url = none ∨ builder.url = some ""
  · exact course_unplanned (.address missing) start (by decide)
      (plan_unaddressed builder environment host.files missing)
  · obtain ⟨url, set⟩ := Option.ne_none_iff_exists'.mp fun unset => missing (Or.inl unset)
    have filled : url ≠ "" := fun blank => missing (Or.inr (blank ▸ set))
    have addressed := start.next .address (passes_address set filled)
    by_cases count : environment.templates.length = 1
    · obtain ⟨template, only⟩ := List.length_eq_one_iff.mp count
      have templated := addressed.next .template (passes_template only)
      cases ok : (builder.settings.withFallback template).resolve with
      | error fault =>
          exact course_unplanned (.settings template fault only ok) templated (by decide)
            (plan_unresolved host.files set filled template only fault ok)
      | ok resolved =>
          have settled : builder.Resolves environment resolved := ⟨template, only, ok⟩
          have resolves := templated.next .settings (passes_settings settled)
          have supplied := fun engine => known resolved engine settled
          cases own : builder.loader with
          | some loader =>
              exact course_planned set filled settled loader (Or.inl own) resolves supplied
          | none =>
              cases assembled : environment.loader.assemble host.files resolved.loaderPath with
              | ok loader =>
                  exact course_planned set filled settled loader (Or.inr ⟨own, assembled⟩) resolves
                    supplied
              | error fault =>
                  exact course_unplanned (.loader resolved fault settled own assembled) resolves
                    (by decide) (plan_unloaded host.files set filled settled own fault assembled)
    · exact course_unplanned (.template count) addressed (by decide)
        (plan_untemplated environment host.files set filled count)

variable {last : Host ε} {answer : Except ViewError (View ε)}

theorem Course.ok_iff (course : Course builder environment host last answer) :
    (∃ view, answer = .ok view) ↔
      ∀ check fault, ¬ Fails builder environment host check fault := by
  cases course with
  | stopped check fault first | unmade _ fault first | spoilt _ fault first =>
      refine ⟨?_, fun passed => absurd first.fails (passed _ fault)⟩
      rintro ⟨view, impossible⟩
      cases impossible
  | lent view passed | shared view passed => exact ⟨fun _ => passed, fun _ => ⟨view, rfl⟩⟩

theorem Course.error_iff (course : Course builder environment host last answer)
    (fault : ViewError) :
    answer = .error fault ↔ ∃ check, FirstFails builder environment host check fault := by
  cases course with
  | stopped check own first | unmade _ own first | spoilt _ own first =>
      rw [Except.error.injEq]
      constructor
      · intro same
        rw [← same]
        exact ⟨_, first⟩
      · rintro ⟨check, other⟩
        exact (first.unique other).2
  | lent view passed | shared view passed =>
      refine ⟨nofun, ?_⟩
      rintro ⟨check, first⟩
      exact absurd first.fails (passed check fault)

/-- Before the scripts no engine is touched or added and no script is looked up, and before engines
are made no factory is asked. -/
theorem Course.effects (course : Course builder environment host last answer) {check : Check}
    {fault : ViewError} (first : FirstFails builder environment host check fault) :
    (check ≠ .bootstrapped → last.engines = host.engines ∧ last.lookups = host.lookups) ∧
      (check.place < Check.created.place → last.makings = host.makings) := by
  cases course with
  | stopped _ _ _ _ engines lookups makings =>
      exact ⟨fun _ => ⟨engines, lookups⟩, fun _ => makings⟩
  | unmade _ _ own _ _ _ engines lookups =>
      refine ⟨fun _ => ⟨engines, lookups⟩, ?_⟩
      rw [← (own.unique first).1]
      exact fun impossible => absurd impossible (Nat.lt_irrefl _)
  | spoilt _ _ own =>
      rw [← (own.unique first).1]
      exact ⟨fun different => absurd rfl different, fun impossible => absurd impossible (by decide)⟩
  | lent _ passed | shared _ passed => exact absurd first.fails (passed check fault)

theorem Course.asked (course : Course builder environment host last answer) {resolved : Resolved}
    (settled : builder.Resolves environment resolved) (isShared : resolved.isShared = true)
    (below : PassesBelow builder environment host Check.created.place) :
    Asked environment host last resolved := by
  cases course with
  | stopped check fault first early => exact absurd first.fails (below check fault early)
  | unmade _ _ _ own _ asked | spoilt _ _ _ own _ asked =>
      rw [settled.unique own]
      exact asked
  | lent view _ own unshared =>
      rw [← settled.unique own, isShared] at unshared
      cases unshared
  | shared view _ own _ _ asked =>
      rw [settled.unique own]
      exact asked

theorem Course.untouched (course : Course builder environment host last answer)
    {resolved : Resolved} (settled : builder.Resolves environment resolved)
    (unshared : resolved.isShared = false) :
    last.engines = host.engines ∧ last.lookups = host.lookups ∧ last.makings = host.makings := by
  cases course with
  | stopped _ _ _ _ engines lookups makings | lent _ _ _ _ _ engines lookups makings =>
      exact ⟨engines, lookups, makings⟩
  | unmade _ _ _ own shared | spoilt _ _ _ own shared | shared _ _ own shared =>
      rw [← settled.unique own, unshared] at shared
      cases shared

theorem Course.agrees {view : View ε} (course : Course builder environment host last (.ok view)) :
    view.provider.isShared = view.settings.isShared := by
  cases course with
  | lent _ _ _ unshared lends => rw [unshared, lends]
  | shared _ _ _ shared shares => rw [shared, shares]

end Courses

/-! ### What a build does -/

variable {builder : ViewBuilder} {environment : Environment ε} {host : Host ε}

/-- Where contexts get engines of their own, nothing but the plan counts: with other files and
another loader, scripts included, the build answers and leaves the host as before. -/
theorem build_overlooks {plan : ViewPlan}
    (planned : builder.plan environment host.files = .ok plan)
    (unshared : plan.settings.isShared = false) (other : ViewBuilder)
    (elsewhere : Environment ε) (files : FileSystem) (loader : Loader)
    (same : elsewhere.registry = environment.registry)
    (replanned : other.plan elsewhere files = .ok { plan with loader := loader }) :
    other.build elsewhere { host with files := files } =
      ((builder.build environment host).1.map (View.withLoader loader),
        { (builder.build environment host).2 with files := files }) := by
  have rehosted : other.plan elsewhere ({ host with files := files } : Host ε).files =
      .ok { plan with loader := loader } := replanned
  cases source : plan.settings.engine with
  | «instance» engine =>
      rw [((plan_eq_ok_iff _ _ _ _).mp planned).2.1.isShared_of_instance engine source] at unshared
      cases unshared
  | named name =>
      cases found : environment.registry.find? name with
      | none =>
          rw [build_unknown rehosted source (same ▸ found), build_unknown planned source found,
            Host.foldl_report, Host.foldl_report]
          rfl
      | some factory =>
          rw [build_lent rehosted source (same ▸ found) unshared,
            build_lent planned source found unshared, Host.foldl_report, Host.foldl_report]
          rfl

/-- A build answers with a view exactly if no check fails, and otherwise with the first check that
fails. Engines keep their logs and no script is looked up until the scripts are run, and factories are
not asked until all checks before have passed; then a shared engine is asked for once. With an engine
per context no engine is made or touched and no script is looked up, so the scripts do not count. -/
theorem build_decided (builder : ViewBuilder) (environment : Environment (Logged ε))
    (host last : Host (Logged ε)) (answer : Except ViewError (View (Logged ε)))
    (known : ∀ resolved engine, builder.Resolves environment resolved →
      resolved.engine = .instance engine → engine.id < host.engines.length)
    (built : builder.build environment host = (answer, last)) :
    ((∃ view, answer = .ok view) ↔
      ∀ check fault, ¬ Fails builder environment host check fault) ∧
    (∀ fault, answer = .error fault ↔
      ∃ check, FirstFails builder environment host check fault) ∧
    (∀ check fault, FirstFails builder environment host check fault →
      (check ≠ .bootstrapped →
        (∃ cause, fault = .configuration cause) ∧ last.engines = host.engines ∧
          last.lookups = host.lookups) ∧
      (check.place < Check.created.place → last.makings = host.makings) ∧
      (check = .bootstrapped → ∃ resolved, builder.Resolves environment resolved ∧
        ∃ script ∈ resolved.scripts, fault = .resourceNotFound script ∨
          ∃ cause, fault = .scriptLoad script cause)) ∧
    (∀ resolved, builder.Resolves environment resolved → resolved.isShared = true →
      PassesBelow builder environment host Check.created.place →
      Asked environment host last resolved) ∧
    (∀ resolved, builder.Resolves environment resolved → resolved.isShared = false →
      last.engines = host.engines ∧ last.lookups = host.lookups ∧ last.makings = host.makings ∧
      ∀ (plan : ViewPlan) (other : ViewBuilder) (elsewhere : Environment (Logged ε))
        (files : FileSystem) (loader : Loader), elsewhere.registry = environment.registry →
        builder.plan environment host.files = .ok plan →
        other.plan elsewhere files = .ok { plan with loader := loader } →
        other.build elsewhere { host with files := files } =
          (answer.map (View.withLoader loader), { last with files := files })) ∧
    ∀ view, answer = .ok view → view.provider.isShared = view.settings.isShared := by
  have course := build_course known
  rw [built] at course
  refine ⟨course.ok_iff, course.error_iff, ?_, ?_, ?_, ?_⟩
  · intro check fault first
    obtain ⟨engines, makings⟩ := course.effects first
    refine ⟨fun early => ⟨first.fails.configuration early, engines early⟩, makings, ?_⟩
    intro scripts
    subst scripts
    exact first.fails.names_script
  · intro resolved settled isShared below
    exact course.asked settled isShared below
  · intro resolved settled unshared
    obtain ⟨engines, lookups, makings⟩ := course.untouched settled unshared
    refine ⟨engines, lookups, makings, ?_⟩
    intro plan other elsewhere files loader same planned replanned
    have settings := settled.unique ((plan_eq_ok_iff _ _ _ _).mp planned).2.1
    rw [settings] at unshared
    have overlooked := build_overlooks planned unshared other elsewhere files loader same replanned
    rw [built] at overlooked
    exact overlooked
  · intro view ok
    subst ok
    exact course.agrees

/-- A builder with an engine that was supplied and two scripts, the second of which is missing. -/
def halfway : ViewBuilder where
  url := some "t"
  settings := { engine := some ⟨0, "recording"⟩, scripts := some ["a.js", "b.js"],
                renderFunction := some "render" }
  loader := some (.memory [("a.js", [])])

def unfurnished : Environment (Logged Recorder) where
  loader := .memory []
  registry := {}
  templates := [{}]

theorem build_decided_second_script :
    ∃ check, FirstFails halfway unfurnished
      { files := ⟨[], []⟩, engines := [Logged.new { callables := {} }] } check
      (.resourceNotFound "b.js") := by
  have settled : halfway.Resolves unfurnished
      ⟨.instance ⟨0, "recording"⟩, ["a.js", "b.js"], none, "render", .utf8, .utf8,
        "text/html;charset=UTF-8", "classpath:", none⟩ := ⟨{}, rfl, by decide +kernel⟩
  have decided := build_decided halfway unfurnished
    { files := ⟨[], []⟩, engines := [Logged.new { callables := {} }] } _ _ (by
      intro resolved engine own source
      rw [own.unique settled, EngineSource.instance.injEq] at source
      rw [← source]
      exact Nat.zero_lt_one) rfl
  exact (decided.2.1 _).mp rfl

end ViewBuilder

end Stencil
