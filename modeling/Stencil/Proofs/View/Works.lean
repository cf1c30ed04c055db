import Stencil.Proofs.Machine
import Stencil.Proofs.View.Provision
import Stencil.View.Resolver

/-!
A site at work: views are built and used in any order, contexts come and go, and files change. The
engines remember what they were given. `Site.Deed` says once what any step does to engines, and
`Site.Orderly` is what every step keeps.
-/

namespace Stencil

variable {ε : Type}

/-- The same environment, whose engines remember. -/
def Environment.logged (environment : Environment ε) : Environment (Logged ε) :=
  ⟨environment.loader, environment.registry.logged, environment.templates⟩

namespace Site

/-- What can be done on a site. Views are named by their numbers. -/
inductive Operation (ε : Type) where
  | build (environment : Environment ε) (builder : ViewBuilder)
  | render (number : Nat) (context : RenderContext) (model : List (String × Json))
  | renderText (number : Nat) (context : RenderContext) (model : List (String × Json))
  | engine (number : Nat) (context : RenderContext)
  | release (number : Nat) (context : RenderContext)
  | purge (number : Nat)
  | enter (name : Option String)
  | clone (context : RenderContext)
  | drop (context : RenderContext)
  | write (files : FileSystem)

/-- The view that an operation is done with. -/
def Operation.view? : Operation ε → Option Nat
  | .render number _ _ => some number
  | .renderText number _ _ => some number
  | .engine number _ => some number
  | .release number _ => some number
  | .purge number => some number
  | _ => none

inductive Outcome where
  | built (answer : Except ViewError Nat)
  | rendered (answer : Except ViewError Response)
  | text (answer : Except ViewError String)
  | engine (answer : Except ViewError EngineHandle)
  | released (found : Bool)
  | purged (count : Nat)
  | done
  /-- There is no such view or engine. -/
  | refused

def Outcome.engine? : Outcome → Option EngineHandle
  | .engine answer => answer.toOption
  | _ => none

/-- The engine that a build is given, if it is given one. -/
def supplied (site : Site (Logged ε)) : Operation ε → Option EngineHandle
  | .build environment builder =>
      (builder.plan environment.logged site.host.files).toOption.bind ViewPlan.supplied
  | _ => none

def withView (site : Site (Logged ε)) (number : Nat)
    (act : View (Logged ε) → Outcome × View (Logged ε) × Host (Logged ε)) :
    Outcome × Site (Logged ε) :=
  match site.view? number with
  | none => (.refused, site)
  | some view =>
      let acted := act view
      (acted.1, site.update number acted.2.1 acted.2.2)

variable [ScriptEngine ε]

def step (site : Site (Logged ε)) : Operation ε → Outcome × Site (Logged ε)
  | .build environment builder =>
      -- Only an engine that is there can be supplied.
      if (site.supplied (.build environment builder)).all
          (fun engine => engine.id < site.host.engines.length) then
        let built := site.build environment.logged builder
        (.built built.1, built.2)
      else (.refused, site)
  | .render number context model =>
      site.withView number fun view =>
        let rendered := view.render context model site.host
        (.rendered rendered.answer, rendered.view, rendered.host)
  | .renderText number context model =>
      site.withView number fun view =>
        let rendered := view.renderText context model site.host
        (.text rendered.answer, rendered.view, rendered.host)
  | .engine number context =>
      site.withView number fun view =>
        let served := view.engine context site.host
        (.engine served.answer, served.view, served.host)
  | .release number context =>
      site.withView number fun view =>
        let released := view.release context
        (.released released.1, released.2, site.host)
  | .purge number =>
      site.withView number fun view =>
        let purged := view.provider.purge site.host
        (.purged purged.1, { view with provider := purged.2.1 }, purged.2.2)
  | .enter name => (.done, { site with host := (site.host.openContext name).2 })
  | .clone context => (.done, { site with host := site.host.cloneContext context })
  | .drop context => (.done, { site with host := site.host.dropContext context })
  | .write files => (.done, { site with host := { site.host with files := files } })

def turns (site : Site (Logged ε)) (operations : List (Operation ε)) :
    List (Turn (Site (Logged ε)) (Operation ε) Outcome) :=
  Machine.turns step site operations

def finish (site : Site (Logged ε)) (operations : List (Operation ε)) : Site (Logged ε) :=
  Machine.finish step site operations

/-! ### What a step does -/

omit [ScriptEngine ε] in
/-- The view of a number, which runs the given scripts, has an engine. -/
def Serves (site : Site (Logged ε)) (number : Nat) (bootstrap : Bootstrap)
    (engine : EngineHandle) : Prop :=
  ∃ view, site.view? number = some view ∧ view.bootstrap = bootstrap ∧
    engine ∈ view.provider.engines

/-- Every view runs its own scripts, and its engines are there. -/
structure Orderly (site : Site (Logged ε)) : Prop where
  ready : ∀ number view, site.view? number = some view → view.Ready
  entered : ∀ number view, site.view? number = some view →
    ∀ engine ∈ view.provider.engines, engine.id < site.host.engines.length

/-- What a step does to engines: nothing, what an operation of a view does, or what a build does. -/
inductive Deed (before after : Site (Logged ε)) (operation : Operation ε) (outcome : Outcome) :
    Prop where
  | quiet (still : after.host.engines = before.host.engines)
      (views : ∀ number view, after.view? number = some view → view.Ready ∧
        (before.view? number = some view ∨
          before.views.length ≤ number ∧ view.provider.engines = []))
      (count : before.views.length ≤ after.views.length) (silent : outcome.engine? = none)
  | worked (number : Nat) (view last : View (Logged ε)) (on : operation.view? = some number)
      (found : before.view? number = some view)
      (deed : View.Deed view last before.host.files before.host.engines after.host.engines
        outcome.engine?)
      (same : last.bootstrap = view.bootstrap) (ready : last.Ready)
      (placed : after.views = before.views.set number last)
  | built (environment : Environment ε) (builder : ViewBuilder) (plan : ViewPlan)
      (engine : EngineHandle) (block : List Exchange) (view : View (Logged ε))
      (asked : operation = .build environment builder)
      (planned : builder.plan environment.logged before.host.files = .ok plan)
      (answered : outcome = .built (.ok before.views.length))
      (ran : Bootstrap.Ran plan.bootstrap before.host.files plan.bootstrap.scripts block (.ok ()))
      (gain : Gain before.host.engines after.host.engines engine.id block)
      (origin : plan.Origin before.host.engines after.host.engines engine.id)
      (scripts : view.bootstrap = plan.bootstrap) (ready : view.Ready)
      (own : view.provider.engines = [engine]) (placed : after.views = before.views ++ [view])
  | unbuilt (environment : Environment ε) (builder : ViewBuilder) (plan : ViewPlan) (id : Nat)
      (block : List Exchange) (fault : ViewError)
      (asked : operation = .build environment builder)
      (planned : builder.plan environment.logged before.host.files = .ok plan)
      (answered : outcome = .built (.error fault))
      (ran : Bootstrap.Ran plan.bootstrap before.host.files plan.bootstrap.scripts block
        (.error fault))
      (gain : Gain before.host.engines after.host.engines id block)
      (origin : plan.Origin before.host.engines after.host.engines id)
      (placed : after.views = before.views)

variable {site : Site (Logged ε)}

omit [ScriptEngine ε] in
theorem Orderly.quiet (orderly : site.Orderly) (host : Host (Logged ε)) (operation : Operation ε)
    (outcome : Outcome) (still : host.engines = site.host.engines)
    (silent : outcome.engine? = none) :
    Deed site { site with host := host } operation outcome := by
  refine .quiet still ?_ (Nat.le_refl _) silent
  intro number view found
  exact ⟨orderly.ready number view found, Or.inl found⟩

omit [ScriptEngine ε] in
theorem Orderly.withView (orderly : site.Orderly) (number : Nat) (operation : Operation ε)
    (on : operation.view? = some number)
    (act : View (Logged ε) → Outcome × View (Logged ε) × Host (Logged ε))
    (acts : ∀ view, site.view? number = some view →
      View.Deed view (act view).2.1 site.host.files site.host.engines (act view).2.2.engines
          (act view).1.engine? ∧
        (act view).2.1.bootstrap = view.bootstrap ∧ (act view).2.1.Ready) :
    Deed site (site.withView number act).2 operation (site.withView number act).1 := by
  unfold Site.withView
  cases found : site.view? number with
  | none => exact orderly.quiet site.host operation .refused rfl rfl
  | some view =>
      obtain ⟨deed, same, ready⟩ := acts view found
      exact .worked number view (act view).2.1 on found deed same ready rfl

end Site

namespace View

variable (view : View (Logged ε)) (ready : view.Ready)

include ready

theorem Ready.withProvider (provider : Provider (Logged ε))
    (kept : provider.bootstrap = view.provider.bootstrap ∧
      (view.provider.Fresh → provider.Fresh)) :
    ({ view with provider := provider } : View (Logged ε)).Ready where
  scripts := kept.1.trans ready.scripts
  fresh := kept.2 ready.fresh

theorem renderText_ready [ScriptEngine ε] (context : RenderContext) (model : List (String × Json))
    (host : Host (Logged ε)) :
    (view.renderText context model host).view.bootstrap = view.bootstrap ∧
      (view.renderText context model host).view.Ready := by
  rcases view.renderText_view context host model with same | served
  · rw [same]
    exact ⟨rfl, ready⟩
  · rw [served]
    exact ⟨rfl, Ready.withProvider view ready _ (view.provider.engine_keeps context host)⟩

end View

namespace Site

variable [ScriptEngine ε] {site : Site (Logged ε)}

omit [ScriptEngine ε] in
theorem view?_of_append (before after : Site (Logged ε)) {last : View (Logged ε)}
    (placed : after.views = before.views ++ [last]) {number : Nat} {view : View (Logged ε)}
    (found : after.view? number = some view) :
    before.view? number = some view ∨ number = before.views.length ∧ view = last := by
  unfold view? at *
  rw [placed, List.getElem?_append] at found
  split at found
  · exact Or.inl found
  · obtain ⟨inside, same⟩ := List.getElem?_eq_some_iff.mp found
    rw [List.length_singleton] at inside
    refine Or.inr ⟨by omega, ?_⟩
    rw [← same, List.getElem_singleton]

omit [ScriptEngine ε] in
theorem view?_of_set (before after : Site (Logged ε)) {changed : Nat} {last : View (Logged ε)}
    (placed : after.views = before.views.set changed last) {number : Nat}
    {view : View (Logged ε)} (found : after.view? number = some view) :
    before.view? number = some view ∨ number = changed ∧ view = last := by
  unfold view? at *
  rw [placed] at found
  by_cases same : changed = number
  · subst same
    obtain ⟨inside, own⟩ := List.getElem?_eq_some_iff.mp found
    rw [List.getElem_set_self] at own
    exact Or.inr ⟨rfl, own.symm⟩
  · rw [List.getElem?_set_ne same] at found
    exact Or.inl found

theorem Orderly.build_deed (orderly : site.Orderly) (environment : Environment ε)
    (builder : ViewBuilder)
    (known : ∀ engine, site.supplied (.build environment builder) = some engine →
      engine.id < site.host.engines.length) :
    Deed site (site.build environment.logged builder).2 (.build environment builder)
      (.built (site.build environment.logged builder).1) := by
  cases planned : builder.plan environment.logged site.host.files with
  | error fault =>
      simp only [Site.build, ViewBuilder.build, planned]
      exact orderly.quiet site.host _ _ rfl rfl
  | ok plan =>
      have given : ∀ engine, plan.supplied = some engine →
          engine.id < site.host.engines.length := by
        intro engine given
        refine known engine ?_
        simp only [supplied, planned]
        exact given
      let started : Host (Logged ε) :=
        { site.host with journal := site.host.journal ++ plan.events.map Entry.reported }
      have provision : plan.Provision started
          (plan.provide environment.logged.registry started).2
          (plan.provide environment.logged.registry started).1 :=
        plan.provide_provision environment.registry _ given
      rcases provided : plan.provide environment.logged.registry started with ⟨answer, last⟩
      rw [provided] at provision
      simp only [Site.build, ViewBuilder.build, planned, Host.foldl_report, started, provided]
      cases provision with
      | refused fault still => exact orderly.quiet last _ (.built (.error fault)) still rfl
      | lent factory fresh still =>
          refine .quiet still ?_ (by simp) rfl
          intro number view found
          rcases view?_of_append site _ rfl found with old | new
          · exact ⟨orderly.ready number view old, Or.inl old⟩
          · rw [new.2]
            exact ⟨⟨rfl, fresh⟩, Or.inr ⟨Nat.le_of_eq new.1.symm, rfl⟩⟩
      | shared engine block ran gain origin =>
          exact .built environment builder plan engine block
            ⟨plan.url, plan.settings, plan.loader, ⟨plan.bootstrap, .shared engine⟩⟩ rfl planned rfl
            ran gain origin rfl ⟨rfl, trivial⟩ rfl rfl
      | spoilt id block fault ran gain origin =>
          exact .unbuilt environment builder plan id block fault rfl planned rfl ran gain origin rfl

theorem Orderly.deed (orderly : site.Orderly) (operation : Operation ε) :
    Deed site (site.step operation).2 operation (site.step operation).1 := by
  cases operation with
  | build environment builder =>
      by_cases known : (site.supplied (.build environment builder)).all
          (fun engine => engine.id < site.host.engines.length) = true
      · simp only [step, if_pos known]
        refine orderly.build_deed environment builder ?_
        intro engine given
        rw [given] at known
        exact of_decide_eq_true known
      · simp only [step, if_neg known]
        exact orderly.quiet site.host _ .refused rfl rfl
  | render number context model =>
      refine orderly.withView number _ rfl _ ?_
      intro view found
      have ready := orderly.ready number view found
      obtain ⟨events, rendered⟩ := view.render_eq context model site.host
      have kept := view.renderText_ready ready context model site.host
      rw [rendered]
      refine ⟨?_, kept⟩
      dsimp only
      rw [Host.foldl_report]
      exact view.renderText_deed ready context site.host (orderly.entered number view found) model
  | renderText number context model =>
      refine orderly.withView number _ rfl _ ?_
      intro view found
      have ready := orderly.ready number view found
      exact ⟨view.renderText_deed ready context site.host (orderly.entered number view found) model,
        view.renderText_ready ready context model site.host⟩
  | engine number context =>
      refine orderly.withView number _ rfl _ ?_
      intro view found
      have ready := orderly.ready number view found
      exact ⟨view.provider_deed ready context site.host, rfl,
        View.Ready.withProvider view ready _ (view.provider.engine_keeps context site.host)⟩
  | release number context =>
      refine orderly.withView number _ rfl _ ?_
      intro view found
      have ready := orderly.ready number view found
      exact ⟨.idle rfl (view.provider.mem_engines_of_release context) rfl, rfl,
        View.Ready.withProvider view ready _ (view.provider.release_keeps context)⟩
  | purge number =>
      refine orderly.withView number _ rfl _ ?_
      intro view found
      have ready := orderly.ready number view found
      exact ⟨.idle (view.provider.purge_engines site.host)
          (view.provider.mem_engines_of_purge site.host) rfl, rfl,
        View.Ready.withProvider view ready _ (view.provider.purge_keeps site.host)⟩
  | enter name => exact orderly.quiet _ _ _ rfl rfl
  | clone context => exact orderly.quiet _ _ _ rfl rfl
  | drop context => exact orderly.quiet _ _ _ rfl rfl
  | write files => exact orderly.quiet _ _ _ rfl rfl

end Site

end Stencil
