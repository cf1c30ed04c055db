import Stencil.Proofs.Engine.Making
import Stencil.Proofs.View.Naming

/-!
How views come by engines that their settings name. A view whose settings name an engine to share asks
a factory for one when it is built, and keeps to it in every context (`View.KeepsTo`). `Site.Hires`
lists all that a step can come to for these views: they stay as they are, or one more comes with an
engine that was made for it.
-/

namespace Stencil

variable {ε : Type}

/-- The settings name an engine that all contexts share. -/
def Resolved.sharesNamed (resolved : Resolved) : Bool :=
  match resolved.engine with
  | .instance _ => false
  | .named _ => resolved.isShared

namespace View

/-- What a view has for an engine whose settings name one to share. -/
def station? (view : View ε) : Option (Option EngineHandle) :=
  if view.settings.sharesNamed then some view.provider.only? else none

/-- A view with an engine that was supplied is no such view. -/
theorem station_of_instance {view : View ε} (engine : EngineHandle)
    (source : view.settings.engine = .instance engine) : view.station? = none := by
  unfold station? Resolved.sharesNamed
  rw [source]
  rfl

theorem station_of_unshared {view : View ε} (unshared : view.settings.isShared = false) :
    view.station? = none := by
  unfold station? Resolved.sharesNamed
  cases view.settings.engine with
  | «instance» engine => rfl
  | named name =>
      rw [unshared]
      rfl

theorem station_of_made {view : View ε} (name : String)
    (source : view.settings.engine = .named name) (shared : view.settings.isShared = true)
    (engine : EngineHandle) (only : view.provider.only? = some engine) :
    view.station? = some (some engine) := by
  unfold station? Resolved.sharesNamed
  rw [source, shared, only]
  rfl

/-- Every context is answered with one engine, and a render does nothing to any other engine and asks
no factory. -/
structure KeepsTo [ScriptEngine ε] (view : View ε) (engine : EngineHandle) : Prop where
  answers : ∀ (context : RenderContext) (host : Host ε),
    view.engine context host = ⟨.ok engine, view, host⟩
  renders : ∀ (context : RenderContext) (model : List (String × Json)) (host : Host ε),
    host.Within (view.renderText context model host).host engine.id

/-- What an operation of a view keeps: the settings and the engine of every context. -/
structure Steady (view : View ε) (host : Host ε) (last : View ε) (after : Host ε) : Prop where
  grows : host.Grows after
  settings : last.settings = view.settings
  only : last.provider.only? = view.provider.only?

theorem Steady.station {view last : View ε} {host after : Host ε}
    (steady : Steady view host last after) : last.station? = view.station? := by
  unfold station?
  rw [steady.settings, steady.only]

variable [ScriptEngine ε]

theorem call_within (settings : Resolved) (engine : EngineHandle) (arguments : List Json)
    (host : Host ε) : host.Within (call settings engine arguments host).2 engine.id := by
  unfold call
  cases settings.renderObject with
  | none => exact host.command_within engine _
  | some receiver => exact host.command_within engine _

variable (view : View ε) (context : RenderContext) (model : List (String × Json)) (host : Host ε)

theorem renderText_within (engine : EngineHandle) (only : view.provider.only? = some engine) :
    host.Within (view.renderText context model host).host engine.id := by
  unfold renderText run View.engine
  rw [view.provider.engine_only engine only context host]
  cases view.template host.files with
  | error fault => exact host.report_within _ _
  | ok text =>
      have called := call_within view.settings engine [.string text, .ofMembers model] host
      dsimp only
      generalize call view.settings engine [.string text, .ofMembers model] host = reply at called ⊢
      obtain ⟨answer, last⟩ := reply
      cases answer with
      | error cause => exact called.trans (last.report_within _ _)
      | ok done => exact called

theorem keepsTo_of_only (engine : EngineHandle) (only : view.provider.only? = some engine) :
    view.KeepsTo engine where
  answers context host := by
    unfold View.engine
    rw [view.provider.engine_only engine only context host]
  renders context model host := view.renderText_within context model host engine only

theorem engine_steady :
    Steady view host (view.engine context host).view (view.engine context host).host where
  grows := (view.provider.engine_grows context host).1
  settings := rfl
  only := (view.provider.engine_grows context host).2

theorem renderText_grows : host.Grows (view.renderText context model host).host := by
  have served := (view.provider.engine_grows context host).1
  unfold renderText run View.engine
  cases view.template host.files with
  | error fault => exact (host.report_within _ 0).grows
  | ok text =>
      dsimp only
      generalize view.provider.engine context host = answered at served ⊢
      obtain ⟨answer, provider, last⟩ := answered
      cases answer with
      | error fault => exact served.trans (last.report_within _ 0).grows
      | ok engine =>
          have called := call_within view.settings engine [.string text, .ofMembers model] last
          dsimp only
          generalize call view.settings engine [.string text, .ofMembers model] last = reply
            at called ⊢
          obtain ⟨answer, after⟩ := reply
          cases answer with
          | error cause =>
              exact served.trans (called.trans (after.report_within _ engine.id)).grows
          | ok done => exact served.trans called.grows

theorem renderText_steady :
    Steady view host (view.renderText context model host).view
      (view.renderText context model host).host where
  grows := view.renderText_grows context model host
  settings := (view.renderText_alike context model host).2.1
  only := by
    rcases view.renderText_view context host model with same | served
    · rw [same]
    · rw [served]
      exact (view.provider.engine_grows context host).2

theorem render_steady :
    Steady view host (view.render context model host).view
      (view.render context model host).host := by
  have steady := view.renderText_steady context model host
  obtain ⟨events, rendered⟩ := view.render_eq context model host
  rw [rendered]
  exact ⟨steady.grows.trans (Host.foldl_report_grows _ events), steady.settings, steady.only⟩

end View

namespace Site

def stations (site : Site ε) : List (Option (Option EngineHandle)) :=
  site.views.map View.station?

/-- What anything that is done on a site comes to: the views that were there stay as they are, and no
view with settings that name an engine to share comes but with an engine that a factory made for it. -/
inductive Hires (before after : Site ε) : Prop where
  | quiet (news : List (Option (Option EngineHandle))) (idle : ∀ station ∈ news, station = none)
      (grows : before.host.Grows after.host) (stations : after.stations = before.stations ++ news)
  | hired (engine : EngineHandle) (newest : engine.id = before.host.engines.length)
      (count : after.host.engines.length = before.host.engines.length + 1)
      (made : after.host.made = before.host.made ++ [engine.id])
      (stations : after.stations = before.stations ++ [some (some engine)])

theorem stations_append {before after : Site ε} {view : View ε}
    (placed : after.views = before.views ++ [view]) :
    after.stations = before.stations ++ [view.station?] := by
  unfold stations
  rw [placed, List.map_append, List.map_singleton]

theorem stations_set {before after : Site ε} {number : Nat} {view last : View ε}
    (found : before.view? number = some view) (same : last.station? = view.station?)
    (placed : after.views = before.views.set number last) : after.stations = before.stations := by
  obtain ⟨inside, own⟩ := List.getElem?_eq_some_iff.mp found
  have mapped : number < (before.views.map View.station?).length := by
    rw [List.length_map]
    exact inside
  have held : (before.views.map View.station?)[number] = view.station? := by
    rw [List.getElem_map, own]
  unfold stations
  rw [placed, List.map_set, same, ← held, List.set_getElem_self]

theorem Hires.still {before after : Site ε} (grows : before.host.Grows after.host)
    (same : after.stations = before.stations) : Hires before after :=
  .quiet [] nofun grows (same.trans (List.append_nil _).symm)

/-! ### Steps -/

variable [ScriptEngine ε]

theorem build_instance_grows {environment : Environment ε} {builder : ViewBuilder} {host : Host ε}
    {plan : ViewPlan} (planned : builder.plan environment host.files = .ok plan)
    (engine : EngineHandle) (source : plan.settings.engine = .instance engine) :
    host.Grows (builder.build environment host).2 := by
  have reported := host.foldl_report_grows plan.events
  have ran := Provider.shared_within engine plan.bootstrap (plan.events.foldl Host.report host)
  unfold ViewBuilder.build ViewPlan.provide ViewPlan.provideInstance
  simp only [planned, source]
  generalize Provider.shared engine plan.bootstrap (plan.events.foldl Host.report host) = provided
    at ran ⊢
  obtain ⟨answer, last⟩ := provided
  cases answer with
  | error fault => exact reported.trans ran.grows
  | ok provider => exact reported.trans (ran.trans (last.report_within _ engine.id)).grows

theorem hires_of_idle {site : Site ε} {environment : Environment ε} {builder : ViewBuilder}
    (grows : site.host.Grows (builder.build environment site.host).2)
    (idle : ∀ view, (builder.build environment site.host).1 = .ok view → view.station? = none) :
    Hires site (site.build environment builder).2 := by
  unfold build
  generalize builder.build environment site.host = built at grows idle ⊢
  obtain ⟨answer, last⟩ := built
  cases answer with
  | error fault => exact .still grows rfl
  | ok view =>
      refine .quiet [view.station?] ?_ grows (stations_append rfl)
      intro station member
      rw [List.mem_singleton.mp member]
      exact idle view rfl

theorem hires_of_failed {site : Site ε} {environment : Environment ε} {builder : ViewBuilder}
    {fault : ViewError} {last : Host ε}
    (built : builder.build environment site.host = (.error fault, last))
    (grows : site.host.Grows last) : Hires site (site.build environment builder).2 := by
  refine hires_of_idle ?_ ?_
  · rw [built]
    exact grows
  · intro view ok
    rw [built] at ok
    cases ok

/-- A build that gets its engine from a factory adds a view with this engine, unless a script fails. -/
theorem build_made_hires {site : Site ε} {environment : Environment ε} {builder : ViewBuilder}
    {plan : ViewPlan} (planned : builder.plan environment site.host.files = .ok plan)
    {name : String} (source : plan.settings.engine = .named name) {factory : Factory ε}
    (known : environment.registry.find? name = some factory)
    (shared : plan.settings.isShared = true) (fresh : ε)
    (gave : factory.make (site.host.requests factory.id) = .ok fresh) :
    Hires site (site.build environment builder).2 := by
  obtain ⟨noted, built⟩ := ViewBuilder.build_made planned source known shared fresh gave
  generalize plan.bootstrap.pass site.host.files fresh plan.bootstrap.scripts = passed at built
  obtain ⟨answer, state⟩ := passed
  have grows := site.host.withMaking_grows factory.id (some state) noted
  have made := site.host.withMaking_made factory.id (some state) noted
  have count : (site.host.withMaking factory.id (some state) noted).engines.length =
      site.host.engines.length + 1 := by
    rw [Host.withMaking_engines, List.length_append]
    rfl
  unfold build
  rw [built]
  cases answer with
  | error fault => exact .still grows rfl
  | ok done =>
      have stationed : (plan.view (⟨plan.bootstrap,
          .shared ⟨site.host.engines.length, ScriptEngine.name fresh⟩⟩ : Provider ε)).station? =
            some (some ⟨site.host.engines.length, ScriptEngine.name fresh⟩) :=
        View.station_of_made name source shared ⟨site.host.engines.length, ScriptEngine.name fresh⟩ rfl
      refine .hired ⟨site.host.engines.length, ScriptEngine.name fresh⟩ rfl count made
        ((stations_append rfl).trans ?_)
      rw [stationed]

theorem build_hires (site : Site ε) (environment : Environment ε) (builder : ViewBuilder) :
    Hires site (site.build environment builder).2 := by
  cases planned : builder.plan environment site.host.files with
  | error fault =>
      have built : builder.build environment site.host = (.error fault, site.host) := by
        unfold ViewBuilder.build
        rw [planned]
      exact hires_of_failed built (Host.Grows.of_eq rfl rfl)
  | ok plan =>
      have settled : ∀ view, (builder.build environment site.host).1 = .ok view →
          view.settings = plan.settings := by
        intro view ok
        obtain ⟨own, provider, replanned, same⟩ :=
          ViewBuilder.exists_plan_of_build (Prod.ext ok rfl)
        rw [planned, Except.ok.injEq] at replanned
        rw [same, ← replanned]
        rfl
      -- Only a factory that gives an engine for a name to share brings such a view.
      cases source : plan.settings.engine with
      | «instance» engine =>
          refine hires_of_idle (build_instance_grows planned engine source) ?_
          intro view ok
          exact View.station_of_instance engine ((settled view ok).symm ▸ source)
      | named name =>
          cases known : environment.registry.find? name with
          | none =>
              have built := ViewBuilder.build_unknown planned source known
              exact hires_of_failed built (site.host.foldl_report_grows plan.events)
          | some factory =>
              cases shared : plan.settings.isShared with
              | false =>
                  refine hires_of_idle ?_ ?_
                  · rw [ViewBuilder.build_lent planned source known shared]
                    exact site.host.foldl_report_grows _
                  · intro view ok
                    exact View.station_of_unshared ((settled view ok).symm ▸ shared)
              | true =>
                  cases gave : factory.make (site.host.requests factory.id) with
                  | error cause =>
                      have built := ViewBuilder.build_unmade planned source known shared cause gave
                      exact hires_of_failed built (site.host.withMaking_grows _ _ _)
                  | ok fresh => exact build_made_hires planned source known shared fresh gave

section

variable (site : Site (Logged ε))

omit [ScriptEngine ε] in
theorem withView_hires (number : Nat)
    (act : View (Logged ε) → Outcome × View (Logged ε) × Host (Logged ε))
    (steady : ∀ view, View.Steady view site.host (act view).2.1 (act view).2.2) :
    Hires site (site.withView number act).2 := by
  unfold withView
  cases found : site.view? number with
  | none => exact .still (Host.Grows.of_eq rfl rfl) rfl
  | some view => exact .still (steady view).grows (stations_set found (steady view).station rfl)

theorem step_hires (operation : Operation ε) : Hires site (site.step operation).2 := by
  cases operation with
  | build environment builder =>
      by_cases known : (site.supplied (.build environment builder)).all
          (fun engine => engine.id < site.host.engines.length) = true
      · simp only [step, if_pos known]
        exact site.build_hires environment.logged builder
      · simp only [step, if_neg known]
        exact .still (Host.Grows.of_eq rfl rfl) rfl
  | render number context model =>
      exact site.withView_hires number _ fun view => view.render_steady context model site.host
  | renderText number context model =>
      exact site.withView_hires number _ fun view => view.renderText_steady context model site.host
  | engine number context =>
      exact site.withView_hires number _ fun view => view.engine_steady context site.host
  | release number context =>
      exact site.withView_hires number _ fun view =>
        ⟨Host.Grows.of_eq rfl rfl, rfl, view.provider.release_only context⟩
  | purge number =>
      exact site.withView_hires number _ fun view =>
        ⟨(view.provider.purge_grows site.host).1, rfl, (view.provider.purge_grows site.host).2⟩
  | enter name => exact .still (Host.Grows.of_eq rfl rfl) rfl
  | clone context => exact .still (Host.Grows.of_eq rfl rfl) rfl
  | drop context => exact .still (Host.Grows.of_eq rfl rfl) rfl
  | write files => exact .still (Host.Grows.of_eq rfl rfl) rfl

end

end Site

namespace Resolver

namespace Session

theorem step_hires [ScriptEngine ε] (session : Session ε) (operation : Operation ε) :
    session.site.Hires (session.step operation).2.site := by
  cases operation with
  | resolve name =>
      rcases session.step_resolve name with ⟨id, _, _, same⟩ | ⟨_, built⟩
      · rw [same]
        exact .still (Host.Grows.of_eq rfl rfl) rfl
      · rw [built]
        exact session.site.build_hires _ _
  | forget name => exact .still (Host.Grows.of_eq rfl rfl) rfl
  | clear => exact .still (Host.Grows.of_eq rfl rfl) rfl
  | count => exact .still (Host.Grows.of_eq rfl rfl) rfl
  | work operation => exact session.site.step_hires operation

end Session

end Resolver

end Stencil
