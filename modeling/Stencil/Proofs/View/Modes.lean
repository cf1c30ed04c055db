import Stencil.Proofs.View.Checks
import Stencil.Proofs.View.Isolation

/-!
A shared engine and an engine per context serve one context alike. The view without sharing is known
to act for a context as a `View.Solo` does; `Beside` sets the view with a shared engine next to such
a `Solo`, and both answer alike as long as nothing is released. The engine of the one is
bootstrapped when the view is built and that of the other when a render first asks for it, so a
bootstrap that fails fails the build of the one and every render of the other.
-/

namespace Stencil

variable {ε : Type}

/-! ### The same build without sharing -/

def Resolved.unshared (resolved : Resolved) : Resolved :=
  { resolved with shared := some false }

def ViewPlan.unshared (plan : ViewPlan) : ViewPlan :=
  { plan with settings := plan.settings.unshared }

def ViewBuilder.unshared (builder : ViewBuilder) : ViewBuilder :=
  { builder with settings := { builder.settings with shared := some false } }

/-- The view with an engine per context in place of its own one. -/
def View.unshared (factory : Factory ε) (view : View ε) : View ε :=
  { view with
    settings := view.settings.unshared
    provider := ⟨view.provider.bootstrap, .perContext factory []⟩ }

namespace ViewBuilder

variable {builder : ViewBuilder} {environment : Environment ε}

theorem plan_unshared {files : FileSystem} {planned : ViewPlan}
    (ok : builder.plan environment files = .ok planned) (name : String)
    (source : planned.settings.engine = .named name) :
    builder.unshared.plan environment files = .ok planned.unshared := by
  obtain ⟨address, ⟨template, only, resolved⟩, found⟩ := (plan_eq_ok_iff _ _ _ _).mp ok
  refine (plan_eq_ok_iff _ _ _ _).mpr ⟨address, ⟨template, only, ?_⟩, found⟩
  exact Settings.resolve_unshared resolved name source

variable [ScriptEngine ε] {host : Host ε}

/-- Without sharing there is a view whenever there is a plan for a factory that is known. -/
theorem build_unshared {plan : ViewPlan} (planned : builder.plan environment host.files = .ok plan)
    {name : String} (source : plan.settings.engine = .named name) {factory : Factory ε}
    (registered : environment.registry.find? name = some factory) (provider : Provider ε)
    (bootstrap : provider.bootstrap = plan.bootstrap) :
    ∃ last, builder.unshared.build environment host =
        (.ok ((plan.view provider).unshared factory), last) ∧ last.files = host.files := by
  have built := build_lent (plan_unshared planned name source) source registered rfl
  rw [Host.foldl_report] at built
  refine ⟨_, built.trans (congrArg (fun view => (Except.ok view, _)) ?_), rfl⟩
  unfold View.unshared ViewPlan.view
  rw [bootstrap]
  rfl

end ViewBuilder

namespace View

/-! ### A shared engine beside an engine of its own -/

/-- A context of a view with a shared engine beside a context that has an engine of its own: as many
handles, and while there is one, the engine it has or would get is in the state of the shared one.
-/
structure Beside [ScriptEngine ε] (view : View ε) (engine : EngineHandle) (factory : Factory ε)
    (files : FileSystem) (context : RenderContext) (session : Session ε) (solo : Solo ε) : Prop where
  only : session.view = view
  handles : session.host.handles.getD context.id 0 = solo.handles
  serves : ∃ state, session.host.engines[engine.id]? = some state ∧
    (0 < solo.handles → Provider.obtained view.provider.bootstrap factory files solo.engine =
      .ok (engine.name, state))
  files : session.host.files = files

namespace Beside

variable [ScriptEngine ε] {view : View ε} {engine : EngineHandle} {factory : Factory ε}
  {files : FileSystem} {context : RenderContext} {session : Session ε} {solo : Solo ε}

/-- A change to the handles of the context alone. -/
theorem handled (beside : Beside view engine factory files context session solo)
    (live : 0 < solo.handles) (change : Nat → Nat) (own : Option (String × ε))
    (kept : 0 < change solo.handles → own = solo.engine) :
    Beside view engine factory files context
      { session with host := { session.host with
        handles := session.host.handles.modify context.lease change } }
      ⟨change solo.handles, own⟩ where
  only := beside.only
  files := beside.files
  handles := by
    have inside : context.id < session.host.handles.length := by
      apply session.host.lt_of_isLive
      unfold Host.isLive
      rw [beside.handles]
      exact decide_eq_true live
    rw [context.leased, ← beside.handles, List.getD_eq_getElem?_getD, List.getD_eq_getElem?_getD,
      List.getElem?_modify_eq, List.getElem?_eq_getElem inside]
    rfl
  serves := by
    obtain ⟨state, found, obtained⟩ := beside.serves
    refine ⟨state, found, ?_⟩
    intro still
    rw [kept still]
    exact obtained live

/-- A change to the shared engine alone. -/
theorem served (beside : Beside view engine factory files context session solo) (after : Host ε)
    (sameFiles : after.files = session.host.files)
    (sameHandles : after.handles = session.host.handles) (own : Option (String × ε))
    (state : ε) (found : after.engines[engine.id]? = some state)
    (obtained : Provider.obtained view.provider.bootstrap factory files own =
      .ok (engine.name, state)) :
    Beside view engine factory files context ⟨view, after, session.contexts⟩
      ⟨solo.handles, own⟩ where
  only := rfl
  files := sameFiles.trans beside.files
  handles := by rw [sameHandles, beside.handles]
  serves := ⟨state, found, fun _ => obtained⟩

variable (shares : view.provider.mode = .shared engine)

include shares

theorem renderText (beside : Beside view engine factory files context session solo)
    (live : 0 < solo.handles) (model : List (String × Json)) :
    ∃ after : Host ε, view.renderText context model session.host =
        ⟨(solo.renderText (view.unshared factory) factory files model).1, view, after⟩ ∧
      Beside view engine factory files context ⟨view, after, session.contexts⟩
        ⟨solo.handles, (solo.renderText (view.unshared factory) factory files model).2⟩ := by
  obtain ⟨state, found, obtained⟩ := beside.serves
  have ready := obtained live
  have template : view.template session.host.files = (view.unshared factory).template files := by
    rw [beside.files]
    rfl
  unfold Solo.renderText
  cases read : (view.unshared factory).template files with
  | error fault =>
      exact ⟨_, view.renderText_unread context model session.host fault (template.trans read),
        beside.served (session.host.report (.renderFailed view.url (.rendering view.url fault))) rfl
          rfl solo.engine state found ready⟩
  | ok text =>
      have served := view.provider.engine_shared engine shares context session.host
      obtain ⟨noted, rendered⟩ := view.renderText_served context model session.host session.host
        text view.provider engine state (template.trans read) served found
      have inside := (List.getElem?_eq_some_iff.mp found).1
      have given : solo.obtain (view.unshared factory) factory files =
          .ok (engine.name, state) := ready
      simp only [given]
      exact ⟨_, rendered, beside.served (session.host.withEngine engine.id _ noted) rfl rfl _ _
        (List.getElem?_set_self inside) rfl⟩

/-- One act other than a release is answered alike, and leaves both alike. -/
theorem perform (beside : Beside view engine factory files context session solo)
    (live : 0 < solo.handles) (act : Act) (keeps : act ≠ .release) :
    (session.perform context act).1 =
        (solo.perform (view.unshared factory) factory files act).1 ∧
      (session.perform context act).2.contexts = session.contexts ∧
      Beside view engine factory files context (session.perform context act).2
        (solo.perform (view.unshared factory) factory files act).2 := by
  cases act with
  | clone => exact ⟨rfl, rfl, beside.handled live (fun count => count + 1) _ fun _ => rfl⟩
  | drop =>
      refine ⟨rfl, rfl, beside.handled live (fun count => count - 1) _ ?_⟩
      intro still
      exact if_pos (by omega)
  | render model =>
      obtain ⟨after, rendered, later⟩ := beside.renderText shares live model
      obtain ⟨events, wrapped⟩ := view.render_eq context model session.host
      rw [rendered] at wrapped
      simp only [Session.perform, Solo.perform, beside.only, wrapped]
      refine ⟨rfl, trivial, ?_⟩
      obtain ⟨state, found, obtained⟩ := later.serves
      rw [Host.foldl_report]
      exact ⟨rfl, later.handles, ⟨state, found, obtained⟩, later.files⟩
  | renderText model =>
      obtain ⟨after, rendered, later⟩ := beside.renderText shares live model
      simp only [Session.perform, Solo.perform, beside.only, rendered]
      exact ⟨trivial, trivial, later⟩
  | engine =>
      obtain ⟨state, found, obtained⟩ := beside.serves
      have given : solo.obtain (view.unshared factory) factory files =
          .ok (engine.name, state) := obtained live
      simp only [Session.perform, Solo.perform, View.engine, beside.only,
        view.provider.engine_shared engine shares context session.host, given]
      refine ⟨?_, trivial, beside.served _ rfl rfl _ state found rfl⟩
      simp [Provider.shown, Except.map, found]
  | release => exact absurd rfl keeps

theorem step (beside : Beside view engine factory files context session solo) (label : Nat)
    (found : session.contexts.lookup label = some context) (act : Act) (keeps : act ≠ .release) :
    (session.step (.act label act)).1 =
        (Solo.step (view.unshared factory) factory files (some solo) (.act label act)).1 ∧
      ∃ next, (Solo.step (view.unshared factory) factory files (some solo) (.act label act)).2 =
          some next ∧
        (session.step (.act label act)).2.contexts.lookup label = some context ∧
        Beside view engine factory files context (session.step (.act label act)).2 next := by
  have counted : session.host.isLive context.lease = decide (0 < solo.handles) := by
    unfold Host.isLive
    rw [context.leased, beside.handles]
  simp only [Session.step, Solo.step, found, counted, decide_eq_true_eq]
  by_cases live : 0 < solo.handles
  · obtain ⟨answered, contexts, later⟩ := beside.perform shares live act keeps
    simp only [if_pos live]
    exact ⟨answered, _, rfl, by rw [contexts, found], later⟩
  · simp only [if_neg live]
    exact ⟨trivial, solo, rfl, found, beside⟩

end Beside

/-! ### Runs -/

namespace Session

variable [ScriptEngine ε]

/-- A view with a shared engine answers the one context it has as the machine of that context does.
-/
theorem outcomes_shared {view : View ε} {engine : EngineHandle} (factory : Factory ε)
    (shares : view.provider.mode = .shared engine) (host : Host ε) (state : ε)
    (found : host.engines[engine.id]? = some state)
    (obtained : Provider.obtained view.provider.bootstrap factory host.files none =
      .ok (engine.name, state))
    (label : Nat) (title : Option String) (acts : List Act) (keeps : Act.release ∉ acts) :
    (Session.mk view host []).outcomes (.enter label title :: acts.map (Operation.act label)) =
      Machine.outcomes (Solo.step (view.unshared factory) factory host.files) none
        (.enter label title :: acts.map (Operation.act label)) := by
  have entered := step_enter label title (show (Session.mk view host []).contexts.lookup label = none
    from rfl)
  unfold outcomes
  rw [Machine.outcomes_cons, Machine.outcomes_cons, entered]
  -- From the first act on, the session is beside the machine; a release would lose the engine of the
  -- machine and not the shared one.
  refine congrArg (List.cons _) (Machine.outcomes_eq_of_related step _
    (fun session mate => ∃ solo, mate = some solo ∧
      session.contexts.lookup label = some (host.openContext title).1 ∧
      Beside view engine factory host.files (host.openContext title).1 session solo)
    (fun operation => ∃ act, operation = .act label act ∧ act ≠ .release) ?_ _ ?_ _ _ ?_)
  · rintro session _ _ ⟨solo, rfl, known, beside⟩ ⟨act, rfl, other⟩
    exact beside.step shares label known act other
  · intro operation member
    obtain ⟨act, inside, rfl⟩ := List.mem_map.mp member
    exact ⟨act, rfl, fun released => keeps (released ▸ inside)⟩
  · refine ⟨⟨1, none⟩, rfl, List.lookup_cons_self, rfl, ?_, ⟨state, found, fun _ => obtained⟩, rfl⟩
    simp [Host.openContext]

/-- A run of one context alone, on a view with an engine per context. -/
theorem outcomes_own (view : View ε) (factory : Factory ε) (bootstrap : Bootstrap) (host : Host ε)
    (lends : view.provider = .perContext factory bootstrap)
    (alike : ∀ request, factory.make request = factory.make 0) (operations : List Operation)
    (label : Nat) (own : ∀ operation ∈ operations, operation.concerns label = true) :
    (Session.mk view host []).outcomes operations =
      Machine.outcomes (Solo.step view factory host.files) none operations := by
  have alone := outcomes_alone view factory bootstrap host lends alike operations label
  rw [List.filter_eq_self.mpr own] at alone
  rw [← alone, eq_comm, List.filter_eq_self]
  intro entry member
  apply own
  rw [← Machine.map_fst_outcomes Session.step ⟨view, host, []⟩ operations]
  exact List.mem_map_of_mem member

end Session

/-! ### Runs without any engine -/

/-- If this is the outcome of a render, the render failed, for the given reason. -/
def Outcome.FailsBy (fault : ViewError) : Outcome ε → Prop
  | .rendered answer => ∃ error, answer = .error error ∧ error.rootCause = fault
  | .text answer => ∃ error, answer = .error error ∧ error.rootCause = fault
  | _ => True

section Unserved

variable [ScriptEngine ε] {view : View ε} {factory : Factory ε} {files : FileSystem} {text : String}
  {fault : ViewError} (read : view.template files = .ok text)
  (refused : Provider.obtained view.provider.bootstrap factory files none = .error fault)

include read refused

theorem Solo.perform_unserved (handles : Nat) (act : Act) :
    ((Solo.mk handles none).perform view factory files act).1.FailsBy fault.rootCause ∧
      ((Solo.mk handles none).perform view factory files act).2.engine = none := by
  have unserved : (Solo.mk handles none).obtain view factory files = .error fault := refused
  have unrendered : ∀ model, (Solo.mk handles none).renderText view factory files model =
      (.error (.rendering view.url fault), none) := by
    intro model
    simp only [Solo.renderText, read, unserved]
  cases act with
  | clone | release => exact ⟨trivial, rfl⟩
  | drop => exact ⟨trivial, ite_self none⟩
  | render model | renderText model =>
      simp only [Solo.perform, unrendered]
      exact ⟨⟨_, rfl, rfl⟩, trivial⟩
  | engine =>
      simp only [Solo.perform, unserved]
      exact ⟨trivial, rfl⟩

theorem Solo.step_unserved (solo : Option (Solo ε)) (operation : Operation)
    (without : ∀ own, solo = some own → own.engine = none) :
    (Solo.step view factory files solo operation).1.FailsBy fault.rootCause ∧
      ∀ own, (Solo.step view factory files solo operation).2 = some own → own.engine = none := by
  cases solo with
  | none =>
      cases operation with
      | enter label title => exact ⟨trivial, fun own same => by rw [← Option.some.inj same]⟩
      | act label act => exact ⟨trivial, nofun⟩
      | purge => exact ⟨trivial, nofun⟩
  | some held =>
      cases operation with
      | enter label title => exact ⟨trivial, without⟩
      | purge => exact ⟨trivial, without⟩
      | act label act =>
          have empty := without held rfl
          obtain ⟨handles, engine⟩ := held
          subst empty
          simp only [Solo.step]
          split
          · obtain ⟨fails, still⟩ := Solo.perform_unserved read refused handles act
            refine ⟨fails, ?_⟩
            intro own same
            rw [← Option.some.inj same]
            exact still
          · exact ⟨trivial, without⟩

namespace Session

/-- One operation of a session in which no context has an engine. -/
theorem Settled.step_unserved {session : Session ε} (settled : Settled view factory files session)
    (alike : ∀ request, factory.make request = factory.make 0)
    (without : ∀ label own, session.sight label = some own → own.engine = none)
    (operation : Operation) :
    (session.step operation).1.FailsBy fault.rootCause ∧
      ∀ label own, (session.step operation).2.sight label = some own → own.engine = none := by
  have alone := fun label => Solo.step_unserved read refused (session.sight label) operation
    (without label)
  constructor
  · cases operation with
    | enter label title =>
        rw [(settled.step_own alike label (.enter label title) (beq_self_eq_true label)).1]
        exact (alone label).1
    | act label act =>
        rw [(settled.step_own alike label (.act label act) (beq_self_eq_true label)).1]
        exact (alone label).1
    | purge => trivial
  · intro label own seen
    cases mine : operation.concerns label with
    | true =>
        rw [(settled.step_own alike label operation mine).2] at seen
        exact (alone label).2 own seen
    | false =>
        rw [settled.step_other alike label operation mine] at seen
        exact without label own seen

end Session

end Unserved

/-- If no engine can be bootstrapped, every render of a view whose template can be read fails for
that reason, whatever else is done. -/
theorem Session.outcomes_unserved [ScriptEngine ε] (view : View ε) (factory : Factory ε)
    (bootstrap : Bootstrap) (host : Host ε) (lends : view.provider = .perContext factory bootstrap)
    (alike : ∀ request, factory.make request = factory.make 0) (text : String)
    (read : view.template host.files = .ok text) (fault : ViewError)
    (refused : Provider.obtained view.provider.bootstrap factory host.files none = .error fault)
    (operations : List Operation) (entry : Operation × Outcome ε)
    (member : entry ∈ (Session.mk view host []).outcomes operations) :
    entry.2.FailsBy fault.rootCause := by
  have start : ∀ label own, (Session.mk view host []).sight label = some own →
      own.engine = none := by
    intro label own seen
    cases seen
  have kept := Machine.turns_invariant (Session.step (ε := ε))
    (fun history session => (∀ turn ∈ history, turn.outcome.FailsBy fault.rootCause) ∧
      Session.Settled view factory host.files session ∧
      ∀ label own, session.sight label = some own → own.engine = none)
    (by
      rintro history session operation ⟨past, settled, without⟩
      obtain ⟨fails, later⟩ := settled.step_unserved read refused alike without operation
      refine ⟨?_, settled.step alike operation, later⟩
      intro turn inside
      rcases List.mem_append.mp inside with before | last
      · exact past turn before
      · rw [List.mem_singleton.mp last]
        exact fails)
    operations [] ⟨view, host, []⟩
    ⟨fun _ none => absurd none List.not_mem_nil,
      Session.settled_start view factory bootstrap host lends, start⟩
  obtain ⟨turn, taken, shown⟩ := List.mem_map.mp member
  rw [← shown]
  exact kept.1 turn taken

/-! ### Both ways of building -/

section Planned

variable [ScriptEngine ε] {builder : ViewBuilder} {environment : Environment ε} {host : Host ε}
  {plan : ViewPlan} (planned : builder.plan environment host.files = .ok plan) {name : String}
  (source : plan.settings.engine = .named name) (shared : plan.settings.isShared = true)
  {factory : Factory ε} (registered : environment.registry.find? name = some factory) {fresh : ε}
  (alike : ∀ request, factory.make request = .ok fresh)

include planned source shared registered alike

theorem exists_lone (view : View ε) (after : Host ε)
    (built : builder.build environment host = (.ok view, after)) :
    ∃ lone last, builder.unshared.build environment host = (.ok lone, last) ∧
      view.provider.isShared = true ∧ lone.provider.isShared = false ∧
      ∀ (label : Nat) (title : Option String) (acts : List Act), Act.release ∉ acts →
        (Session.mk lone last []).outcomes (.enter label title :: acts.map (Operation.act label)) =
          (Session.mk view after []).outcomes
            (.enter label title :: acts.map (Operation.act label)) := by
  have same : ∀ request, factory.make request = factory.make 0 :=
    fun request => (alike request).trans (alike 0).symm
  have obtained := Provider.obtained_none plan.bootstrap factory host.files fresh (alike 0)
  obtain ⟨noted, made⟩ := ViewBuilder.build_made planned source registered shared fresh (alike _)
  rw [made] at built
  cases passed : (plan.bootstrap.pass host.files fresh plan.bootstrap.scripts).1 with
  | error fault =>
      rw [passed] at built
      cases built
  | ok done =>
      rw [passed] at built obtained
      simp only [Except.map, Prod.mk.injEq, Except.ok.injEq] at built obtained
      obtain ⟨rfl, rfl⟩ := built
      have ready := Host.withMaking_newest host factory.id
        (plan.bootstrap.pass host.files fresh plan.bootstrap.scripts).2 noted
      obtain ⟨last, lent, files⟩ := ViewBuilder.build_unshared planned source registered
        ⟨plan.bootstrap, .shared ⟨host.engines.length, ScriptEngine.name fresh⟩⟩ rfl
      refine ⟨_, last, lent, rfl, rfl, ?_⟩
      intro label title acts keeps
      have own : ∀ operation ∈ .enter label title :: acts.map (Operation.act label),
          operation.concerns label = true := by
        intro operation member
        rcases List.mem_cons.mp member with rfl | later
        · exact beq_self_eq_true label
        · obtain ⟨act, _, rfl⟩ := List.mem_map.mp later
          exact beq_self_eq_true label
      -- Both runs are the run of the machine of the context.
      rw [Session.outcomes_own _ factory plan.bootstrap last rfl same _ label own, files]
      symm
      exact Session.outcomes_shared factory rfl _ _ ready obtained label title acts keeps

theorem exists_unserved (fault : ViewError)
    (failed : (plan.bootstrap.pass host.files fresh plan.bootstrap.scripts).1 = .error fault) :
    (builder.build environment host).1 = .error fault ∧
      ∃ lone last, builder.unshared.build environment host = (.ok lone, last) ∧
        ∀ text, lone.template last.files = .ok text → ∀ operations,
          ∀ entry ∈ (Session.mk lone last []).outcomes operations,
            entry.2.FailsBy fault.rootCause := by
  obtain ⟨noted, made⟩ := ViewBuilder.build_made planned source registered shared fresh (alike _)
  obtain ⟨last, lent, files⟩ := ViewBuilder.build_unshared planned source registered
    (.perContext factory plan.bootstrap) rfl
  refine ⟨by rw [made, failed]; rfl, _, last, lent, ?_⟩
  intro text read operations entry member
  have refused := Provider.obtained_none plan.bootstrap factory last.files fresh (alike 0)
  rw [files, failed, ← files] at refused
  exact Session.outcomes_unserved _ factory plan.bootstrap last rfl
    (fun request => (alike request).trans (alike 0).symm) text read fault refused operations entry
    member

end Planned

/-- Where a factory gives the same engine whenever it is asked, a view with a shared engine and a
view with an engine per context act alike for one context, so long as nothing is released. If the
bootstrap fails, the one is not built, and of the other every render fails for the same reason that
can read its template. -/
theorem modes_agree [ScriptEngine ε] (builder : ViewBuilder) (environment : Environment ε)
    (host : Host ε) (resolved : Resolved) (name : String) (factory : Factory ε) (fresh : ε)
    (settled : builder.Resolves environment resolved) (source : resolved.engine = .named name)
    (shared : resolved.isShared = true)
    (registered : environment.registry.find? name = some factory)
    (alike : ∀ request, factory.make request = .ok fresh) :
    (∀ view after, builder.build environment host = (.ok view, after) →
      ∃ lone last, builder.unshared.build environment host = (.ok lone, last) ∧
        view.provider.isShared = true ∧ lone.provider.isShared = false ∧
        ∀ (label : Nat) (title : Option String) (acts : List Act), Act.release ∉ acts →
          (Session.mk lone last []).outcomes
              (.enter label title :: acts.map (Operation.act label)) =
            (Session.mk view after []).outcomes
              (.enter label title :: acts.map (Operation.act label))) ∧
    ∀ fault, ViewBuilder.FirstFails builder environment host .bootstrapped fault →
      (builder.build environment host).1 = .error fault ∧
      ∃ lone last, builder.unshared.build environment host = (.ok lone, last) ∧
        ∀ text, lone.template last.files = .ok text → ∀ operations,
          ∀ entry ∈ (Session.mk lone last []).outcomes operations, entry.2.FailsBy fault := by
  constructor
  · intro view after built
    cases planned : builder.plan environment host.files with
    | error fault =>
        unfold ViewBuilder.build at built
        rw [planned] at built
        cases built
    | ok plan =>
        have settings := settled.unique ((ViewBuilder.plan_eq_ok_iff _ _ _ _).mp planned).2.1
        rw [settings] at source shared
        exact exists_lone planned source shared registered alike view after built
  · rintro fault ⟨fails, below⟩
    obtain ⟨url, set, filled⟩ := ViewBuilder.PassesBelow.addressed below
    obtain ⟨other, loader, state, own, loads, begins, failed⟩ :=
      (ViewBuilder.fails_bootstrapped_iff fault).mp fails
    rw [settled.unique own] at source shared
    obtain ⟨events, planned⟩ := ViewBuilder.exists_plan host.files set filled own loader loads
    rw [begins.unique (.made name factory fresh source shared registered (alike _))] at failed
    have unserved := exists_unserved planned source shared registered alike fault failed
    have bare : fault.rootCause = fault := by
      obtain ⟨_, _, _, _, rfl | ⟨_, rfl⟩⟩ := fails.names_script
      · rfl
      · rfl
    rw [bare] at unserved
    exact unserved

def recording : Factory Recorder :=
  Recorder.factory 0 "recording" [] ⟨["render"], [], false⟩ none

def furnished : Environment Recorder where
  loader := .memory [("t", [104, 105]), ("a.js", [])]
  registry := .ofFactories [recording]
  templates := [{ engineName := some "recording", scripts := some ["a.js"],
                  renderFunction := some "render", loaderPath := some "" }]

theorem modes_agree_two_renders :
    ∃ lone last, (ViewBuilder.unshared { url := some "t" }).build furnished { files := ⟨[], []⟩ } =
        (.ok lone, last) ∧
      ((Session.mk lone last []).outcomes [.enter 0 none, .act 0 (.renderText []),
          .act 0 (.renderText [])]).map (fun entry => Session.plain entry.2) =
        [none, some (.inr "render(hi, \x7b\x7d)"), some (.inr "render(hi, \x7b\x7d)")] := by
  have settled : ViewBuilder.Resolves { url := some "t" } furnished
      ⟨.named "recording", ["a.js"], none, "render", .utf8, .utf8, "text/html;charset=UTF-8", "",
        none⟩ := ⟨_, rfl, by decide +kernel⟩
  obtain ⟨lone, last, built, _, _, same⟩ := (modes_agree { url := some "t" } furnished
    { files := ⟨[], []⟩ } _ "recording" recording { callables := ⟨["render"], [], false⟩ } settled
    rfl rfl rfl (fun _ => rfl)).1 _ _ rfl
  have alike := same 0 none [.renderText [], .renderText []] (by simp)
  simp only [List.map_cons, List.map_nil] at alike
  refine ⟨lone, last, built, ?_⟩
  rw [alike]
  rfl

end View

end Stencil
