import Stencil.Proofs.View.Plan
import Stencil.Proofs.View.Works

/-!
Where the views of a site come from. An operation keeps the address, the settings and the loader of
every view (`step_extends`), and a view that was not there before was built (`step_view?`). So each view
on a site has the settings that an earlier turn built it with (`exists_build`).
-/

namespace Stencil

variable {ε : Type}

namespace View

/-- The same view, apart from its engines. -/
def Alike (view other : View ε) : Prop :=
  view.url = other.url ∧ view.settings = other.settings ∧ view.loader = other.loader

theorem Alike.refl (view : View ε) : view.Alike view :=
  ⟨rfl, rfl, rfl⟩

variable [ScriptEngine ε] (view : View ε) (context : RenderContext) (model : List (String × Json))
  (host : Host ε)

theorem renderText_alike : (view.renderText context model host).view.Alike view := by
  rcases view.renderText_view context host model with same | served
  · rw [same]
    exact Alike.refl view
  · rw [served]
    exact ⟨rfl, rfl, rfl⟩

theorem render_alike : (view.render context model host).view.Alike view := by
  obtain ⟨events, rendered⟩ := view.render_eq context model host
  rw [rendered]
  exact view.renderText_alike context model host

end View

namespace Site

/-- What becomes of the views of a site: those that were there are alike, and there may be new ones. -/
structure Extends (before after : Site ε) : Prop where
  grows : before.views.length ≤ after.views.length
  alike : ∀ number view last, before.view? number = some view → after.view? number = some last →
    last.Alike view

theorem Extends.of_eq {before after : Site ε} (same : after.views = before.views) :
    before.Extends after where
  grows := Nat.le_of_eq (congrArg List.length same.symm)
  alike := by
    intro number view last found kept
    unfold view? at found kept
    rw [same, found] at kept
    rw [Option.some.inj kept]
    exact View.Alike.refl last

theorem Extends.of_append {before after : Site ε} (views : List (View ε))
    (placed : after.views = before.views ++ views) : before.Extends after where
  grows := by
    rw [placed, List.length_append]
    exact Nat.le_add_right _ _
  alike := by
    intro number view last found kept
    have inside := (List.getElem?_eq_some_iff.mp found).1
    unfold view? at found kept
    rw [placed, List.getElem?_append_left inside, found] at kept
    rw [Option.some.inj kept]
    exact View.Alike.refl last

theorem Extends.of_set {before after : Site ε} (number : Nat) (held acted : View ε)
    (present : before.view? number = some held) (kept : acted.Alike held)
    (placed : after.views = before.views.set number acted) : before.Extends after where
  grows := Nat.le_of_eq (by rw [placed, List.length_set])
  alike := by
    intro other view last found later
    have inside := (List.getElem?_eq_some_iff.mp present).1
    unfold view? at found later present
    rw [placed] at later
    by_cases same : number = other
    · rw [← same, present] at found
      rw [← same, List.getElem?_set_self inside] at later
      rw [← Option.some.inj found, ← Option.some.inj later]
      exact kept
    · rw [List.getElem?_set_ne same, found] at later
      rw [Option.some.inj later]
      exact View.Alike.refl last

/-- A view stays under its number, and is the same apart from its engines. -/
theorem Extends.view? {before after : Site ε} (grown : before.Extends after) {number : Nat}
    {view : View ε} (found : before.view? number = some view) :
    ∃ last, after.view? number = some last ∧ last.Alike view := by
  have inside := Nat.lt_of_lt_of_le (List.getElem?_eq_some_iff.mp found).1 grown.grows
  have there : after.view? number = some after.views[number] := List.getElem?_eq_getElem inside
  exact ⟨_, there, grown.alike number view _ found there⟩

variable [ScriptEngine ε]

theorem build_views (site : Site ε) (environment : Environment ε) (builder : ViewBuilder) :
    (∃ fault, (site.build environment builder).1 = .error fault ∧
        (site.build environment builder).2.views = site.views) ∨
      ∃ plan provider, builder.plan environment site.host.files = .ok plan ∧
        (site.build environment builder).1 = .ok site.views.length ∧
        (site.build environment builder).2.views = site.views ++ [plan.view provider] := by
  unfold build
  rcases built : builder.build environment site.host with ⟨answer, last⟩
  cases answer with
  | error fault => exact Or.inl ⟨fault, rfl, rfl⟩
  | ok view =>
      obtain ⟨plan, provider, planned, own⟩ := ViewBuilder.exists_plan_of_build built
      rw [own]
      exact Or.inr ⟨plan, provider, planned, rfl, rfl⟩

theorem build_extends (site : Site ε) (environment : Environment ε) (builder : ViewBuilder) :
    site.Extends (site.build environment builder).2 := by
  rcases site.build_views environment builder with ⟨_, _, same⟩ | ⟨plan, provider, _, _, placed⟩
  · exact Extends.of_eq same
  · exact Extends.of_append _ placed

omit [ScriptEngine ε] in
theorem withView_extends (site : Site (Logged ε)) (number : Nat)
    (act : View (Logged ε) → Outcome × View (Logged ε) × Host (Logged ε))
    (keeps : ∀ view, (act view).2.1.Alike view) : site.Extends (site.withView number act).2 := by
  unfold withView
  cases present : site.view? number with
  | none => exact Extends.of_eq rfl
  | some held => exact Extends.of_set number held _ present (keeps held) rfl

variable (site : Site (Logged ε))

theorem step_extends (operation : Operation ε) : site.Extends (site.step operation).2 := by
  cases operation with
  | build environment builder =>
      by_cases known : (site.supplied (.build environment builder)).all
          (fun engine => engine.id < site.host.engines.length) = true
      · simp only [step, if_pos known]
        exact site.build_extends environment.logged builder
      · simp only [step, if_neg known]
        exact Extends.of_eq rfl
  | render number context model =>
      exact site.withView_extends number _ fun view => view.render_alike context model site.host
  | renderText number context model =>
      exact site.withView_extends number _ fun view => view.renderText_alike context model site.host
  | engine number context => exact site.withView_extends number _ fun _ => ⟨rfl, rfl, rfl⟩
  | release number context => exact site.withView_extends number _ fun _ => ⟨rfl, rfl, rfl⟩
  | purge number => exact site.withView_extends number _ fun _ => ⟨rfl, rfl, rfl⟩
  | enter name => exact Extends.of_eq rfl
  | clone context => exact Extends.of_eq rfl
  | drop context => exact Extends.of_eq rfl
  | write files => exact Extends.of_eq rfl

omit [ScriptEngine ε] in
theorem withView_length (number : Nat)
    (act : View (Logged ε) → Outcome × View (Logged ε) × Host (Logged ε)) :
    (site.withView number act).2.views.length = site.views.length := by
  unfold withView
  cases site.view? number with
  | none => rfl
  | some held => exact List.length_set

theorem step_length (operation : Operation ε)
    (unbuilt : ∀ environment builder, operation ≠ .build environment builder) :
    (site.step operation).2.views.length = site.views.length := by
  cases operation with
  | build environment builder => exact absurd rfl (unbuilt environment builder)
  | render number context model => exact site.withView_length number _
  | renderText number context model => exact site.withView_length number _
  | engine number context => exact site.withView_length number _
  | release number context => exact site.withView_length number _
  | purge number => exact site.withView_length number _
  | enter name => rfl
  | clone context => rfl
  | drop context => rfl
  | write files => rfl

/-- A view that an operation adds was built by it. -/
theorem step_view? (operation : Operation ε) (number : Nat) (view : View (Logged ε))
    (new : site.views.length ≤ number) (found : (site.step operation).2.view? number = some view) :
    ∃ environment builder, operation = .build environment builder ∧
      (site.step operation).1 = .built (.ok number) ∧
      builder.Resolves environment.logged view.settings := by
  have absent : ∀ view, site.view? number ≠ some view := by
    intro view old
    exact Nat.not_lt_of_le new (List.getElem?_eq_some_iff.mp old).1
  by_cases built : ∃ environment builder, operation = .build environment builder
  · obtain ⟨environment, builder, rfl⟩ := built
    by_cases known : (site.supplied (.build environment builder)).all
        (fun engine => engine.id < site.host.engines.length) = true
    · simp only [step, if_pos known] at found ⊢
      rcases site.build_views environment.logged builder with
        ⟨_, _, same⟩ | ⟨plan, provider, planned, answered, placed⟩
      · unfold view? at found
        rw [same] at found
        exact absurd found (absent view)
      · rcases view?_of_append site _ placed found with old | ⟨here, same⟩
        · exact absurd old (absent view)
        · rw [here, same, answered]
          exact ⟨environment, builder, rfl, rfl,
            ((ViewBuilder.plan_eq_ok_iff _ _ _ _).mp planned).2.1⟩
    · simp only [step, if_neg known] at found
      exact absurd found (absent view)
  · have inside := (List.getElem?_eq_some_iff.mp found).1
    have same := site.step_length operation
      (fun environment builder same => built ⟨environment, builder, same⟩)
    rw [same] at inside
    exact absurd inside (Nat.not_lt_of_le new)

/-- A turn that built the view of a number. -/
def Builds (turn : Turn (Site (Logged ε)) (Operation ε) Outcome) (number : Nat)
    (environment : Environment ε) (builder : ViewBuilder) : Prop :=
  turn.operation = .build environment builder ∧ turn.outcome = .built (.ok number)

/-- Every view on a site has the settings of a turn that built it. -/
theorem exists_build (host : Host (Logged ε)) (operations : List (Operation ε)) (number : Nat)
    (view : View (Logged ε))
    (there : ((Site.mk host []).finish operations).view? number = some view) :
    ∃ turn ∈ (Site.mk host []).turns operations, ∃ environment builder,
      Builds turn number environment builder ∧
        builder.Resolves environment.logged view.settings := by
  have known := Machine.turns_invariant step
    (fun history site => ∀ number view, site.view? number = some view →
      ∃ turn ∈ history, ∃ environment builder, Builds turn number environment builder ∧
        builder.Resolves environment.logged view.settings)
    (by
      intro history site operation held other own found
      -- An old view has the settings of its build, a new one was built by this very turn.
      by_cases old : other < site.views.length
      · have before : site.view? other = some site.views[other] := List.getElem?_eq_getElem old
        obtain ⟨turn, member, built⟩ := held other _ before
        rw [((site.step_extends operation).alike other _ own before found).2.1]
        exact ⟨turn, List.mem_append_left _ member, built⟩
      · obtain ⟨environment, builder, asked, answered, settled⟩ :=
          site.step_view? operation other own (Nat.le_of_not_lt old) found
        exact ⟨Machine.turn step site operation,
          List.mem_append_right _ (List.mem_singleton.mpr rfl), environment, builder,
          ⟨asked, answered⟩, settled⟩)
    operations [] (Site.mk host []) (by simp [view?])
  exact known number view there

end Site

end Stencil
