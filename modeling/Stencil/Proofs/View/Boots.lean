import Stencil.Proofs.View.Works

/-!
What one turn of a site says about bootstrapping. `Site.Boots` is a turn that runs all scripts of a
view into one engine. An engine that the view of a turn has, answers with or calls was there before or
is booted in the turn, and scripts only run into engines that are made in the turn or given to it.
-/

namespace Stencil

namespace Site

variable {ε : Type}

/-- The commands that an engine was given in a turn. -/
def received (turn : Turn (Site (Logged ε)) (Operation ε) Outcome) (id : Nat) : List Exchange :=
  gained turn.before.host.engines turn.after.host.engines id

/-- A factory made the engine in this turn. -/
def Makes (turn : Turn (Site (Logged ε)) (Operation ε) Outcome) (id : Nat) : Prop :=
  turn.before.host.engines.length ≤ id ∧ id < turn.after.host.engines.length

/-- The turn is a build that was given the engine. -/
def Supplies (turn : Turn (Site (Logged ε)) (Operation ε) Outcome) (id : Nat) : Prop :=
  ∃ engine, turn.before.supplied turn.operation = some engine ∧ engine.id = id

/-- The scripts that the view of the turn asks for, be it used or built. -/
def Wants (turn : Turn (Site (Logged ε)) (Operation ε) Outcome) (bootstrap : Bootstrap) : Prop :=
  (∃ number view, turn.operation.view? = some number ∧ turn.before.view? number = some view ∧
      view.bootstrap = bootstrap) ∨
    ∃ environment builder plan, turn.operation = .build environment builder ∧
      builder.plan environment.logged turn.before.host.files = .ok plan ∧
      plan.bootstrap = bootstrap

/-- The turn ran every script of a view into an engine: one that it made in an operation of the view, or
one that the view was built with. Only calls follow in the same turn. -/
structure Boots (turn : Turn (Site (Logged ε)) (Operation ε) Outcome) (number : Nat)
    (bootstrap : Bootstrap) (id : Nat) : Prop where
  purpose : turn.operation.view? = some number ∧ Makes turn id ∨
    turn.outcome = .built (.ok number) ∧ (Makes turn id ∨ Supplies turn id)
  pass : ∃ block calls, received turn id = block ++ calls ∧
    bootstrap.Complete turn.before.host.files block ∧ ∀ exchange ∈ calls, exchange.isCall = true

variable {turn : Turn (Site (Logged ε)) (Operation ε) Outcome}

theorem boots_of_made (number : Nat) (bootstrap : Bootstrap) (id : Nat) (block calls : List Exchange)
    (on : turn.operation.view? = some number) (newest : id = turn.before.host.engines.length)
    (ran : Bootstrap.Ran bootstrap turn.before.host.files bootstrap.scripts block (.ok ()))
    (calling : ∀ exchange ∈ calls, exchange.isCall = true)
    (gain : Gain turn.before.host.engines turn.after.host.engines id (block ++ calls))
    (count : turn.after.host.engines.length = turn.before.host.engines.length + 1) :
    Makes turn id ∧ Boots turn number bootstrap id := by
  have makes : Makes turn id := ⟨Nat.le_of_eq newest.symm, by omega⟩
  exact ⟨makes, Or.inl ⟨on, makes⟩, block, calls, gain.gained, ran.complete, calling⟩

/-- The engine that a build ran scripts into was made for it or given to it. -/
theorem makes_or_supplies (environment : Environment ε) (builder : ViewBuilder) (plan : ViewPlan)
    (id : Nat) (asked : turn.operation = .build environment builder)
    (planned : builder.plan environment.logged turn.before.host.files = .ok plan)
    (origin : plan.Origin turn.before.host.engines turn.after.host.engines id) :
    Makes turn id ∨ Supplies turn id := by
  rcases origin with ⟨newest, count⟩ | ⟨_, _, engine, given, own⟩
  · exact Or.inl ⟨Nat.le_of_eq newest.symm, by omega⟩
  · refine Or.inr ⟨engine, ?_, own⟩
    rw [asked]
    simp only [supplied, planned]
    exact given

namespace Deed

variable (deed : Deed turn.before turn.after turn.operation turn.outcome)

include deed

/-- What a view has after a turn it had before, or it was booted for it. -/
theorem serves (number : Nat) (bootstrap : Bootstrap) (engine : EngineHandle)
    (after : turn.after.Serves number bootstrap engine) :
    turn.before.Serves number bootstrap engine ∨
      engine.id < turn.after.host.engines.length ∧ Boots turn number bootstrap engine.id := by
  obtain ⟨view, found, scripts, member⟩ := after
  cases deed with
  | quiet still views count silent =>
      rcases (views number view found).2 with before | ⟨_, none⟩
      · exact Or.inl ⟨view, before, scripts, member⟩
      · rw [none] at member
        cases member
  | worked acted old last on present deed same ready placed =>
      rcases view?_of_set _ _ placed found with before | ⟨own, new⟩
      · exact Or.inl ⟨view, before, scripts, member⟩
      · rw [new] at member scripts
        rw [same] at scripts
        rw [own]
        have kept : engine ∈ old.provider.engines →
            turn.before.Serves acted bootstrap engine :=
          fun before => ⟨old, present, scripts, before⟩
        cases deed with
        | idle still entries silent => exact Or.inl (kept (entries engine member))
        | used used calls had calling gain count entries returns =>
            exact Or.inl (kept (entries engine member))
        | made newest block calls isNew ran calling gain count entries returns =>
            rcases entries engine member with before | booted
            · exact Or.inl (kept before)
            · rw [booted]
              rw [scripts] at ran
              have booted := boots_of_made acted bootstrap newest.id block calls on isNew ran calling
                gain count
              exact Or.inr ⟨booted.1.2, booted.2⟩
        | spoilt block fault ran gain count entries silent =>
            exact Or.inl (kept (entries engine member))
  | built environment builder plan own block last asked planned answered ran gain origin wants
      ready only placed =>
      rcases view?_of_append _ _ placed found with before | ⟨newest, new⟩
      · exact Or.inl ⟨view, before, scripts, member⟩
      · rw [new] at member scripts
        rw [only] at member
        rw [List.mem_singleton.mp member, newest]
        rw [← wants, scripts] at ran
        refine Or.inr ⟨plan.lt_of_origin origin, Or.inr ⟨answered, ?_⟩, block, [], ?_, ran.complete,
          nofun⟩
        · exact makes_or_supplies environment builder plan own.id asked planned origin
        · rw [List.append_nil]
          exact gain.gained
  | unbuilt environment builder plan id block fault asked planned answered ran gain origin placed =>
      refine Or.inl ⟨view, ?_, scripts, member⟩
      unfold view? at *
      rw [← placed]
      exact found

/-- An engine that is called belongs to the view that the turn is about, or was made for it just
now and ran its scripts first. -/
theorem called (id : Nat) (exchange : Exchange) (member : exchange ∈ received turn id)
    (calls : exchange.isCall = true) :
    ∃ number view, turn.operation.view? = some number ∧ turn.before.view? number = some view ∧
      ((∃ engine ∈ view.provider.engines, engine.id = id) ∨
        Makes turn id ∧ Boots turn number view.bootstrap id) := by
  -- Scripts are never calls, so only the calls of a view are left.
  have script : ∀ {bootstrap scripts block answer},
      Bootstrap.Ran bootstrap turn.before.host.files scripts block answer → exchange ∉ block := by
    intro bootstrap scripts block answer ran inside
    rw [ran.isCall_eq_false exchange inside] at calls
    cases calls
  cases deed with
  | quiet still views count silent =>
      unfold received at member
      rw [still, gained_self] at member
      cases member
  | worked number view last on present deed same ready placed =>
      refine ⟨number, view, on, present, ?_⟩
      cases deed with
      | idle still entries silent =>
          unfold received at member
          rw [still, gained_self] at member
          cases member
      | used engine _ had calling gain count entries returns =>
          exact Or.inl ⟨engine, had, (gain.of_mem member).1.symm⟩
      | made engine block _ newest ran calling gain count entries returns =>
          rw [(gain.of_mem member).1]
          exact Or.inr (boots_of_made number view.bootstrap engine.id block _ on newest ran calling
            gain count)
      | spoilt block fault ran gain count entries silent =>
          exact absurd (gain.of_mem member).2 (script ran)
  | built environment builder plan own block last asked planned answered ran gain origin wants
      ready only placed => exact absurd (gain.of_mem member).2 (script ran)
  | unbuilt environment builder plan _ block fault asked planned answered ran gain origin placed =>
      exact absurd (gain.of_mem member).2 (script ran)

/-- An engine that is answered belongs to the view that was asked, or was made for it just now and ran
its scripts first. -/
theorem returned (engine : EngineHandle) (answered : turn.outcome.engine? = some engine) :
    ∃ number view, turn.operation.view? = some number ∧ turn.before.view? number = some view ∧
      (engine ∈ view.provider.engines ∨
        Makes turn engine.id ∧ Boots turn number view.bootstrap engine.id) := by
  cases deed with
  | quiet still views count silent =>
      rw [silent] at answered
      cases answered
  | worked number view last on present deed same ready placed =>
      refine ⟨number, view, on, present, ?_⟩
      cases deed with
      | idle still entries silent =>
          rw [silent] at answered
          cases answered
      | used own calls had calling gain count entries returns =>
          rw [returns engine answered]
          exact Or.inl had
      | made own block calls newest ran calling gain count entries returns =>
          rw [returns engine answered]
          exact Or.inr (boots_of_made number view.bootstrap own.id block calls on newest ran calling
            gain count)
      | spoilt block fault ran gain count entries silent =>
          rw [silent] at answered
          cases answered
  | built environment builder plan own block last asked planned built ran gain origin wants ready
      only placed =>
      rw [built] at answered
      cases answered
  | unbuilt environment builder plan id block fault asked planned failed ran gain origin placed =>
      rw [failed] at answered
      cases answered

theorem evaluated (id : Nat) (exchange : Exchange) (member : exchange ∈ received turn id)
    (script : exchange.isCall = false) : Makes turn id ∨ Supplies turn id := by
  have uncalled : ∀ calls : List Exchange, (∀ other ∈ calls, other.isCall = true) →
      exchange ∉ calls := by
    intro calls calling inside
    rw [calling exchange inside] at script
    cases script
  cases deed with
  | quiet still views count silent =>
      unfold received at member
      rw [still, gained_self] at member
      cases member
  | worked number view last on present deed same ready placed =>
      cases deed with
      | idle still entries silent =>
          unfold received at member
          rw [still, gained_self] at member
          cases member
      | used engine calls had calling gain count entries returns =>
          exact absurd (gain.of_mem member).2 (uncalled calls calling)
      | made engine block calls newest ran calling gain count entries returns =>
          rw [(gain.of_mem member).1]
          exact Or.inl (boots_of_made number view.bootstrap engine.id block calls on newest ran
            calling gain count).1
      | spoilt block fault ran gain count entries silent =>
          rw [(gain.of_mem member).1]
          exact Or.inl ⟨Nat.le_refl _, by omega⟩
  | built environment builder plan own block last asked planned answered ran gain origin wants
      ready only placed =>
      rw [(gain.of_mem member).1]
      exact makes_or_supplies environment builder plan own.id asked planned origin
  | unbuilt environment builder plan own block fault asked planned answered ran gain origin placed =>
      rw [(gain.of_mem member).1]
      exact makes_or_supplies environment builder plan own asked planned origin

/-- An engine that is made runs the scripts that the turn asks for, from the first on; if they do not
all run it is not called. -/
theorem pass (id : Nat) (made : Makes turn id) :
    ∃ bootstrap block calls answer, Wants turn bootstrap ∧ received turn id = block ++ calls ∧
      Bootstrap.Ran bootstrap turn.before.host.files bootstrap.scripts block answer ∧
      (∀ exchange ∈ calls, exchange.isCall = true) ∧ (calls ≠ [] → answer = .ok ()) := by
  obtain ⟨new, inside⟩ := made
  cases deed with
  | quiet still views count silent =>
      rw [still] at inside
      omega
  | worked number view last on present deed same ready placed =>
      have wants : Wants turn view.bootstrap := Or.inl ⟨number, view, on, present, rfl⟩
      cases deed with
      | idle still entries silent =>
          rw [still] at inside
          omega
      | used engine calls had calling gain count entries returns => omega
      | made engine block calls newest ran calling gain count entries returns =>
          have own : id = engine.id := by omega
          rw [own]
          exact ⟨view.bootstrap, block, calls, .ok (), wants, gain.gained, ran, calling, fun _ => rfl⟩
      | spoilt block fault ran gain count entries silent =>
          have own : id = turn.before.host.engines.length := by omega
          rw [own]
          refine ⟨view.bootstrap, block, [], .error fault, wants, ?_, ran, nofun, nofun⟩
          rw [List.append_nil]
          exact gain.gained
  | built environment builder plan engine block last asked planned answered ran gain origin scripts
      ready only placed =>
      have own : id = engine.id := plan.eq_of_origin origin new inside
      rw [own]
      refine ⟨plan.bootstrap, block, [], .ok (), Or.inr ⟨environment, builder, plan, asked, planned,
        rfl⟩, ?_, ran, nofun, nofun⟩
      rw [List.append_nil]
      exact gain.gained
  | unbuilt environment builder plan engine block fault asked planned answered ran gain origin
      placed =>
      have own : id = engine := plan.eq_of_origin origin new inside
      rw [own]
      refine ⟨plan.bootstrap, block, [], .error fault, Or.inr ⟨environment, builder, plan, asked,
        planned, rfl⟩, ?_, ran, nofun, nofun⟩
      rw [List.append_nil]
      exact gain.gained

theorem grows :
    turn.before.host.engines.length ≤ turn.after.host.engines.length ∧
      ∀ id, logAt turn.after.host.engines id =
        logAt turn.before.host.engines id ++ received turn id := by
  cases deed with
  | quiet still views count silent =>
      unfold received
      rw [still]
      exact ⟨Nat.le_refl _, fun id => by rw [gained_self, List.append_nil]⟩
  | worked number view last on present deed same ready placed =>
      cases deed with
      | idle still entries silent =>
          unfold received
          rw [still]
          exact ⟨Nat.le_refl _, fun id => by rw [gained_self, List.append_nil]⟩
      | used engine calls had calling gain count entries returns =>
          exact ⟨Nat.le_of_eq count.symm, gain.append_gained⟩
      | made engine block calls newest ran calling gain count entries returns =>
          exact ⟨by omega, gain.append_gained⟩
      | spoilt block fault ran gain count entries silent => exact ⟨by omega, gain.append_gained⟩
  | built environment builder plan engine block last asked planned answered ran gain origin scripts
      ready only placed => exact ⟨plan.le_of_origin origin, gain.append_gained⟩
  | unbuilt environment builder plan engine block fault asked planned answered ran gain origin
      placed => exact ⟨plan.le_of_origin origin, gain.append_gained⟩

theorem views_le : turn.before.views.length ≤ turn.after.views.length := by
  cases deed with
  | quiet still views count silent => exact count
  | worked number view last on present deed same ready placed =>
      exact Nat.le_of_eq (by rw [placed, List.length_set])
  | built environment builder plan engine block last asked planned answered ran gain origin scripts
      ready only placed =>
      rw [placed, List.length_append]
      exact Nat.le_add_right _ _
  | unbuilt environment builder plan engine block fault asked planned answered ran gain origin
      placed => exact Nat.le_of_eq (by rw [placed])

theorem scripts_kept (number : Nat) (old view : View (Logged ε))
    (present : turn.before.view? number = some old)
    (found : turn.after.view? number = some view) : view.bootstrap = old.bootstrap := by
  have inside := (List.getElem?_eq_some_iff.mp present).1
  have same : turn.before.view? number = some view → view.bootstrap = old.bootstrap := by
    intro before
    rw [present] at before
    rw [Option.some.inj before]
  cases deed with
  | quiet still views count silent =>
      rcases (views number view found).2 with before | ⟨beyond, _⟩
      · exact same before
      · omega
  | worked acted own last on there deed kept ready placed =>
      rcases view?_of_set _ _ placed found with before | ⟨this, new⟩
      · exact same before
      · rw [this, there] at present
        rw [new, kept, Option.some.inj present]
  | built environment builder plan engine block last asked planned answered ran gain origin scripts
      ready only placed =>
      rcases view?_of_append _ _ placed found with before | ⟨newest, _⟩
      · exact same before
      · omega
  | unbuilt environment builder plan engine block fault asked planned answered ran gain origin
      placed =>
      unfold view? at found
      rw [placed] at found
      exact same found

theorem orderly (orderly : turn.before.Orderly) : turn.after.Orderly where
  ready := by
    intro number view found
    cases deed with
    | quiet still views count silent => exact (views number view found).1
    | worked acted old last on present deed same ready placed =>
        rcases view?_of_set _ _ placed found with before | ⟨_, new⟩
        · exact orderly.ready number view before
        · rw [new]
          exact ready
    | built environment builder plan engine block last asked planned answered ran gain origin
        scripts ready only placed =>
        rcases view?_of_append _ _ placed found with before | ⟨_, new⟩
        · exact orderly.ready number view before
        · rw [new]
          exact ready
    | unbuilt environment builder plan engine block fault asked planned answered ran gain origin
        placed =>
        unfold view? at found
        rw [placed] at found
        exact orderly.ready number view found
  entered := by
    intro number view found engine member
    rcases deed.serves number view.bootstrap engine ⟨view, found, rfl, member⟩ with before | new
    · obtain ⟨old, present, _, had⟩ := before
      exact Nat.lt_of_lt_of_le (orderly.entered number old present engine had) deed.grows.1
    · exact new.1

end Deed

variable [ScriptEngine ε] {site : Site (Logged ε)}

theorem number_of_built (operation : Operation ε) (number : Nat)
    (answered : (site.step operation).1 = .built (.ok number)) : number = site.views.length := by
  cases operation with
  | build environment builder =>
      simp only [step] at answered
      split at answered
      · unfold Site.build at answered
        split at answered
        · cases answered
        · cases answered
          rfl
      · cases answered
  | enter name => cases answered
  | clone context => cases answered
  | drop context => cases answered
  | write files => cases answered
  | _ =>
      simp only [step, withView] at answered
      split at answered <;> cases answered

theorem views_of_unbuilt (operation : Operation ε) (fault : ViewError)
    (failed : (site.step operation).1 = .built (.error fault)) :
    (site.step operation).2.views = site.views := by
  cases operation with
  | build environment builder =>
      simp only [step] at failed ⊢
      split at failed
      · next known =>
          rw [if_pos known]
          unfold Site.build at failed ⊢
          split at failed
          · rfl
          · cases failed
      · cases failed
  | enter name => cases failed
  | clone context => cases failed
  | drop context => cases failed
  | write files => cases failed
  | _ =>
      simp only [step, withView] at failed
      split at failed <;> cases failed

end Site

end Stencil
