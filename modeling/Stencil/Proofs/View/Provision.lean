import Stencil.Proofs.View.Deed

/-!
What building a view does to engines. A view with one engine has the scripts run into it before there
is a view, so a build that cannot finish them ends without one; a view with an engine per context is
built without any.
-/

namespace Stencil

variable {ε : Type}

/-- The engine that a plan was given, if it was given one. -/
def ViewPlan.supplied (plan : ViewPlan) : Option EngineHandle :=
  match plan.settings.engine with
  | .instance engine => some engine
  | .named _ => none

namespace Provider

variable [ScriptEngine ε]

theorem shared_logged (engine : EngineHandle) (bootstrap : Bootstrap) (host : Host (Logged ε))
    (inside : engine.id < host.engines.length) :
    ∃ block last, Gain host.engines last.engines engine.id block ∧
      last.engines.length = host.engines.length ∧
      (shared engine bootstrap host = (.ok ⟨bootstrap, .shared engine⟩, last) ∧
          Bootstrap.Ran bootstrap host.files bootstrap.scripts block (.ok ()) ∨
        ∃ fault, shared engine bootstrap host = (.error fault, last) ∧
          Bootstrap.Ran bootstrap host.files bootstrap.scripts block (.error fault)) := by
  have found := List.getElem?_eq_getElem inside
  obtain ⟨noted, loaded⟩ := bootstrap.load_eq engine host _ found
  obtain ⟨block, added, ran⟩ :=
    bootstrap.pass_logged host.files host.engines[engine.id] bootstrap.scripts
  have gain := Gain.set host.engines engine.id _ _ found block added
  rcases passed : bootstrap.pass host.files host.engines[engine.id] bootstrap.scripts with
    ⟨answer, state⟩
  rw [passed] at loaded ran gain
  refine ⟨block, host.withEngine engine.id state noted, gain, by simp, ?_⟩
  unfold shared
  rw [loaded]
  cases answer with
  | error fault => exact Or.inr ⟨fault, rfl, ran⟩
  | ok done => exact Or.inl ⟨rfl, ran⟩

end Provider

namespace ViewPlan

/-- Where the engine came from that scripts were run into: it was made for it, or supplied. -/
def Origin (plan : ViewPlan) (engines last : List (Logged ε)) (id : Nat) : Prop :=
  id = engines.length ∧ last.length = engines.length + 1 ∨
    id < engines.length ∧ last.length = engines.length ∧
      ∃ engine, plan.supplied = some engine ∧ engine.id = id

section

variable (plan : ViewPlan) {engines last : List (Logged ε)} {id : Nat}
  (origin : plan.Origin engines last id)

include origin

theorem lt_of_origin : id < last.length := by
  rcases origin with ⟨newest, count⟩ | ⟨inside, count, _⟩ <;> omega

theorem le_of_origin : engines.length ≤ last.length := by
  rcases origin with ⟨newest, count⟩ | ⟨inside, count, _⟩ <;> omega

/-- If there is a new engine at all, it is the one the scripts were run into. -/
theorem eq_of_origin {other : Nat} (new : engines.length ≤ other) (inside : other < last.length) :
    other = id := by
  rcases origin with ⟨newest, count⟩ | ⟨_, count, _⟩ <;> omega

end

/-- All that can become of the engine of a plan. -/
inductive Provision (plan : ViewPlan) (host last : Host (Logged ε)) :
    Except ViewError (Provider (Logged ε)) → Prop where
  | refused (fault : ViewError) (still : last.engines = host.engines) :
      Provision plan host last (.error fault)
  | lent (factory : Factory (Logged ε)) (fresh : factory.Fresh)
      (still : last.engines = host.engines) :
      Provision plan host last (.ok (.perContext factory plan.bootstrap))
  | shared (engine : EngineHandle) (block : List Exchange)
      (ran : Bootstrap.Ran plan.bootstrap host.files plan.bootstrap.scripts block (.ok ()))
      (gain : Gain host.engines last.engines engine.id block)
      (origin : plan.Origin host.engines last.engines engine.id) :
      Provision plan host last (.ok ⟨plan.bootstrap, .shared engine⟩)
  | spoilt (id : Nat) (block : List Exchange) (fault : ViewError)
      (ran : Bootstrap.Ran plan.bootstrap host.files plan.bootstrap.scripts block (.error fault))
      (gain : Gain host.engines last.engines id block)
      (origin : plan.Origin host.engines last.engines id) :
      Provision plan host last (.error fault)

variable [ScriptEngine ε]

theorem provideInstance_provision (plan : ViewPlan) (engine : EngineHandle)
    (host : Host (Logged ε)) (supplied : plan.supplied = some engine)
    (inside : engine.id < host.engines.length) :
    Provision plan host (plan.provideInstance engine host).2 (plan.provideInstance engine host).1 := by
  obtain ⟨block, last, gain, count, ended⟩ :=
    Provider.shared_logged engine plan.bootstrap host inside
  have origin : plan.Origin host.engines last.engines engine.id :=
    Or.inr ⟨inside, count, engine, supplied, rfl⟩
  unfold provideInstance
  rcases ended with ⟨ok, ran⟩ | ⟨fault, failed, ran⟩
  · rw [ok]
    exact .shared engine block ran gain origin
  · rw [failed]
    exact .spoilt engine.id block fault ran gain origin

theorem provideShared_provision (plan : ViewPlan) (name : String) (factory : Factory (Logged ε))
    (fresh : factory.Fresh) (host : Host (Logged ε)) :
    Provision plan host (plan.provideShared name factory host).2
      (plan.provideShared name factory host).1 := by
  unfold provideShared
  cases made : factory.make (host.requests factory.id) with
  | error cause =>
      rw [host.make_error factory cause made]
      exact .refused _ (List.append_nil _)
  | ok state =>
      rw [host.make_ok factory state made]
      have empty := fresh _ state made
      have first := Gain.append host.engines state
      rw [empty] at first
      obtain ⟨block, last, gain, count, ended⟩ := Provider.shared_logged
        ⟨host.engines.length, ScriptEngine.name state⟩ plan.bootstrap
        (host.withMaking factory.id (some state) []) (by simp)
      have whole := first.trans gain
      have origin : plan.Origin host.engines last.engines host.engines.length :=
        Or.inl ⟨rfl, by rw [count]; simp⟩
      dsimp only
      rcases ended with ⟨ok, ran⟩ | ⟨fault, failed, ran⟩
      · rw [ok]
        exact .shared _ block ran whole origin
      · rw [failed]
        exact .spoilt _ block fault ran whole origin

theorem provide_provision (plan : ViewPlan) (registry : Registry ε) (host : Host (Logged ε))
    (known : ∀ engine, plan.supplied = some engine → engine.id < host.engines.length) :
    Provision plan host (plan.provide registry.logged host).2
      (plan.provide registry.logged host).1 := by
  unfold provide
  cases source : plan.settings.engine with
  | «instance» engine =>
      have supplied : plan.supplied = some engine := by
        unfold supplied
        rw [source]
      exact plan.provideInstance_provision engine host supplied (known engine supplied)
  | named name =>
      dsimp only
      cases found : registry.logged.find? name with
      | none => exact .refused _ rfl
      | some factory =>
          have fresh := registry.fresh_of_find? name factory found
          dsimp only
          split
          · exact plan.provideShared_provision name factory fresh host
          · exact .lent factory fresh rfl

end ViewPlan

end Stencil
