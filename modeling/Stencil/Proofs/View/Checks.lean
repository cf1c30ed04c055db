import Stencil.Proofs.View.Plan

/-!
The checks of a build, in their order. `ViewBuilder.Fails` says for each check when it fails and
what is reported then, each in its own terms and none by reading the build back. The lemmas
`passes_address` to `passes_bootstrapped` say what is enough for a check not to fail.
-/

namespace Stencil

variable {ε : Type}

namespace ViewBuilder

/-! ### Checks -/

/-- What a build looks at. -/
inductive Check where
  | address
  | template
  | settings
  | loader
  | registered
  | created
  | bootstrapped
  deriving DecidableEq, Repr

/-- The place of a check in the order of a build. -/
def Check.place : Check → Nat
  | .address => 0
  | .template => 1
  | .settings => 2
  | .loader => 3
  | .registered => 4
  | .created => 5
  | .bootstrapped => 6

/-- The engine that scripts are run into at once, in the state it has before: one that was supplied,
or one that a factory gives to be shared. -/
inductive Begins (environment : Environment ε) (host : Host ε) (resolved : Resolved) : ε → Prop where
  | supplied (engine : EngineHandle) (state : ε) (source : resolved.engine = .instance engine)
      (found : host.engines[engine.id]? = some state) : Begins environment host resolved state
  | made (name : String) (factory : Factory ε) (state : ε)
      (source : resolved.engine = .named name) (shared : resolved.isShared = true)
      (known : environment.registry.find? name = some factory)
      (gave : factory.make (host.requests factory.id) = .ok state) :
      Begins environment host resolved state

/-- When a check fails, and what is reported then. -/
inductive Fails [ScriptEngine ε] (builder : ViewBuilder) (environment : Environment ε)
    (host : Host ε) : Check → ViewError → Prop where
  | address (missing : builder.url = none ∨ builder.url = some "") :
      Fails builder environment host .address (.configuration .noUrl)
  | template (count : environment.templates.length ≠ 1) :
      Fails builder environment host .template
        (.configuration (.templateConfigs environment.templates.length))
  | settings (template : Settings) (fault : ConfigFault)
      (only : environment.templates = [template])
      (refused : (builder.settings.withFallback template).resolve = .error fault) :
      Fails builder environment host .settings (.configuration fault)
  | loader (resolved : Resolved) (fault : ViewError)
      (settled : builder.Resolves environment resolved) (unset : builder.loader = none)
      (unlisted : environment.loader.assemble host.files resolved.loaderPath = .error fault) :
      Fails builder environment host .loader fault
  | registered (resolved : Resolved) (name : String)
      (settled : builder.Resolves environment resolved) (source : resolved.engine = .named name)
      (unknown : environment.registry.find? name = none) :
      Fails builder environment host .registered (.configuration (.unknownEngine name))
  | created (resolved : Resolved) (name : String) (factory : Factory ε) (cause : ScriptError)
      (settled : builder.Resolves environment resolved) (source : resolved.engine = .named name)
      (shared : resolved.isShared = true)
      (known : environment.registry.find? name = some factory)
      (refused : factory.make (host.requests factory.id) = .error cause) :
      Fails builder environment host .created (.configuration (.engine name cause))
  | bootstrapped (resolved : Resolved) (loader : Loader) (state reached : ε)
      (before : List String) (script : String) (after : List String) (fault : ViewError)
      (settled : builder.Resolves environment resolved)
      (loads : builder.Loads environment host.files resolved.loaderPath loader)
      (begins : Begins environment host resolved state)
      (order : resolved.scripts = before ++ script :: after)
      (passed : (Bootstrap.mk resolved.scripts loader resolved.charset).pass host.files state
        before = (.ok (), reached))
      (refuses : (Bootstrap.mk resolved.scripts loader resolved.charset).Refuses host.files reached
        script fault) :
      Fails builder environment host .bootstrapped fault

section Checks

variable [ScriptEngine ε]

/-- No check before a place fails. -/
def PassesBelow (builder : ViewBuilder) (environment : Environment ε) (host : Host ε)
    (place : Nat) : Prop :=
  ∀ check fault, check.place < place → ¬ Fails builder environment host check fault

/-- The first check that fails, with what it reports. -/
structure FirstFails (builder : ViewBuilder) (environment : Environment ε) (host : Host ε)
    (check : Check) (fault : ViewError) : Prop where
  fails : Fails builder environment host check fault
  below : PassesBelow builder environment host check.place

omit [ScriptEngine ε] in
theorem Begins.unique {environment : Environment ε} {host : Host ε} {resolved : Resolved}
    {state other : ε} (first : Begins environment host resolved state)
    (second : Begins environment host resolved other) : state = other := by
  cases first with
  | supplied engine state source found =>
      cases second with
      | supplied handle other same there =>
          rw [source, EngineSource.instance.injEq] at same
          rw [← same, found] at there
          exact Option.some.inj there
      | made name factory other same shared known gave =>
          rw [source] at same
          cases same
  | made name factory state source shared known gave =>
      cases second with
      | supplied handle other same there =>
          rw [source] at same
          cases same
      | made label maker other same shared found gives =>
          rw [source, EngineSource.named.injEq] at same
          rw [← same, known, Option.some.injEq] at found
          rw [← found, gave] at gives
          exact Except.ok.inj gives

theorem Check.place_injective {check other : Check} (same : check.place = other.place) :
    check = other := by
  cases check <;> cases other <;> first | rfl | cases same

theorem Check.place_lt_bootstrapped {check : Check} (different : check ≠ .bootstrapped) :
    check.place < Check.bootstrapped.place := by
  cases check with
  | bootstrapped => exact absurd rfl different
  | _ => decide

variable {builder : ViewBuilder} {environment : Environment ε} {host : Host ε}

/-- The scripts fail exactly if the pass over them does. -/
theorem fails_bootstrapped_iff (fault : ViewError) :
    Fails builder environment host .bootstrapped fault ↔
      ∃ resolved loader state, builder.Resolves environment resolved ∧
        builder.Loads environment host.files resolved.loaderPath loader ∧
        Begins environment host resolved state ∧
        ((Bootstrap.mk resolved.scripts loader resolved.charset).pass host.files state
          resolved.scripts).1 = .error fault := by
  constructor
  · intro fails
    cases fails with
    | bootstrapped resolved loader state reached before script after fault settled loads begins order
        passed refuses =>
        exact ⟨resolved, loader, state, settled, loads, begins,
          (Bootstrap.pass_eq_error_iff _ _ _ _ _).mpr
            ⟨before, script, after, reached, order, passed, refuses⟩⟩
  · rintro ⟨resolved, loader, state, settled, loads, begins, failed⟩
    obtain ⟨before, script, after, reached, order, passed, refuses⟩ :=
      (Bootstrap.pass_eq_error_iff _ _ _ _ _).mp failed
    exact .bootstrapped resolved loader state reached before script after fault settled loads begins
      order passed refuses

theorem Fails.unique_bootstrapped {fault other : ViewError}
    (first : Fails builder environment host .bootstrapped fault)
    (second : Fails builder environment host .bootstrapped other) : fault = other := by
  obtain ⟨resolved, loader, state, settled, loads, begins, failed⟩ :=
    (fails_bootstrapped_iff fault).mp first
  obtain ⟨again, lookup, own, ownSettled, ownLoads, ownBegins, fails⟩ :=
    (fails_bootstrapped_iff other).mp second
  rw [← settled.unique ownSettled] at ownLoads ownBegins fails
  rw [← loads.unique ownLoads, ← begins.unique ownBegins, failed] at fails
  exact Except.error.inj fails

/-- A check reports one fault only. -/
theorem Fails.unique {check : Check} {fault other : ViewError}
    (first : Fails builder environment host check fault)
    (second : Fails builder environment host check other) : fault = other := by
  cases first with
  | address missing =>
      cases second
      rfl
  | template count =>
      cases second
      rfl
  | settings template fault only refused =>
      cases second with
      | settings others cause same refuses =>
          rw [only, List.cons.injEq] at same
          rw [← same.1, refused] at refuses
          rw [Except.error.inj refuses]
  | loader resolved fault settled unset unlisted =>
      cases second with
      | loader again other ownSettled _ unlists =>
          rw [← settled.unique ownSettled, unlisted] at unlists
          exact Except.error.inj unlists
  | registered resolved name settled source unknown =>
      cases second with
      | registered again label ownSettled ownSource _ =>
          rw [← settled.unique ownSettled, source, EngineSource.named.injEq] at ownSource
          rw [ownSource]
  | created resolved name factory cause settled source shared known refused =>
      cases second with
      | created again label maker reason ownSettled ownSource _ found refuses =>
          rw [← settled.unique ownSettled, source, EngineSource.named.injEq] at ownSource
          rw [← ownSource, known, Option.some.injEq] at found
          rw [← found, refused] at refuses
          rw [ownSource, Except.error.inj refuses]
  | bootstrapped resolved loader state reached before script after fault settled loads begins order
      passed refuses =>
      exact Fails.unique_bootstrapped (.bootstrapped resolved loader state reached before script
        after fault settled loads begins order passed refuses) second

theorem FirstFails.unique {check again : Check} {fault other : ViewError}
    (first : FirstFails builder environment host check fault)
    (second : FirstFails builder environment host again other) : check = again ∧ fault = other := by
  have same : check = again := by
    apply Check.place_injective
    rcases Nat.lt_trichotomy check.place again.place with sooner | equal | later
    · exact absurd first.fails (second.below check fault sooner)
    · exact equal
    · exact absurd second.fails (first.below again other later)
  subst same
  exact ⟨rfl, first.fails.unique second.fails⟩

theorem PassesBelow.next (check : Check)
    (below : PassesBelow builder environment host check.place)
    (passes : ∀ fault, ¬ Fails builder environment host check fault) :
    PassesBelow builder environment host (check.place + 1) := by
  intro other fault sooner
  rcases Nat.lt_succ_iff_lt_or_eq.mp sooner with before | same
  · exact below other fault before
  · rw [Check.place_injective same]
    exact passes fault

theorem PassesBelow.addressed
    (below : PassesBelow builder environment host Check.bootstrapped.place) :
    ∃ url, builder.url = some url ∧ url ≠ "" := by
  have passes : ¬ (builder.url = none ∨ builder.url = some "") :=
    fun missing => below .address _ (by decide) (.address missing)
  obtain ⟨url, set⟩ := Option.ne_none_iff_exists'.mp fun unset => passes (Or.inl unset)
  exact ⟨url, set, fun blank => passes (Or.inr (blank ▸ set))⟩

/-! ### Checks that pass -/

theorem passes_address {url : String} (set : builder.url = some url) (filled : url ≠ "")
    (fault : ViewError) : ¬ Fails builder environment host .address fault := by
  intro fails
  cases fails with
  | address missing =>
      rw [set] at missing
      rcases missing with unset | blank
      · cases unset
      · exact filled (Option.some.inj blank)

theorem passes_template {template : Settings} (only : environment.templates = [template])
    (fault : ViewError) : ¬ Fails builder environment host .template fault := by
  intro fails
  cases fails with
  | template count =>
      rw [only] at count
      exact count rfl

section Settled

variable {resolved : Resolved} (settled : builder.Resolves environment resolved)

include settled

theorem passes_settings (fault : ViewError) :
    ¬ Fails builder environment host .settings fault := by
  intro fails
  cases fails with
  | settings template fault only refused =>
      obtain ⟨_, same, ok⟩ := settled
      rw [only, List.cons.injEq] at same
      rw [← same.1, refused] at ok
      cases ok

theorem passes_loader {loader : Loader}
    (loads : builder.Loads environment host.files resolved.loaderPath loader) (fault : ViewError) :
    ¬ Fails builder environment host .loader fault := by
  intro fails
  cases fails with
  | loader other fault ownSettled unset unlisted =>
      rw [← settled.unique ownSettled] at unlisted
      rcases loads with set | ⟨_, assembled⟩
      · rw [unset] at set
        cases set
      · rw [unlisted] at assembled
        cases assembled

theorem passes_registered
    (listed : ∀ name, resolved.engine = .named name → environment.registry.find? name ≠ none)
    (fault : ViewError) : ¬ Fails builder environment host .registered fault := by
  intro fails
  cases fails with
  | registered other name ownSettled source unknown =>
      rw [← settled.unique ownSettled] at source
      exact listed name source unknown

theorem passes_created
    (gives : ∀ name factory, resolved.engine = .named name → resolved.isShared = true →
      environment.registry.find? name = some factory →
      ∃ state, factory.make (host.requests factory.id) = .ok state)
    (fault : ViewError) : ¬ Fails builder environment host .created fault := by
  intro fails
  cases fails with
  | created other name factory cause ownSettled source shared known refused =>
      rw [← settled.unique ownSettled] at source shared
      obtain ⟨state, gave⟩ := gives name factory source shared known
      rw [gave] at refused
      cases refused

theorem passes_bootstrapped
    (runs : ∀ loader state, builder.Loads environment host.files resolved.loaderPath loader →
      Begins environment host resolved state →
      ((Bootstrap.mk resolved.scripts loader resolved.charset).pass host.files state
        resolved.scripts).1 = .ok ())
    (fault : ViewError) : ¬ Fails builder environment host .bootstrapped fault := by
  intro fails
  obtain ⟨other, loader, state, ownSettled, loads, begins, failed⟩ :=
    (fails_bootstrapped_iff fault).mp fails
  rw [← settled.unique ownSettled] at loads begins failed
  rw [runs loader state loads begins] at failed
  cases failed

end Settled

/-! ### What checks report -/

/-- All checks but those of the scripts report that something is configured wrongly. -/
theorem Fails.configuration {check : Check} {fault : ViewError}
    (fails : Fails builder environment host check fault) (different : check ≠ .bootstrapped) :
    ∃ cause, fault = .configuration cause := by
  cases fails with
  | loader resolved fault _ _ unlisted =>
      rw [Loader.assemble_eq_error_iff] at unlisted
      obtain ⟨cause, same⟩ := environment.loader.searchRoots_error host.files resolved.loaderPath
        fault unlisted
      exact ⟨_, same⟩
  | bootstrapped => exact absurd rfl different
  | _ => exact ⟨_, rfl⟩

theorem Fails.names_script {fault : ViewError}
    (fails : Fails builder environment host .bootstrapped fault) :
    ∃ resolved, builder.Resolves environment resolved ∧ ∃ script ∈ resolved.scripts,
      fault = .resourceNotFound script ∨ ∃ cause, fault = .scriptLoad script cause := by
  cases fails with
  | bootstrapped resolved loader state reached before script after fault settled loads begins order
      passed refuses =>
      refine ⟨resolved, settled, script, ?_, ?_⟩
      · rw [order]
        exact List.mem_append_right before List.mem_cons_self
      · cases refuses with
        | missing => exact Or.inl rfl
        | unreadable cause | failed _ cause => exact Or.inr ⟨_, rfl⟩

end Checks

end ViewBuilder

end Stencil
