import Stencil.Proofs.Engine.Provider

/-!
Engines by who made them. Whatever is done on a host, no engine goes and the engines that come are
those that factories made, in the order of their numbers (`Host.Grows`). What only gives commands to
one engine leaves the factories and all other engines alone (`Host.Within`).
-/

namespace Stencil

variable {ε : Type}

namespace Host

/-- The engines that factories made, in their order. -/
def made (host : Host ε) : List Nat :=
  host.makings.filterMap Making.engine

/-- Nothing is done to engines and factories but to one engine. -/
structure Within (before after : Host ε) (id : Nat) : Prop where
  makings : after.makings = before.makings
  count : after.engines.length = before.engines.length
  others : ∀ other, other ≠ id → after.engines[other]? = before.engines[other]?

/-- No engine goes, and the engines that come are those that factories made. -/
def Grows (before after : Host ε) : Prop :=
  ∃ count, after.engines.length = before.engines.length + count ∧
    after.made = before.made ++ List.range' before.engines.length count

/-! ### One engine -/

namespace Within

theorem of_eq {before after : Host ε} (engines : after.engines = before.engines)
    (makings : after.makings = before.makings) (id : Nat) : Within before after id where
  makings := makings
  count := congrArg List.length engines
  others _ _ := by rw [engines]

theorem trans {first second third : Host ε} {id : Nat} (before : Within first second id)
    (after : Within second third id) : Within first third id where
  makings := after.makings.trans before.makings
  count := after.count.trans before.count
  others other different := (after.others other different).trans (before.others other different)

theorem grows {before after : Host ε} {id : Nat} (within : Within before after id) :
    before.Grows after := by
  refine ⟨0, within.count, ?_⟩
  unfold made
  rw [within.makings, List.range'_zero, List.append_nil]

end Within

theorem report_within (host : Host ε) (event : Event) (id : Nat) :
    host.Within (host.report event) id where
  makings := rfl
  count := rfl
  others _ _ := rfl

theorem lookUp_within (host : Host ε) (location : String) (id : Nat) :
    host.Within (host.lookUp location) id where
  makings := rfl
  count := rfl
  others _ _ := rfl

theorem command_within {α : Type} (host : Host ε) (engine : EngineHandle) (run : ε → Reply ε α) :
    host.Within (host.command engine run).2 engine.id := by
  unfold command
  cases host.engines[engine.id]? with
  | none => exact Within.of_eq rfl rfl _
  | some state =>
      refine ⟨rfl, List.length_set, ?_⟩
      intro other different
      exact List.getElem?_set_ne (Ne.symm different)

/-! ### More engines -/

namespace Grows

theorem of_eq {before after : Host ε} (engines : after.engines = before.engines)
    (makings : after.makings = before.makings) : before.Grows after :=
  (Within.of_eq engines makings 0).grows

theorem trans {first second third : Host ε} (before : first.Grows second)
    (after : second.Grows third) : first.Grows third := by
  obtain ⟨some, grown, listed⟩ := before
  obtain ⟨more, length, made⟩ := after
  refine ⟨some + more, by rw [length, grown, Nat.add_assoc], ?_⟩
  rw [made, listed, grown, List.append_assoc, List.range'_append_1]

end Grows

theorem withMaking_made (host : Host ε) (factory : Nat) (engine : Option ε) (noted : List Entry) :
    (host.withMaking factory engine noted).made =
      host.made ++ List.range' host.engines.length engine.toList.length := by
  unfold made withMaking
  rw [List.filterMap_append]
  cases engine <;> rfl

theorem withMaking_grows (host : Host ε) (factory : Nat) (engine : Option ε)
    (noted : List Entry) : host.Grows (host.withMaking factory engine noted) := by
  refine ⟨engine.toList.length, ?_, host.withMaking_made factory engine noted⟩
  rw [withMaking_engines, List.length_append]

theorem foldl_report_grows (host : Host ε) (events : List Event) :
    host.Grows (events.foldl Host.report host) := by
  rw [foldl_report]
  exact Grows.of_eq rfl rfl

end Host

variable [ScriptEngine ε]

/-! ### Scripts -/

namespace Bootstrap

variable (bootstrap : Bootstrap) (engine : EngineHandle)

theorem loadOne_within (host : Host ε) (location : String) :
    host.Within (bootstrap.loadOne engine host location).2 engine.id := by
  unfold loadOne
  cases bootstrap.source host.files location with
  | error fault => exact host.lookUp_within location engine.id
  | ok text =>
      have ran : host.Within ((host.lookUp location).eval engine text (some location)).2 engine.id :=
        (host.lookUp_within location engine.id).trans
          ((host.lookUp location).command_within engine _)
      dsimp only
      generalize (host.lookUp location).eval engine text (some location) = evaluated at ran ⊢
      obtain ⟨answer, last⟩ := evaluated
      cases answer with
      | error cause => exact ran
      | ok done => exact ran.trans (last.report_within _ _)

theorem loadAll_within (scripts : List String) (host : Host ε) :
    host.Within (bootstrap.loadAll engine host scripts).2 engine.id := by
  induction scripts generalizing host with
  | nil => exact Host.Within.of_eq rfl rfl _
  | cons location rest ih =>
      have first := bootstrap.loadOne_within engine host location
      unfold loadAll
      generalize bootstrap.loadOne engine host location = loaded at first ⊢
      obtain ⟨answer, last⟩ := loaded
      cases answer with
      | error fault => exact first
      | ok done => exact first.trans (ih last)

end Bootstrap

/-! ### Providers -/

namespace Provider

omit [ScriptEngine ε] in
/-- The engine of every context, where there is one. -/
def only? (provider : Provider ε) : Option EngineHandle :=
  match provider.mode with
  | .shared engine => some engine
  | .perContext .. => none

theorem shared_within (engine : EngineHandle) (bootstrap : Bootstrap) (host : Host ε) :
    host.Within (shared engine bootstrap host).2 engine.id := by
  have loaded := bootstrap.loadAll_within engine bootstrap.scripts host
  unfold shared Bootstrap.load
  generalize bootstrap.loadAll engine host bootstrap.scripts = ran at loaded ⊢
  obtain ⟨answer, last⟩ := ran
  cases answer <;> exact loaded

theorem engine_only (provider : Provider ε) (engine : EngineHandle)
    (only : provider.only? = some engine) (context : RenderContext) (host : Host ε) :
    provider.engine context host = (.ok engine, provider, host) := by
  cases mode : provider.mode with
  | shared own =>
      unfold only? at only
      rw [mode] at only
      rw [← Option.some.inj only]
      exact provider.engine_shared own mode context host
  | perContext factory held =>
      unfold only? at only
      rw [mode] at only
      cases only

theorem engine_grows (provider : Provider ε) (context : RenderContext) (host : Host ε) :
    host.Grows (provider.engine context host).2.2 ∧
      (provider.engine context host).2.1.only? = provider.only? := by
  have request := provider.engine_request context host
  generalize provider.engine context host = served at request ⊢
  obtain ⟨answer, after, last⟩ := served
  cases request with
  | kept engine own => exact ⟨Host.Grows.of_eq rfl rfl, rfl⟩
  | failed bootstrap factory held fault half noted absent attempted =>
      exact ⟨host.withMaking_grows _ _ _, rfl⟩
  | made bootstrap factory held name engine noted absent attempted =>
      exact ⟨host.withMaking_grows _ _ _, rfl⟩

omit [ScriptEngine ε] in
theorem release_only (provider : Provider ε) (context : RenderContext) :
    (provider.release context).2.only? = provider.only? := by
  obtain ⟨bootstrap, mode⟩ := provider
  cases mode <;> rfl

omit [ScriptEngine ε] in
theorem purge_grows (provider : Provider ε) (host : Host ε) :
    host.Grows (provider.purge host).2.2 ∧ (provider.purge host).2.1.only? = provider.only? := by
  obtain ⟨bootstrap, mode⟩ := provider
  cases mode with
  | shared engine => exact ⟨Host.Grows.of_eq rfl rfl, rfl⟩
  | perContext factory held =>
      exact ⟨Host.Grows.of_eq (reportReclaimed_engines _ _) (reportReclaimed_makings _ _), rfl⟩

end Provider

end Stencil
