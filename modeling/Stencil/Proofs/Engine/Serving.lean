import Stencil.Proofs.Engine.Session

/-!
The engine of a context by its state. `Provider.serving` forgets the numbers of contexts and engines
and keeps what a context can tell: the name of its engine and the state the engine is in. No operation
for one context changes it for another that still has a handle.
-/

namespace Stencil

namespace Provider

variable {ε : Type}

def serving (held : List Held) (host : Host ε) (context : Nat) : Option (String × ε) :=
  (kept held context).bind fun engine => host.engines[engine.id]?.map (Prod.mk engine.name)

/-- What an answer shows of the engine it gives. -/
def shown (host : Host ε) (answer : Except ViewError EngineHandle) :
    Except ViewError (String × Option ε) :=
  answer.map fun engine => (engine.name, host.engines[engine.id]?)

/-- The engine a context gets that is served by the given one or by none. -/
def obtained [ScriptEngine ε] (bootstrap : Bootstrap) (factory : Factory ε) (files : FileSystem) :
    Option (String × ε) → Except ViewError (String × ε)
  | some engine => .ok engine
  | none =>
      match bootstrap.attempt factory files 0 with
      | .failed fault _ => .error fault
      | .made name state => .ok (name, state)

/-- A context without an engine gets what a pass over a new engine of the factory comes to. -/
theorem obtained_none [ScriptEngine ε] (bootstrap : Bootstrap) (factory : Factory ε)
    (files : FileSystem) (fresh : ε) (gives : factory.make 0 = .ok fresh) :
    obtained bootstrap factory files none =
      (bootstrap.pass files fresh bootstrap.scripts).1.map
        (fun _ => (ScriptEngine.name fresh, (bootstrap.pass files fresh bootstrap.scripts).2)) := by
  unfold obtained Bootstrap.attempt
  simp only [gives]
  rcases bootstrap.pass files fresh bootstrap.scripts with ⟨answer, state⟩
  cases answer with
  | error fault => rfl
  | ok done => rfl

theorem eq_error_of_shown (host : Host ε) (answer : Except ViewError EngineHandle)
    (fault : ViewError) (shows : shown host answer = .error fault) : answer = .error fault := by
  cases answer with
  | error own => exact congrArg Except.error (Except.error.inj shows)
  | ok engine => cases shows

theorem eq_ok_of_shown (host : Host ε) (answer : Except ViewError EngineHandle) (name : String)
    (state : ε) (shows : shown host answer = .ok (name, some state)) :
    ∃ engine, answer = .ok engine ∧ engine.name = name ∧
      host.engines[engine.id]? = some state := by
  cases answer with
  | error fault => cases shows
  | ok engine =>
      have parts := Except.ok.inj shows
      rw [Prod.mk.injEq] at parts
      exact ⟨engine, rfl, parts.1, parts.2⟩

theorem serving_of_kept (held : List Held) (host : Host ε) (context : Nat) (engine : EngineHandle)
    (state : ε) (own : kept held context = some engine)
    (found : host.engines[engine.id]? = some state) :
    serving held host context = some (engine.name, state) := by
  unfold serving
  rw [own, Option.bind_some, found, Option.map_some]

theorem serving_of_kept_eq_none (held : List Held) (host : Host ε) (context : Nat)
    (absent : kept held context = none) : serving held host context = none := by
  unfold serving
  rw [absent, Option.bind_none]

/-- A context that keeps its engine, in the state it is in, is served as before. -/
theorem serving_eq (held after : List Held) (host last : Host ε) (context : Nat)
    (own : kept after context = kept held context)
    (states : ∀ engine, kept held context = some engine →
      last.engines[engine.id]? = host.engines[engine.id]?) :
    serving after last context = serving held host context := by
  unfold serving
  rw [own]
  cases found : kept held context with
  | none => rfl
  | some engine => rw [Option.bind_some, Option.bind_some, states engine found]

namespace Owned

variable {held : List Held} {contexts : Nat}

theorem lt_of_kept {engines : Nat} (owned : Owned held contexts engines) (context : Nat)
    (engine : EngineHandle) (own : kept held context = some engine) : engine.id < engines :=
  owned.made _ (mem_of_kept held context engine own)

theorem kept_of_mem {engines : Nat} (owned : Owned held contexts engines) (context : Nat)
    (engine : EngineHandle)
    (member : { context := context, engine := engine } ∈ held) :
    kept held context = some engine := by
  cases own : kept held context with
  | none => exact absurd rfl ((kept_eq_none_iff held context).mp own _ member)
  | some other =>
      have same := List.inj_on_of_nodup_map owned.single (mem_of_kept held context other own)
        member rfl
      exact congrArg some (congrArg Held.engine same)

theorem exists_state (host : Host ε) (owned : Owned held contexts host.engines.length)
    (context : Nat) (engine : EngineHandle) (own : kept held context = some engine) :
    ∃ state, host.engines[engine.id]? = some state :=
  ⟨_, List.getElem?_eq_getElem (owned.lt_of_kept context engine own)⟩

theorem isSome_serving (host : Host ε) (owned : Owned held contexts host.engines.length)
    (context : Nat) : (serving held host context).isSome = (kept held context).isSome := by
  cases own : kept held context with
  | none =>
      rw [serving_of_kept_eq_none held host context own]
      rfl
  | some engine =>
      obtain ⟨state, found⟩ := owned.exists_state host context engine own
      rw [serving_of_kept held host context engine state own found]
      rfl

/-- A command to the engine of one context reaches no other context. -/
theorem serving_withEngine (host : Host ε) (owned : Owned held contexts host.engines.length)
    (context other : Nat) (engine : EngineHandle) (own : kept held context = some engine)
    (different : other ≠ context) (state : ε) (noted : List Entry) :
    serving held (host.withEngine engine.id state noted) other = serving held host other := by
  refine serving_eq held held host _ other rfl ?_
  intro handle theirs
  rw [Host.withEngine_engines]
  apply List.getElem?_set_ne
  intro same
  have entry := List.inj_on_of_nodup_map owned.separate (mem_of_kept held context engine own)
    (mem_of_kept held other handle theirs) same
  exact different (congrArg Held.context entry).symm

theorem serving_withEngine_own (host : Host ε) (owned : Owned held contexts host.engines.length)
    (context : Nat) (engine : EngineHandle) (own : kept held context = some engine) (state : ε)
    (noted : List Entry) :
    serving held (host.withEngine engine.id state noted) context =
      some (engine.name, state) := by
  refine serving_of_kept held _ context engine state own ?_
  rw [Host.withEngine_engines]
  exact List.getElem?_set_self (owned.lt_of_kept context engine own)

end Owned

namespace Session

variable {bootstrap : Bootstrap} {factory : Factory ε} {session after : Session ε}

/-- What was done concerned one context only, which `engine` serves from then on. -/
structure Confined (bootstrap : Bootstrap) (factory : Factory ε) (session after : Session ε)
    (context : Nat) (engine : Option (String × ε)) : Prop where
  own : serving after.provider.held after.host context = engine
  others : ∀ other, other ≠ context → session.host.isLive other = true →
    serving after.provider.held after.host other = serving session.provider.held session.host other
  sound : Sound bootstrap factory after
  handles : after.host.handles = session.host.handles
  files : after.host.files = session.host.files

namespace Confined

variable {context : Nat} {engine : Option (String × ε)}

theorem report (confined : Confined bootstrap factory session after context engine)
    (events : List Event) :
    Confined bootstrap factory session ⟨after.provider, events.foldl Host.report after.host⟩
      context engine := by
  rw [Host.foldl_report]
  exact ⟨confined.own, confined.others, ⟨confined.sound.lends, confined.sound.owned⟩,
    confined.handles, confined.files⟩

theorem withEngine (confined : Confined bootstrap factory session after context engine)
    (handle : EngineHandle) (own : kept after.provider.held context = some handle) (state : ε)
    (noted : List Entry) :
    Confined bootstrap factory session
      ⟨after.provider, after.host.withEngine handle.id state noted⟩ context
      (some (handle.name, state)) where
  own := confined.sound.owned.serving_withEngine_own after.host context handle own state noted
  others := by
    intro other different live
    rw [← confined.others other different live]
    exact confined.sound.owned.serving_withEngine after.host context other handle own different
      state noted
  sound := confined.sound.host _ (Nat.le_refl _) (by simp)
  handles := confined.handles
  files := confined.files

end Confined

theorem Sound.confined_release (sound : Sound bootstrap factory session)
    (context : RenderContext) :
    Confined bootstrap factory session ⟨(session.provider.release context).2, session.host⟩
      context.id none where
  own := by
    rw [sound.lends, release_lending, held_lending]
    refine serving_of_kept_eq_none _ _ _ ?_
    rw [kept_without, if_pos rfl]
  others := by
    intro other different _live
    rw [sound.lends, release_lending, held_lending]
    refine serving_eq _ _ _ _ other ?_ (fun _ _ => rfl)
    rw [kept_without, if_neg different, held_lending]
  sound := sound.release context
  handles := rfl
  files := rfl

theorem Sound.release_found (sound : Sound bootstrap factory session) (context : RenderContext) :
    (session.provider.release context).1 =
      (serving session.provider.held session.host context.id).isSome := by
  rw [sound.owned.isSome_serving, sound.lends, release_lending, held_lending]

theorem Sound.purge_frame (sound : Sound bootstrap factory session) :
    (session.provider.purge session.host).2.2.handles = session.host.handles ∧
      (session.provider.purge session.host).2.2.files = session.host.files := by
  rw [sound.lends, purge_lending]
  exact ⟨reportReclaimed_handles _ _, reportReclaimed_files _ _⟩

theorem Sound.serving_purge (sound : Sound bootstrap factory session) (context : Nat)
    (live : session.host.isLive context = true) :
    serving (session.provider.purge session.host).2.1.held
        (session.provider.purge session.host).2.2 context =
      serving session.provider.held session.host context := by
  rw [sound.lends, purge_lending, held_lending]
  refine serving_eq _ _ _ _ context (kept_live _ _ context live) ?_
  intro engine _own
  rw [reportReclaimed_engines]

/-! ### Asking for an engine -/

variable [ScriptEngine ε]

theorem Sound.kept_of_engine_ok (sound : Sound bootstrap factory session)
    (after : Session ε) (context : RenderContext)
    (entered : context.id < session.host.handles.length) (engine : EngineHandle)
    (served : session.provider.engine context session.host =
      (.ok engine, after.provider, after.host)) :
    kept after.provider.held context.id = some engine := by
  have member := sound.mem_of_engine_ok context engine (by rw [served])
  have owned := (sound.engine context entered).owned
  rw [served] at member owned
  exact owned.kept_of_mem context.id engine member

/-- A context is answered by its own engine alone, whatever else the provider keeps. -/
theorem Sound.serving_engine (sound : Sound bootstrap factory session)
    (alike : ∀ request, factory.make request = factory.make 0) (after : Session ε)
    (context : RenderContext) (answer : Except ViewError EngineHandle)
    (served : session.provider.engine context session.host =
      (answer, after.provider, after.host)) :
    shown after.host answer =
        (obtained bootstrap factory session.host.files
          (serving session.provider.held session.host context.id)).map
          (fun engine => (engine.1, some engine.2)) ∧
      serving after.provider.held after.host context.id =
        (obtained bootstrap factory session.host.files
          (serving session.provider.held session.host context.id)).toOption := by
  cases own : kept session.provider.held context.id with
  | some engine =>
      have stays := sound.engine_kept context engine own
      rw [served, Prod.mk.injEq, Prod.mk.injEq] at stays
      obtain ⟨answered, afterEq, lastEq⟩ := stays
      obtain ⟨state, found⟩ := sound.owned.exists_state session.host context.id engine own
      rw [answered, afterEq, lastEq,
        serving_of_kept session.provider.held session.host context.id engine state own found]
      exact ⟨by simp [shown, obtained, Except.map, found], rfl⟩
  | none =>
      obtain ⟨noted, made⟩ := sound.engine_absent context own
      have first := bootstrap.attempt_congr factory session.host.files
        (session.host.requests factory.id) 0 (alike _)
      rw [served, Prod.mk.injEq, Prod.mk.injEq, first] at made
      obtain ⟨answered, afterEq, lastEq⟩ := made
      have purged := kept_live_eq_none session.host session.provider.held context.id own
      rw [serving_of_kept_eq_none session.provider.held session.host context.id own]
      unfold obtained
      cases attempted : bootstrap.attempt factory session.host.files 0 with
      | failed fault half =>
          rw [attempted] at answered afterEq
          refine ⟨by rw [answered]; rfl, serving_of_kept_eq_none _ _ _ ?_⟩
          rw [afterEq, held_lending, kept_append, purged, kept_entries, if_pos rfl]
          rfl
      | made name state =>
          rw [attempted] at answered afterEq lastEq
          have newest : after.host.engines[session.host.engines.length]? = some state := by
            rw [lastEq, Host.withMaking_engines]
            exact List.getElem?_concat_length
          refine ⟨?_, serving_of_kept _ _ _ ⟨session.host.engines.length, name⟩ state ?_ newest⟩
          · rw [answered]
            simp [shown, Attempt.answer, Except.map, newest]
          · rw [afterEq, held_lending, kept_append, purged, kept_entries, if_pos rfl]
            rfl

theorem Sound.serving_engine_other (sound : Sound bootstrap factory session)
    (context : RenderContext) (other : Nat) (different : other ≠ context.id)
    (live : session.host.isLive other = true) :
    serving (session.provider.engine context session.host).2.1.held
        (session.provider.engine context session.host).2.2 other =
      serving session.provider.held session.host other := by
  cases own : kept session.provider.held context.id with
  | some engine =>
      rw [sound.engine_kept context engine own]
  | none =>
      obtain ⟨noted, made⟩ := sound.engine_absent context own
      rw [made]
      refine serving_eq _ _ _ _ other ?_ ?_
      · rw [held_lending, kept_append, kept_live session.host session.provider.held other live,
          kept_entries, if_neg different, Option.or_none]
      · intro engine theirs
        rw [Host.withMaking_engines]
        exact List.getElem?_append_left (sound.owned.lt_of_kept other engine theirs)

theorem Sound.engine_frame (sound : Sound bootstrap factory session) (context : RenderContext) :
    (session.provider.engine context session.host).2.2.handles = session.host.handles ∧
      (session.provider.engine context session.host).2.2.files = session.host.files := by
  cases own : kept session.provider.held context.id with
  | some engine =>
      rw [sound.engine_kept context engine own]
      exact ⟨rfl, rfl⟩
  | none =>
      obtain ⟨noted, made⟩ := sound.engine_absent context own
      rw [made]
      exact ⟨rfl, rfl⟩

theorem Sound.confined_engine (sound : Sound bootstrap factory session)
    (alike : ∀ request, factory.make request = factory.make 0) (after : Session ε)
    (context : RenderContext) (entered : context.id < session.host.handles.length)
    (answer : Except ViewError EngineHandle)
    (served : session.provider.engine context session.host =
      (answer, after.provider, after.host)) :
    Confined bootstrap factory session after context.id
      (obtained bootstrap factory session.host.files
        (serving session.provider.held session.host context.id)).toOption := by
  have others := sound.serving_engine_other context
  have stays := sound.engine context entered
  have frame := sound.engine_frame context
  rw [served] at others stays frame
  exact ⟨(sound.serving_engine alike after context answer served).2, others, stays, frame.1, frame.2⟩

end Session

end Provider

end Stencil
