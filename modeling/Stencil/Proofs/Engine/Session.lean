import Stencil.Proofs.Engine.Provider
import Stencil.Proofs.Machine

/-!
A provider per context at work: contexts come and go, ask for their engines and give them back, and
files change. Using a context takes a handle on it, so an operation on a context without handles is
refused and changes nothing. `Session.Sound` holds of every session that a run leads to.
-/

namespace Stencil

namespace Provider

/-- What can be asked of a provider, and what can happen around it. -/
inductive Operation where
  | enter (name : Option String)
  | clone (context : RenderContext)
  | drop (context : RenderContext)
  | engine (context : RenderContext)
  | release (context : RenderContext)
  | purge
  | write (files : FileSystem)

inductive Outcome where
  | entered (context : RenderContext)
  | engine (answer : Except ViewError EngineHandle)
  | released (found : Bool)
  | purged (count : Nat)
  | done
  /-- The context has no handle. -/
  | refused

structure Session (ε : Type) where
  provider : Provider ε
  host : Host ε

namespace Session

variable {ε : Type}

def start (bootstrap : Bootstrap) (factory : Factory ε) (host : Host ε) : Session ε :=
  ⟨perContext factory bootstrap, host⟩

/-- Does something that takes a handle on a context. -/
def within (session : Session ε) (context : RenderContext) (act : Outcome × Session ε) :
    Outcome × Session ε :=
  if session.host.isLive context.lease then act else (.refused, session)

variable [ScriptEngine ε]

def step (session : Session ε) : Operation → Outcome × Session ε
  | .enter name =>
      let opened := session.host.openContext name
      (.entered opened.1, ⟨session.provider, opened.2⟩)
  | .clone context =>
      session.within context (.done, ⟨session.provider, session.host.cloneContext context⟩)
  | .drop context =>
      session.within context (.done, ⟨session.provider, session.host.dropContext context⟩)
  | .engine context =>
      let served := session.provider.engine context session.host
      session.within context (.engine served.1, ⟨served.2.1, served.2.2⟩)
  | .release context =>
      let released := session.provider.release context
      session.within context (.released released.1, ⟨released.2, session.host⟩)
  | .purge =>
      let purged := session.provider.purge session.host
      (.purged purged.1, ⟨purged.2.1, purged.2.2⟩)
  | .write files => (.done, ⟨session.provider, { session.host with files := files }⟩)

def turns (session : Session ε) (operations : List Operation) :
    List (Turn (Session ε) Operation Outcome) :=
  Machine.turns step session operations

def finish (session : Session ε) (operations : List Operation) : Session ε :=
  Machine.finish step session operations

omit [ScriptEngine ε] in
theorem within_live (session : Session ε) (context : RenderContext) (act : Outcome × Session ε)
    (live : session.host.isLive context.id = true) : session.within context act = act :=
  if_pos ((session.host.isLive_lease context).trans live)

omit [ScriptEngine ε] in
/-- What holds of a refusal and of the act itself holds of the guarded act. -/
theorem within_cases (session : Session ε) (context : RenderContext)
    (act : Outcome × Session ε) (property : Outcome × Session ε → Prop)
    (refused : property (.refused, session))
    (acted : session.host.isLive context.id = true → property act) :
    property (session.within context act) := by
  unfold within
  split
  · next live => exact acted ((session.host.isLive_lease context).symm.trans live)
  · exact refused

/-- The provider lends engines of one factory, and its entries keep their rules on the host. -/
structure Sound (bootstrap : Bootstrap) (factory : Factory ε) (session : Session ε) : Prop where
  lends : session.provider = lending bootstrap factory session.provider.held
  owned : Owned session.provider.held session.host.handles.length session.host.engines.length

omit [ScriptEngine ε] in
theorem sound_start (bootstrap : Bootstrap) (factory : Factory ε) (host : Host ε) :
    Sound bootstrap factory (start bootstrap factory host) where
  lends := rfl
  owned := Owned.nil _ _

omit [ScriptEngine ε] in
theorem Sound.of_entries {bootstrap : Bootstrap} {factory : Factory ε} (held : List Held)
    (host : Host ε) (owned : Owned held host.handles.length host.engines.length) :
    Sound bootstrap factory ⟨lending bootstrap factory held, host⟩ where
  lends := rfl
  owned := owned

namespace Sound

variable {bootstrap : Bootstrap} {factory : Factory ε} {session : Session ε}

omit [ScriptEngine ε] in
theorem kept_eq_none (sound : Sound bootstrap factory session) (context : Nat)
    (outside : session.host.handles.length ≤ context) :
    kept session.provider.held context = none := by
  rw [kept_eq_none_iff]
  intro entry member same
  have inside := sound.owned.entered entry member
  omega

theorem engine_kept (sound : Sound bootstrap factory session) (context : RenderContext)
    (engine : EngineHandle) (found : kept session.provider.held context.id = some engine) :
    session.provider.engine context session.host =
      (.ok engine, session.provider, session.host) := by
  rw [sound.lends]
  exact Provider.engine_kept bootstrap factory session.provider.held context session.host engine
    found

theorem engine_absent (sound : Sound bootstrap factory session) (context : RenderContext)
    (absent : kept session.provider.held context.id = none) :
    ∃ noted, session.provider.engine context session.host =
      ((bootstrap.attempt factory session.host.files (session.host.requests factory.id)).answer.map
          (EngineHandle.mk session.host.engines.length),
        lending bootstrap factory (live session.host session.provider.held ++
          entries context
            ((bootstrap.attempt factory session.host.files
              (session.host.requests factory.id)).answer.map
              (EngineHandle.mk session.host.engines.length))),
        session.host.withMaking factory.id
          (bootstrap.attempt factory session.host.files (session.host.requests factory.id)).engine?
          noted) := by
  obtain ⟨noted, served⟩ := Provider.engine_absent bootstrap factory session.provider.held
    context session.host absent
  refine ⟨noted, ?_⟩
  rw [← served, ← sound.lends]

theorem engine (sound : Sound bootstrap factory session) (context : RenderContext)
    (entered : context.id < session.host.handles.length) :
    Sound bootstrap factory ⟨(session.provider.engine context session.host).2.1,
      (session.provider.engine context session.host).2.2⟩ := by
  cases found : kept session.provider.held context.id with
  | some engine =>
      rw [sound.engine_kept context engine found]
      exact sound
  | none =>
      obtain ⟨noted, served⟩ := sound.engine_absent context found
      rw [served]
      refine Sound.of_entries _ _ ?_
      rw [Host.withMaking_handles, Host.withMaking_engines, List.length_append]
      exact (sound.owned.filter _).append context entered
        (kept_live_eq_none session.host session.provider.held context.id found) _

omit [ScriptEngine ε] in
theorem release (sound : Sound bootstrap factory session) (context : RenderContext) :
    Sound bootstrap factory ⟨(session.provider.release context).2, session.host⟩ := by
  rw [sound.lends, release_lending]
  exact Sound.of_entries _ _ (sound.owned.filter _)

omit [ScriptEngine ε] in
theorem purge (sound : Sound bootstrap factory session) :
    Sound bootstrap factory ⟨(session.provider.purge session.host).2.1,
      (session.provider.purge session.host).2.2⟩ := by
  rw [sound.lends, purge_lending]
  refine Sound.of_entries _ _ ?_
  rw [reportReclaimed_handles, reportReclaimed_engines]
  exact sound.owned.filter _

omit [ScriptEngine ε] in
theorem host (sound : Sound bootstrap factory session) (host : Host ε)
    (handles : session.host.handles.length ≤ host.handles.length)
    (engines : session.host.engines.length ≤ host.engines.length) :
    Sound bootstrap factory ⟨session.provider, host⟩ where
  lends := sound.lends
  owned := sound.owned.mono handles engines

theorem step (sound : Sound bootstrap factory session) (operation : Operation) :
    Sound bootstrap factory (session.step operation).2 := by
  cases operation with
  | enter name => exact sound.host _ (by simp) (by simp)
  | clone context =>
      exact session.within_cases context _ (fun result => Sound bootstrap factory result.2) sound
        (fun _live => sound.host _ (by simp) (by simp))
  | drop context =>
      exact session.within_cases context _ (fun result => Sound bootstrap factory result.2) sound
        (fun _live => sound.host _ (by simp) (by simp))
  | engine context =>
      exact session.within_cases context _ (fun result => Sound bootstrap factory result.2) sound
        (fun live => sound.engine context (session.host.lt_of_isLive context.id live))
  | release context =>
      exact session.within_cases context _ (fun result => Sound bootstrap factory result.2) sound
        (fun _live => sound.release context)
  | purge => exact sound.purge
  | write files => exact sound.host _ (Nat.le_refl _) (Nat.le_refl _)

theorem finish (sound : Sound bootstrap factory session) (operations : List Operation) :
    Sound bootstrap factory (session.finish operations) :=
  Machine.finish_invariant Session.step (Sound bootstrap factory)
    (fun _ operation held => held.step operation) operations session sound

theorem engine_entries (sound : Sound bootstrap factory session) (context : RenderContext)
    (entry : Held)
    (member : entry ∈ (session.provider.engine context session.host).2.1.held) :
    entry ∈ session.provider.held ∨
      entry.context = context.id ∧ entry.engine.id = session.host.engines.length := by
  cases found : kept session.provider.held context.id with
  | some engine =>
      rw [sound.engine_kept context engine found] at member
      exact Or.inl member
  | none =>
      obtain ⟨noted, served⟩ := sound.engine_absent context found
      rw [served, held_lending] at member
      rcases List.mem_append.mp member with before | last
      · exact Or.inl (List.mem_filter.mp before).1
      · cases attempted : bootstrap.attempt factory session.host.files
            (session.host.requests factory.id) with
        | failed fault half =>
            rw [attempted] at last
            cases last
        | made name engine =>
            rw [attempted] at last
            rw [List.mem_singleton.mp last]
            exact Or.inr ⟨rfl, rfl⟩

theorem engine_engines_le (sound : Sound bootstrap factory session) (context : RenderContext) :
    session.host.engines.length ≤
      (session.provider.engine context session.host).2.2.engines.length := by
  cases found : kept session.provider.held context.id with
  | some engine => exact Nat.le_of_eq (by rw [sound.engine_kept context engine found])
  | none =>
      obtain ⟨noted, served⟩ := sound.engine_absent context found
      rw [served, Host.withMaking_engines, List.length_append]
      exact Nat.le_add_right _ _

theorem mem_of_engine_ok (sound : Sound bootstrap factory session) (context : RenderContext)
    (engine : EngineHandle)
    (answered : (session.provider.engine context session.host).1 = .ok engine) :
    { context := context.id, engine := engine } ∈
      (session.provider.engine context session.host).2.1.held := by
  cases found : kept session.provider.held context.id with
  | some own =>
      rw [sound.engine_kept context own found] at answered ⊢
      rw [← Except.ok.inj answered]
      exact mem_of_kept session.provider.held context.id own found
  | none =>
      obtain ⟨noted, served⟩ := sound.engine_absent context found
      rw [served] at answered ⊢
      dsimp only at answered
      rw [held_lending, answered]
      have entered := held_eq ⟨context.id, engine, context.lease, context.leased⟩
      exact List.mem_append_right _ (List.mem_singleton.mpr entered.symm)

/-- Entries only come from asking for an engine, and then it is a new one. -/
theorem step_entries (sound : Sound bootstrap factory session) (operation : Operation)
    (entry : Held) (member : entry ∈ (session.step operation).2.provider.held) :
    entry ∈ session.provider.held ∨ ∃ context, operation = .engine context ∧
      entry.context = context.id ∧ entry.engine.id = session.host.engines.length := by
  revert member
  cases operation with
  | enter name => exact Or.inl
  | clone context =>
      exact session.within_cases context _
        (fun result => entry ∈ result.2.provider.held → _) Or.inl (fun _live => Or.inl)
  | drop context =>
      exact session.within_cases context _
        (fun result => entry ∈ result.2.provider.held → _) Or.inl (fun _live => Or.inl)
  | engine context =>
      refine session.within_cases context _
        (fun result => entry ∈ result.2.provider.held → _) Or.inl ?_
      intro _live member
      rcases sound.engine_entries context entry member with before | ⟨own, new⟩
      · exact Or.inl before
      · exact Or.inr ⟨context, rfl, own, new⟩
  | release context =>
      refine session.within_cases context _
        (fun result => entry ∈ result.2.provider.held → _) Or.inl ?_
      intro _live member
      rw [sound.lends, release_lending] at member
      exact Or.inl (List.mem_filter.mp member).1
  | purge =>
      intro member
      unfold Session.step at member
      rw [sound.lends, purge_lending] at member
      exact Or.inl (List.mem_filter.mp member).1
  | write files => exact Or.inl

theorem step_engines_le (sound : Sound bootstrap factory session) (operation : Operation) :
    session.host.engines.length ≤ (session.step operation).2.host.engines.length := by
  cases operation with
  | enter name => exact Nat.le_refl _
  | clone context =>
      exact session.within_cases context _
        (fun result => session.host.engines.length ≤ result.2.host.engines.length)
        (Nat.le_refl _) (fun _live => Nat.le_refl _)
  | drop context =>
      exact session.within_cases context _
        (fun result => session.host.engines.length ≤ result.2.host.engines.length)
        (Nat.le_refl _) (fun _live => Nat.le_refl _)
  | engine context =>
      exact session.within_cases context _
        (fun result => session.host.engines.length ≤ result.2.host.engines.length)
        (Nat.le_refl _) (fun _live => sound.engine_engines_le context)
  | release context =>
      exact session.within_cases context _
        (fun result => session.host.engines.length ≤ result.2.host.engines.length)
        (Nat.le_refl _) (fun _live => Nat.le_refl _)
  | purge =>
      unfold Session.step
      exact Nat.le_of_eq (by rw [sound.lends, purge_lending, reportReclaimed_engines])
  | write files => exact Nat.le_refl _

end Sound

end Session

end Provider

end Stencil
