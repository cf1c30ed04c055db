import Stencil.Proofs.Engine.Ownership

/-!
What a context is left with when it could not get an engine. The failed call lets go of entries of
contexts without handles and asks the factory once; it changes nothing else that a context can see,
and the engine it may have begun is never handed out.
-/

namespace Stencil

namespace Provider

namespace Session

variable {ε : Type}

/-- No engine with a number from `low` on and below `high` is kept, nor will be made. -/
structure Avoids (low high : Nat) (session : Session ε) : Prop where
  past : high ≤ session.host.engines.length
  held : ∀ entry ∈ session.provider.held, entry.engine.id < low ∨ high ≤ entry.engine.id

theorem count_lending (bootstrap : Bootstrap) (factory : Factory ε) (held : List Held)
    (host : Host ε) :
    (lending bootstrap factory held).count host =
      held.countP (fun entry => host.isLive entry.lease) :=
  rfl

/-- Looking at live entries twice is looking once, whatever host has the same handles. -/
theorem live_live (host other : Host ε) (held : List Held) (same : other.handles = host.handles) :
    live other (live host held) = live host held := by
  unfold live
  rw [Host.isLive_congr other host same, List.filter_filter]
  simp

variable [ScriptEngine ε] {bootstrap : Bootstrap} {factory : Factory ε} {session : Session ε}

theorem Sound.engine_failed (sound : Sound bootstrap factory session) (context : RenderContext)
    (absent : kept session.provider.held context.id = none) (fault : ViewError)
    (provider : Provider ε) (host : Host ε)
    (failed : session.provider.engine context session.host = (.error fault, provider, host)) :
    ∃ half noted, provider =
        lending bootstrap factory (live session.host session.provider.held) ∧
      host = session.host.withMaking factory.id half noted := by
  obtain ⟨noted, served⟩ := sound.engine_absent context absent
  rw [failed, Prod.mk.injEq, Prod.mk.injEq] at served
  obtain ⟨answered, providerEq, hostEq⟩ := served
  rw [← answered] at providerEq
  refine ⟨_, noted, ?_, hostEq⟩
  rw [providerEq, entries, List.append_nil]

theorem kept_step (sound : Sound bootstrap factory session) (operation : Operation) (context : Nat)
    (absent : kept session.provider.held context = none)
    (others : ∀ other, operation = .engine other → other.id ≠ context) :
    kept (session.step operation).2.provider.held context = none := by
  rw [kept_eq_none_iff] at *
  intro entry member
  rcases sound.step_entries operation entry member with before | ⟨other, asked, own, _⟩
  · exact absent entry before
  · rw [own]
    exact others other asked

theorem kept_finish (sound : Sound bootstrap factory session) (operations : List Operation)
    (context : Nat) (absent : kept session.provider.held context = none)
    (others : ∀ operation ∈ operations, ∀ other, operation = .engine other →
      other.id ≠ context) :
    kept (session.finish operations).provider.held context = none := by
  induction operations generalizing session with
  | nil => exact absent
  | cons operation rest ih =>
      exact ih (sound.step operation)
        (kept_step sound operation context absent (others operation List.mem_cons_self))
        (fun later member => others later (List.mem_cons_of_mem operation member))

theorem engines_le_finish (sound : Sound bootstrap factory session) (operations : List Operation) :
    session.host.engines.length ≤ (session.finish operations).host.engines.length := by
  induction operations generalizing session with
  | nil => exact Nat.le_refl _
  | cons operation rest ih =>
      exact Nat.le_trans (sound.step_engines_le operation) (ih (sound.step operation))

theorem Avoids.step {low high : Nat} (avoids : Avoids low high session)
    (sound : Sound bootstrap factory session) (operation : Operation) :
    Avoids low high (session.step operation).2 where
  past := Nat.le_trans avoids.past (sound.step_engines_le operation)
  held := by
    intro entry member
    rcases sound.step_entries operation entry member with before | ⟨_, _, _, new⟩
    · exact avoids.held entry before
    · rw [new]
      exact Or.inr avoids.past

theorem Avoids.turns {low high : Nat} (avoids : Avoids low high session)
    (sound : Sound bootstrap factory session) (operations : List Operation)
    (turn : Turn (Session ε) Operation Outcome) (member : turn ∈ session.turns operations)
    (context : Nat) (engine : EngineHandle) (gave : given? turn = some (context, engine)) :
    engine.id < low ∨ high ≤ engine.id := by
  induction operations generalizing session with
  | nil => cases member
  | cons operation rest ih =>
      rcases List.mem_cons.mp member with now | later
      · rw [now] at gave
        exact (avoids.step sound operation).held _
          (mem_of_given? sound operation context engine gave)
      · exact ih (avoids.step sound operation) (sound.step operation) later

omit [ScriptEngine ε] in
theorem Sound.after_failed (sound : Sound bootstrap factory session) (after : Session ε)
    (half : Option ε) (noted : List Entry)
    (providerEq : after.provider =
      lending bootstrap factory (live session.host session.provider.held))
    (hostEq : after.host = session.host.withMaking factory.id half noted) :
    Sound bootstrap factory after where
  lends := by rw [providerEq, held_lending]
  owned := by
    rw [providerEq, held_lending, hostEq]
    exact (sound.owned.filter _).mono (Nat.le_refl _) (by simp)

/-- Asking without an entry is one attempt that starts anew, whatever was attempted before. -/
theorem Sound.attempt_anew (sound : Sound bootstrap factory session) (context : RenderContext)
    (absent : kept session.provider.held context.id = none) (low : Nat)
    (grown : low ≤ session.host.engines.length) :
    let attempt :=
      bootstrap.attempt factory session.host.files (session.host.requests factory.id)
    let again := session.provider.engine context session.host
    again.1 = attempt.answer.map (EngineHandle.mk session.host.engines.length) ∧
      again.2.2.engines = session.host.engines ++ attempt.engine?.toList ∧
      again.2.2.makings = session.host.makings ++
        [⟨factory.id, attempt.engine?.map (fun _ => session.host.engines.length)⟩] ∧
      ∀ engine, again.1 = .ok engine → low ≤ engine.id := by
  obtain ⟨more, served⟩ := sound.engine_absent context absent
  intro attempt again
  have againEq : again = _ := served
  rw [againEq]
  refine ⟨rfl, rfl, rfl, ?_⟩
  intro engine answered
  dsimp only at answered
  cases attempted : bootstrap.attempt factory session.host.files
      (session.host.requests factory.id) with
  | failed cause half =>
      rw [attempted] at answered
      cases answered
  | made name state =>
      rw [attempted] at answered
      rw [← Except.ok.inj answered]
      exact grown

/-- Where a context without an engine is answered an error, the entries of live contexts and the count
of engines stay, no other entry is left, and the factory was asked once. Whatever happens before the
context asks again, it then makes one new attempt that runs every script into a new engine; and the
engine of the failed attempt is never given to anybody. -/
theorem failed_engine (bootstrap : Bootstrap) (factory : Factory ε) (start : Host ε)
    (operations : List Operation) (context : RenderContext) (fault : ViewError)
    (session after : Session ε)
    (reached : session = (Session.start bootstrap factory start).finish operations)
    (absent : kept session.provider.held context.id = none)
    (failed : session.provider.engine context session.host =
      (.error fault, after.provider, after.host)) :
    (live after.host after.provider.held = live session.host session.provider.held ∧
      kept after.provider.held context.id = none ∧
      after.provider.count after.host = session.provider.count session.host ∧
      ∀ entry ∈ after.provider.held, after.host.isLive entry.lease = true) ∧
    (∃ half : Option ε, after.host.engines = session.host.engines ++ half.toList ∧
      after.host.makings = session.host.makings ++
        [⟨factory.id, half.map (fun _ => session.host.engines.length)⟩]) ∧
    (∀ later next, next = after.finish later →
      (∀ operation ∈ later, ∀ other, operation = .engine other → other.id ≠ context.id) →
      let attempt := bootstrap.attempt factory next.host.files (next.host.requests factory.id)
      let again := next.provider.engine context next.host
      again.1 = attempt.answer.map (EngineHandle.mk next.host.engines.length) ∧
        again.2.2.engines = next.host.engines ++ attempt.engine?.toList ∧
        again.2.2.makings = next.host.makings ++
          [⟨factory.id, attempt.engine?.map (fun _ => next.host.engines.length)⟩] ∧
        ∀ engine, again.1 = .ok engine → after.host.engines.length ≤ engine.id) ∧
    ∀ later, ∀ turn ∈ after.turns later, ∀ other engine, given? turn = some (other, engine) →
      engine.id < session.host.engines.length ∨ after.host.engines.length ≤ engine.id := by
  have sound : Sound bootstrap factory session := by
    rw [reached]
    exact (sound_start bootstrap factory start).finish operations
  obtain ⟨half, noted, providerEq, hostEq⟩ :=
    sound.engine_failed context absent fault after.provider after.host failed
  have heldEq : after.provider.held = live session.host session.provider.held := by
    rw [providerEq, held_lending]
  have handlesEq : after.host.handles = session.host.handles := by
    rw [hostEq, Host.withMaking_handles]
  have liveEq : after.host.isLive = session.host.isLive := Host.isLive_congr _ _ handlesEq
  have afterAbsent : kept after.provider.held context.id = none := by
    rw [heldEq]
    exact kept_live_eq_none session.host session.provider.held context.id absent
  have afterSound := sound.after_failed after half noted providerEq hostEq
  refine ⟨⟨?_, afterAbsent, ?_, ?_⟩, ⟨half, ?_, ?_⟩, ?_, ?_⟩
  · rw [heldEq]
    exact live_live session.host after.host session.provider.held handlesEq
  · rw [providerEq, sound.lends, count_lending, count_lending, liveEq, held_lending]
    unfold live
    rw [List.countP_filter]
    simp
  · intro entry member
    rw [heldEq] at member
    rw [liveEq]
    exact (List.mem_filter.mp member).2
  · rw [hostEq, Host.withMaking_engines]
  · rw [hostEq]
    rfl
  · intro later next nextEq others
    rw [nextEq]
    exact (afterSound.finish later).attempt_anew context
      (kept_finish afterSound later context.id afterAbsent others) _
      (engines_le_finish afterSound later)
  · intro later turn member other engine gave
    refine Avoids.turns ⟨Nat.le_refl _, ?_⟩ afterSound later turn member other engine gave
    intro entry entryMember
    rw [heldEq] at entryMember
    exact Or.inl (sound.owned.made entry (List.mem_filter.mp entryMember).1)

/-- One context left without giving its engine back, and then the script went away. -/
def scriptGone : Session Recorder :=
  (Session.start ⟨["a.js"], .classpath ["/"], .utf8⟩ (Recorder.factory 0 "recording" [] {} none)
    { files := ⟨[(["a.js"], .file [])], []⟩ }).finish
      [.enter none, .enter none, .engine (.new 0 none), .drop (.new 0 none), .write ⟨[], []⟩]

theorem failed_engine_script_gone :
    scriptGone.provider.held = [{ context := 0, engine := ⟨0, "recording"⟩ }] ∧
      (scriptGone.provider.engine (.new 1 none) scriptGone.host).1 =
        .error (.resourceNotFound "a.js") ∧
      ∀ entry ∈ (scriptGone.provider.engine (.new 1 none) scriptGone.host).2.1.held,
        (scriptGone.provider.engine (.new 1 none) scriptGone.host).2.2.isLive entry.lease = true := by
  have failed : (scriptGone.provider.engine (.new 1 none) scriptGone.host).1 =
      .error (.resourceNotFound "a.js") := by decide +kernel
  refine ⟨by decide +kernel, failed, ?_⟩
  exact (failed_engine ⟨["a.js"], .classpath ["/"], .utf8⟩
    (Recorder.factory 0 "recording" [] {} none) { files := ⟨[(["a.js"], .file [])], []⟩ }
    [.enter none, .enter none, .engine (.new 0 none), .drop (.new 0 none), .write ⟨[], []⟩]
    (.new 1 none) (.resourceNotFound "a.js") scriptGone
    ⟨(scriptGone.provider.engine (.new 1 none) scriptGone.host).2.1,
      (scriptGone.provider.engine (.new 1 none) scriptGone.host).2.2⟩
    rfl (by decide +kernel) (Prod.ext failed rfl)).1.2.2.2

end Session

end Provider

end Stencil
