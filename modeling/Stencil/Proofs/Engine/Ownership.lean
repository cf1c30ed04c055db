import Stencil.Engine.Recorder
import Stencil.Proofs.Engine.Tenancy

/-!
Which engine a context owns. `Accounted` says that the entries of live contexts are exactly the
engines that they were given and have not given back. It follows that engines are never shared between
contexts, stay with their context until they are released, and are never given out again.
-/

namespace Stencil

namespace Provider

namespace Session

variable {ε : Type}

/-! ### What every run keeps -/

/-- The entries of live contexts are the engines they were given last, every engine that was given
out is on the host, and none was given to two contexts. -/
structure Accounted (history : List (Turn (Session ε) Operation Outcome)) (session : Session ε) :
    Prop where
  current : ∀ context, session.host.isLive context = true →
    kept session.provider.held context = tenant context none history
  entered : ∀ context engine, (context, engine) ∈ given history →
    context < session.host.handles.length
  made : ∀ context engine, (context, engine) ∈ given history →
    engine.id < session.host.engines.length
  apart : ∀ first engine second other, (first, engine) ∈ given history →
    (second, other) ∈ given history → engine.id = other.id → first = second

theorem accounted_start (bootstrap : Bootstrap) (factory : Factory ε) (host : Host ε) :
    Accounted [] (start bootstrap factory host) where
  current := by
    intro context _live
    rfl
  entered := by simp [given]
  made := by simp [given]
  apart := by simp [given]

theorem given_append_of_none (history : List (Turn (Session ε) Operation Outcome))
    (turn : Turn (Session ε) Operation Outcome) (gave : given? turn = none) :
    given (history ++ [turn]) = given history := by
  unfold given
  rw [List.filterMap_append, List.filterMap_cons_none gave, List.filterMap_nil, List.append_nil]

theorem given_append_of_some (history : List (Turn (Session ε) Operation Outcome))
    (turn : Turn (Session ε) Operation Outcome) (pair : Nat × EngineHandle)
    (gave : given? turn = some pair) : given (history ++ [turn]) = given history ++ [pair] := by
  unfold given
  rw [List.filterMap_append, List.filterMap_cons_some gave, List.filterMap_nil]

theorem tenant_snoc (context : Nat) (history : List (Turn (Session ε) Operation Outcome))
    (turn : Turn (Session ε) Operation Outcome) :
    tenant context none (history ++ [turn]) =
      tenantAfter context (tenant context none history) turn :=
  tenant_append context none history [turn]

namespace Accounted

variable {history : List (Turn (Session ε) Operation Outcome)} {session : Session ε}

theorem unchanged (accounted : Accounted history session)
    (turn : Turn (Session ε) Operation Outcome) (after : Session ε) (gave : given? turn = none)
    (handles : session.host.handles.length ≤ after.host.handles.length)
    (engines : session.host.engines.length ≤ after.host.engines.length)
    (current : ∀ context, after.host.isLive context = true →
      kept after.provider.held context = tenant context none (history ++ [turn])) :
    Accounted (history ++ [turn]) after where
  current := current
  entered := by
    rw [given_append_of_none history turn gave]
    intro context engine member
    exact Nat.lt_of_lt_of_le (accounted.entered context engine member) handles
  made := by
    rw [given_append_of_none history turn gave]
    intro context engine member
    exact Nat.lt_of_lt_of_le (accounted.made context engine member) engines
  apart := by
    rw [given_append_of_none history turn gave]
    exact accounted.apart

theorem quiet (accounted : Accounted history session)
    (turn : Turn (Session ε) Operation Outcome) (after : Session ε) (gave : given? turn = none)
    (released : freed? turn = none)
    (handles : session.host.handles.length ≤ after.host.handles.length)
    (engines : session.host.engines.length ≤ after.host.engines.length)
    (current : ∀ context, after.host.isLive context = true →
      kept after.provider.held context = tenant context none history) :
    Accounted (history ++ [turn]) after := by
  refine accounted.unchanged turn after gave handles engines ?_
  intro context live
  rw [tenant_snoc, tenantAfter_quiet context _ turn gave released]
  exact current context live

theorem giving (accounted : Accounted history session)
    (turn : Turn (Session ε) Operation Outcome) (after : Session ε) (context : Nat)
    (engine : EngineHandle) (gave : given? turn = some (context, engine))
    (handles : session.host.handles.length ≤ after.host.handles.length)
    (engines : session.host.engines.length ≤ after.host.engines.length)
    (entered : context < after.host.handles.length)
    (made : engine.id < after.host.engines.length)
    (own : ∀ other handle, (other, handle) ∈ given history → engine.id = handle.id →
      context = other)
    (current : ∀ other, after.host.isLive other = true → kept after.provider.held other =
      if context = other then some engine else tenant other none history) :
    Accounted (history ++ [turn]) after where
  current := by
    intro other live
    rw [tenant_snoc, tenantAfter_given other context engine _ turn gave]
    exact current other live
  entered := by
    rw [given_append_of_some history turn _ gave]
    intro other handle member
    rcases List.mem_append.mp member with before | last
    · exact Nat.lt_of_lt_of_le (accounted.entered other handle before) handles
    · rw [List.mem_singleton, Prod.mk.injEq] at last
      rw [last.1]
      exact entered
  made := by
    rw [given_append_of_some history turn _ gave]
    intro other handle member
    rcases List.mem_append.mp member with before | last
    · exact Nat.lt_of_lt_of_le (accounted.made other handle before) engines
    · rw [List.mem_singleton, Prod.mk.injEq] at last
      rw [last.2]
      exact made
  apart := by
    rw [given_append_of_some history turn _ gave]
    intro first one second two firstMember secondMember same
    rcases List.mem_append.mp firstMember with firstBefore | firstLast
    · rcases List.mem_append.mp secondMember with secondBefore | secondLast
      · exact accounted.apart first one second two firstBefore secondBefore same
      · rw [List.mem_singleton, Prod.mk.injEq] at secondLast
        rw [secondLast.2] at same
        rw [secondLast.1]
        exact (own first one firstBefore same.symm).symm
    · rw [List.mem_singleton, Prod.mk.injEq] at firstLast
      rw [firstLast.2] at same
      rw [firstLast.1]
      rcases List.mem_append.mp secondMember with secondBefore | secondLast
      · exact own second two secondBefore same
      · rw [List.mem_singleton, Prod.mk.injEq] at secondLast
        exact secondLast.1.symm

theorem mem_given (accounted : Accounted history session) (context : Nat) (engine : EngineHandle)
    (live : session.host.isLive context = true)
    (found : kept session.provider.held context = some engine) :
    (context, engine) ∈ given history := by
  rw [accounted.current context live] at found
  rcases mem_given_of_tenant context none history engine found with impossible | member
  · cases impossible
  · exact member

theorem tenant_outside (accounted : Accounted history session) (context : Nat)
    (outside : session.host.handles.length ≤ context) : tenant context none history = none := by
  apply tenant_eq_none
  intro turn present engine gave
  have inside := accounted.entered context engine
    ((mem_given_iff history context engine).mpr ⟨turn, present, gave⟩)
  omega

variable [ScriptEngine ε] {bootstrap : Bootstrap} {factory : Factory ε}

/-- The engine a live context is answered is its own, or a new one where it had none. -/
theorem engine (accounted : Accounted history session) (sound : Sound bootstrap factory session)
    (context : RenderContext) (live : session.host.isLive context.id = true) :
    Accounted (history ++ [⟨session, .engine context,
        .engine (session.provider.engine context session.host).1,
        ⟨(session.provider.engine context session.host).2.1,
          (session.provider.engine context session.host).2.2⟩⟩])
      ⟨(session.provider.engine context session.host).2.1,
        (session.provider.engine context session.host).2.2⟩ := by
  have entered := session.host.lt_of_isLive context.id live
  cases found : kept session.provider.held context.id with
  | some engine =>
      rw [sound.engine_kept context engine found]
      have member := accounted.mem_given context.id engine live found
      refine accounted.giving _ _ context.id engine rfl (Nat.le_refl _) (Nat.le_refl _) entered
        (accounted.made context.id engine member) ?_ ?_
      · intro other handle given same
        exact accounted.apart context.id engine other handle member given same
      · intro other alive
        split
        · next same =>
            rw [← same]
            exact found
        · exact accounted.current other alive
  | none =>
      obtain ⟨noted, served⟩ := sound.engine_absent context found
      rw [served]
      cases bootstrap.attempt factory session.host.files (session.host.requests factory.id) with
      | failed fault half =>
          refine accounted.quiet _ _ rfl rfl (Nat.le_refl _) (by simp) ?_
          intro other alive
          have before : session.host.isLive other = true := alive
          simp only [Attempt.answer, Except.map, entries, List.append_nil, held_lending]
          rw [kept_live session.host session.provider.held other before]
          exact accounted.current other before
      | made name state =>
          refine accounted.giving _ _ context.id ⟨session.host.engines.length, name⟩ rfl
            (Nat.le_refl _) (by simp) entered (by simp [Attempt.engine?]) ?_ ?_
          · intro other handle given same
            have below := accounted.made other handle given
            have equal : session.host.engines.length = handle.id := same
            omega
          · intro other alive
            have before : session.host.isLive other = true := alive
            simp only [Attempt.answer, Except.map, held_lending]
            rw [kept_append, kept_live session.host session.provider.held other before,
              accounted.current other before]
            by_cases same : context.id = other
            · subst same
              rw [← accounted.current context.id before, found, if_pos rfl]
              simp [entries, kept]
            · rw [if_neg same]
              simp [entries, kept, same]

theorem step (accounted : Accounted history session) (sound : Sound bootstrap factory session)
    (operation : Operation) :
    Accounted (history ++ [Machine.turn Session.step session operation])
      (session.step operation).2 := by
  cases operation with
  | enter name =>
      refine accounted.quiet _ _ rfl rfl (by simp [Session.step]) (by simp [Session.step]) ?_
      intro context live
      have alive : (session.host.openContext name).2.isLive context = true := live
      rw [Host.isLive_openContext, Bool.or_eq_true, beq_iff_eq] at alive
      rcases alive with before | last
      · exact accounted.current context before
      · have outside : session.host.handles.length ≤ context := Nat.le_of_eq last.symm
        rw [accounted.tenant_outside context outside]
        exact sound.kept_eq_none context outside
  | clone context =>
      refine session.within_cases context _ (fun result => Accounted
        (history ++ [⟨session, .clone context, result.1, result.2⟩]) result.2) ?_ ?_
      · exact accounted.quiet _ _ rfl rfl (Nat.le_refl _) (Nat.le_refl _) accounted.current
      · intro live
        refine accounted.quiet _ _ rfl rfl (by simp) (by simp) ?_
        intro other alive
        have before : session.host.isLive other = true := by
          rw [← session.host.isLive_cloneContext context
            ((session.host.isLive_lease context).trans live)]
          exact alive
        exact accounted.current other before
  | drop context =>
      refine session.within_cases context _ (fun result => Accounted
        (history ++ [⟨session, .drop context, result.1, result.2⟩]) result.2) ?_ ?_
      · exact accounted.quiet _ _ rfl rfl (Nat.le_refl _) (Nat.le_refl _) accounted.current
      · intro _live
        refine accounted.quiet _ _ rfl rfl (by simp) (by simp) ?_
        intro other alive
        exact accounted.current other
          (session.host.isLive_of_isLive_dropContext context other alive)
  | engine context =>
      refine session.within_cases context _ (fun result => Accounted
        (history ++ [⟨session, .engine context, result.1, result.2⟩]) result.2) ?_ ?_
      · exact accounted.quiet _ _ rfl rfl (Nat.le_refl _) (Nat.le_refl _) accounted.current
      · exact accounted.engine sound context
  | release context =>
      refine session.within_cases context _ (fun result => Accounted
        (history ++ [⟨session, .release context, result.1, result.2⟩]) result.2) ?_ ?_
      · exact accounted.quiet _ _ rfl rfl (Nat.le_refl _) (Nat.le_refl _) accounted.current
      · intro _live
        refine accounted.unchanged _ _ rfl (Nat.le_refl _) (Nat.le_refl _) ?_
        intro other alive
        rw [tenant_snoc, tenantAfter_freed other context.id
          (session.provider.release context).1 _ _ rfl rfl]
        rw [sound.lends, release_lending, held_lending, kept_without]
        by_cases same : context.id = other
        · rw [if_pos same, if_pos same.symm]
        · rw [if_neg same, if_neg (Ne.symm same)]
          exact accounted.current other alive
  | purge =>
      have purged : session.step .purge = (.purged (session.provider.held.length -
          (live session.host session.provider.held).length),
          ⟨lending bootstrap factory (live session.host session.provider.held),
            reportReclaimed session.host (session.provider.held.length -
              (live session.host session.provider.held).length)⟩) := by
        rw [Session.step, sound.lends, purge_lending]
        rfl
      unfold Machine.turn
      rw [purged]
      refine accounted.quiet _ _ rfl rfl (by simp) (by simp) ?_
      intro other alive
      have before : session.host.isLive other = true := by
        rw [← alive]
        exact congrFun (Host.isLive_congr _ _ (by simp)) other
      rw [held_lending, kept_live session.host session.provider.held other before]
      exact accounted.current other before
  | write files =>
      exact accounted.quiet _ _ rfl rfl (Nat.le_refl _) (Nat.le_refl _) accounted.current

end Accounted

/-! ### Turns of a run -/

section Turns

variable [ScriptEngine ε] {bootstrap : Bootstrap} {factory : Factory ε}

theorem given?_turn (session : Session ε) (operation : Operation) (context : Nat)
    (engine : EngineHandle)
    (gave : given? (Machine.turn step session operation) = some (context, engine)) :
    ∃ chosen, operation = .engine chosen ∧ chosen.id = context ∧
      session.host.isLive context = true ∧
      (session.provider.engine chosen session.host).1 = .ok engine := by
  cases operation with
  | engine chosen =>
      revert gave
      refine session.within_cases chosen _ (fun result =>
        given? ⟨session, .engine chosen, result.1, result.2⟩ = some (context, engine) → _) ?_ ?_
      · intro impossible
        cases impossible
      · intro live gave
        cases answered : (session.provider.engine chosen session.host).1 with
        | error fault =>
            simp only [given?, answered] at gave
            cases gave
        | ok handle =>
            simp only [given?, answered, Option.some.injEq, Prod.mk.injEq] at gave
            refine ⟨chosen, rfl, gave.1, ?_, ?_⟩
            · rw [← gave.1]
              exact live
            · rw [answered, gave.2]
  | enter name => cases gave
  | clone chosen => cases gave
  | drop chosen => cases gave
  | release chosen => cases gave
  | purge => cases gave
  | write files => cases gave

theorem mem_of_given? {session : Session ε} (sound : Sound bootstrap factory session)
    (operation : Operation) (context : Nat) (engine : EngineHandle)
    (gave : given? (Machine.turn step session operation) = some (context, engine)) :
    { context := context, engine := engine } ∈ (session.step operation).2.provider.held := by
  obtain ⟨chosen, asked, same, live, answered⟩ :=
    given?_turn session operation context engine gave
  rw [← same] at live ⊢
  rw [asked, step, within_live session chosen _ live]
  exact sound.mem_of_engine_ok chosen engine answered

theorem freed?_turn (session : Session ε) (sound : Sound bootstrap factory session)
    (operation : Operation) (context : Nat) (found : Bool)
    (released : freed? (Machine.turn step session operation) = some (context, found)) :
    session.host.isLive context = true ∧
      found = (kept session.provider.held context).isSome := by
  cases operation with
  | release chosen =>
      revert released
      refine session.within_cases chosen _ (fun result =>
        freed? ⟨session, .release chosen, result.1, result.2⟩ = some (context, found) → _) ?_ ?_
      · intro impossible
        cases impossible
      · intro live released
        simp only [freed?, Option.some.injEq, Prod.mk.injEq] at released
        rw [sound.lends, release_lending] at released
        rw [← released.1, ← released.2]
        exact ⟨live, rfl⟩
  | enter name => cases released
  | clone chosen => cases released
  | drop chosen => cases released
  | engine chosen => cases released
  | purge => cases released
  | write files => cases released

theorem accounted_finish (bootstrap : Bootstrap) (factory : Factory ε) (host : Host ε)
    (operations : List Operation) :
    Sound bootstrap factory ((start bootstrap factory host).finish operations) ∧
      Accounted ((start bootstrap factory host).turns operations)
        ((start bootstrap factory host).finish operations) :=
  Machine.turns_invariant step
    (fun history session => Sound bootstrap factory session ∧ Accounted history session)
    (fun _history _session operation held =>
      ⟨held.1.step operation, held.2.step held.1 operation⟩)
    operations [] (start bootstrap factory host)
    ⟨sound_start bootstrap factory host, accounted_start bootstrap factory host⟩

/-- An engine that is given out is the one its context has, or else one that nobody was given. -/
theorem given_own_or_new (host : Host ε) (operations : List Operation)
    (past : List (Turn (Session ε) Operation Outcome)) (turn : Turn (Session ε) Operation Outcome)
    (future : List (Turn (Session ε) Operation Outcome))
    (split : (start bootstrap factory host).turns operations = past ++ turn :: future)
    (context : Nat) (engine : EngineHandle) (gave : given? turn = some (context, engine)) :
    tenant context none past = some engine ∨
      tenant context none past = none ∧
        ∀ other handle, (other, handle) ∈ given past → handle.id ≠ engine.id := by
  obtain ⟨before, operation, after, _, pastEq, turnEq, _⟩ :=
    Machine.turns_split step _ operations past turn future split
  obtain ⟨sound, accounted⟩ := accounted_finish bootstrap factory host before
  have historyEq : past = (start bootstrap factory host).turns before := pastEq
  rw [← historyEq] at accounted
  rw [turnEq] at gave
  obtain ⟨chosen, _, same, live, answered⟩ := given?_turn _ operation context engine gave
  rw [← accounted.current context live]
  have sameSession : Machine.finish step (start bootstrap factory host) before =
      (start bootstrap factory host).finish before := rfl
  rw [sameSession] at answered
  cases found : kept ((start bootstrap factory host).finish before).provider.held context with
  | some own =>
      rw [← same] at found
      rw [sound.engine_kept chosen own found] at answered
      exact Or.inl (congrArg some (Except.ok.inj answered))
  | none =>
      rw [← same] at found
      obtain ⟨noted, served⟩ := sound.engine_absent chosen found
      rw [served] at answered
      refine Or.inr ⟨rfl, ?_⟩
      intro other handle member
      have below := accounted.made other handle member
      cases attempted : bootstrap.attempt factory
          ((start bootstrap factory host).finish before).host.files
          (((start bootstrap factory host).finish before).host.requests factory.id) with
      | failed fault half =>
          rw [attempted] at answered
          cases answered
      | made name state =>
          rw [attempted] at answered
          have numbered : ((start bootstrap factory host).finish before).host.engines.length =
              engine.id := congrArg EngineHandle.id (Except.ok.inj answered)
          omega

theorem freed_iff_tenant (host : Host ε) (operations : List Operation)
    (past : List (Turn (Session ε) Operation Outcome)) (turn : Turn (Session ε) Operation Outcome)
    (future : List (Turn (Session ε) Operation Outcome))
    (split : (start bootstrap factory host).turns operations = past ++ turn :: future)
    (context : Nat) (found : Bool) (released : freed? turn = some (context, found)) :
    found = (tenant context none past).isSome := by
  obtain ⟨before, operation, after, _, pastEq, turnEq, _⟩ :=
    Machine.turns_split step _ operations past turn future split
  obtain ⟨sound, accounted⟩ := accounted_finish bootstrap factory host before
  have historyEq : past = (start bootstrap factory host).turns before := pastEq
  rw [← historyEq] at accounted
  rw [turnEq] at released
  obtain ⟨live, answered⟩ := freed?_turn _ sound operation context found released
  rw [← accounted.current context live]
  exact answered

/-- Between releases a context keeps the engine it has. -/
theorem tenant_kept (host : Host ε) (operations : List Operation)
    (between : List (Turn (Session ε) Operation Outcome))
    (past future : List (Turn (Session ε) Operation Outcome))
    (split : (start bootstrap factory host).turns operations = past ++ (between ++ future))
    (context : Nat) (engine : EngineHandle) (owned : tenant context none past = some engine)
    (quiet : Keeps context between) : tenant context none (past ++ between) = some engine := by
  induction between generalizing past with
  | nil =>
      rw [List.append_nil]
      exact owned
  | cons turn rest ih =>
      have parts : (start bootstrap factory host).turns operations =
          past ++ turn :: (rest ++ future) := split
      rw [keeps_cons] at quiet
      rw [List.append_cons]
      refine ih (past ++ [turn]) ?_ ?_ quiet.2
      · rw [parts, List.append_cons]
      · rw [tenant_snoc, owned]
        cases gave : given? turn with
        | some pair =>
            obtain ⟨other, handle⟩ := pair
            rw [tenantAfter_given context other handle _ turn gave]
            split_ifs with same
            · rw [same] at gave
              rcases given_own_or_new host operations past turn _ parts context handle gave
                with own | ⟨absent, _⟩
              · rw [← own, owned]
              · rw [owned] at absent
                cases absent
            · rfl
        | none =>
            cases released : freed? turn with
            | some pair =>
                obtain ⟨other, found⟩ := pair
                rw [tenantAfter_freed context other found _ turn gave released]
                split_ifs with same
                · rw [same] at released
                  exact absurd released (quiet.1 found)
                · rfl
            | none => exact tenantAfter_quiet context _ turn gave released

/-- Over every run: no engine is given to two contexts; a context gets the same engine again until it
is released; after a release that found an engine it gets one that nobody was given before; and a
release finds an engine exactly if one was given to the context since its last release. -/
theorem engine_ownership (bootstrap : Bootstrap) (factory : Factory ε) (host : Host ε)
    (operations : List Operation) :
    (∀ first ∈ (start bootstrap factory host).turns operations,
      ∀ second ∈ (start bootstrap factory host).turns operations,
      ∀ context engine other handle, given? first = some (context, engine) →
        given? second = some (other, handle) → context ≠ other → engine.id ≠ handle.id) ∧
    (∀ past first between second future context engine handle,
      (start bootstrap factory host).turns operations =
        past ++ first :: (between ++ second :: future) →
      given? first = some (context, engine) → given? second = some (context, handle) →
      Keeps context between → engine = handle) ∧
    (∀ past freed between next future context engine,
      (start bootstrap factory host).turns operations =
        past ++ freed :: (between ++ next :: future) →
      freed? freed = some (context, true) → given? next = some (context, engine) →
      (∀ turn ∈ between, ∀ handle, given? turn ≠ some (context, handle)) →
      ∀ turn ∈ past ++ freed :: between, ∀ other handle,
        given? turn = some (other, handle) → handle.id ≠ engine.id) ∧
    (∀ past freed future context found,
      (start bootstrap factory host).turns operations = past ++ freed :: future →
      freed? freed = some (context, found) → (found = true ↔ Holds context past)) := by
  refine ⟨?_, ?_, ?_, ?_⟩
  · intro first firstMember second secondMember context engine other handle firstGave secondGave
      different same
    obtain ⟨_, accounted⟩ := accounted_finish bootstrap factory host operations
    exact different (accounted.apart context engine other handle
      ((mem_given_iff _ context engine).mpr ⟨first, firstMember, firstGave⟩)
      ((mem_given_iff _ other handle).mpr ⟨second, secondMember, secondGave⟩) same)
  · intro past first between second future context engine handle split firstGave secondGave quiet
    have owned : tenant context none (past ++ [first]) = some engine := by
      rw [tenant_snoc, tenantAfter_given context context engine _ first firstGave, if_pos rfl]
    have kept := tenant_kept host operations between (past ++ [first]) (second :: future)
      (by rw [split, List.append_cons]) context engine owned quiet
    have secondSplit : (start bootstrap factory host).turns operations =
        (past ++ [first] ++ between) ++ second :: future := by
      rw [split, List.append_cons, List.append_assoc (past ++ [first])]
    rcases given_own_or_new host operations _ second future secondSplit context handle secondGave
      with own | ⟨absent, _⟩
    · rw [kept] at own
      exact Option.some.inj own
    · rw [kept] at absent
      cases absent
  · intro past freed between next future context engine split released gave never
    have vacant : tenant context none (past ++ freed :: between) = none := by
      rw [List.append_cons, tenant_append, tenant_snoc,
        tenantAfter_freed context context true _ freed
          (given?_of_freed? freed context true released) released, if_pos rfl]
      exact tenant_eq_none context between never
    have nextSplit : (start bootstrap factory host).turns operations =
        (past ++ freed :: between) ++ next :: future := by
      rw [split, List.append_assoc, List.cons_append]
    rcases given_own_or_new host operations _ next future nextSplit context engine gave
      with own | ⟨_, new⟩
    · rw [vacant] at own
      cases own
    · intro turn member other handle turnGave
      exact new other handle ((mem_given_iff _ other handle).mpr ⟨turn, member, turnGave⟩)
  · intro past freed future context found split released
    rw [freed_iff_tenant host operations past freed future split context found released,
      isSome_tenant_iff]
    simp

/-- Two contexts with an engine each. The first asks twice, is released, and asks again; none of its
engines is ever given to the second. -/
theorem engine_ownership_two_contexts :
    ((start ⟨[], .memory [], .utf8⟩ (Recorder.factory 0 "recording" [] {} none)
        { files := ⟨[], []⟩ }).turns
      [.enter none, .enter none, .engine (.new 0 none), .engine (.new 1 none), .purge,
        .engine (.new 0 none), .release (.new 0 none), .engine (.new 0 none)]).map given? =
      [none, none, some (0, ⟨0, "recording"⟩), some (1, ⟨1, "recording"⟩), none,
        some (0, ⟨0, "recording"⟩), none, some (0, ⟨2, "recording"⟩)] ∧
    (⟨0, "recording"⟩ : EngineHandle).id ≠ (⟨1, "recording"⟩ : EngineHandle).id := by
  refine ⟨rfl, ?_⟩
  exact (engine_ownership ⟨[], .memory [], .utf8⟩ (Recorder.factory 0 "recording" [] {} none)
    { files := ⟨[], []⟩ }
    [.enter none, .enter none, .engine (.new 0 none), .engine (.new 1 none), .purge,
      .engine (.new 0 none), .release (.new 0 none), .engine (.new 0 none)]).1
    _ (List.mem_of_getElem? (i := 2) rfl) _ (List.mem_of_getElem? (i := 3) rfl) 0
    ⟨0, "recording"⟩ 1 ⟨1, "recording"⟩ rfl rfl (by decide)

end Turns

end Session

end Provider

end Stencil
