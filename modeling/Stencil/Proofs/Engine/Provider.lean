import Mathlib.Data.List.Nodup
import Stencil.Proofs.Engine.Bootstrap

/-!
A provider per context, by its entries. `Provider.kept` looks an engine up, `Provider.engine_absent`
says all that happens where a context has no engine yet, and `Provider.Owned` is what the entries keep:
one entry for a context, one context for an engine. `Provider.Request` lists all that can become of a
request, for every provider.
-/

namespace Stencil

namespace Provider

variable {ε : Type}

def lending (bootstrap : Bootstrap) (factory : Factory ε) (held : List Held) : Provider ε :=
  ⟨bootstrap, .perContext factory held⟩

def kept (held : List Held) (context : Nat) : Option EngineHandle :=
  (held.find? (fun entry => entry.context = context)).map Held.engine

/-- The engine that a context has, without a request for it. -/
def engineOf? (provider : Provider ε) (context : Nat) : Option EngineHandle :=
  match provider.mode with
  | .shared engine => some engine
  | .perContext _ held => kept held context

/-- The entry that an answer adds, with the lease of the context that asked. -/
def entries (context : RenderContext) : Except ViewError EngineHandle → List Held
  | .ok engine => [⟨context.id, engine, context.lease, context.leased⟩]
  | .error _ => []

/-- An entry is told by its context and its engine, as its lease is that of the context. -/
theorem held_eq (entry : Held) :
    entry = { context := entry.context, engine := entry.engine } := by
  obtain ⟨context, engine, lease, leased⟩ := entry
  subst leased
  rfl

@[simp]
theorem held_lending (bootstrap : Bootstrap) (factory : Factory ε) (held : List Held) :
    (lending bootstrap factory held).held = held :=
  rfl

/-! ### Looking up -/

theorem mem_of_kept (held : List Held) (context : Nat) (engine : EngineHandle)
    (found : kept held context = some engine) :
    { context := context, engine := engine } ∈ held := by
  unfold kept at found
  obtain ⟨entry, at_, same⟩ := Option.map_eq_some_iff.mp found
  have here := List.find?_some at_
  simp only [decide_eq_true_eq] at here
  have member := List.mem_of_find?_eq_some at_
  rw [← here, ← same, ← held_eq entry]
  exact member

theorem kept_eq_none_iff (held : List Held) (context : Nat) :
    kept held context = none ↔ ∀ entry ∈ held, entry.context ≠ context := by
  unfold kept
  rw [Option.map_eq_none_iff, List.find?_eq_none]
  simp only [decide_eq_true_eq, ne_eq]

theorem any_eq_isSome_kept (held : List Held) (context : Nat) :
    held.any (fun entry => entry.context = context) = (kept held context).isSome := by
  unfold kept
  rw [Option.isSome_map, Bool.eq_iff_iff, List.any_eq_true, List.find?_isSome]

theorem kept_append (held more : List Held) (context : Nat) :
    kept (held ++ more) context = (kept held context).or (kept more context) := by
  unfold kept
  rw [List.find?_append]
  cases held.find? (fun entry => entry.context = context) <;> simp

theorem kept_filter (held : List Held) (keep : Held → Bool) (context : Nat)
    (stays : ∀ entry ∈ held, entry.context = context → keep entry = true) :
    kept (held.filter keep) context = kept held context := by
  unfold kept
  rw [List.find?_filter]
  induction held with
  | nil => rfl
  | cons entry rest ih =>
      have restStays : ∀ other ∈ rest, other.context = context → keep other = true :=
        fun other member => stays other (List.mem_cons_of_mem entry member)
      by_cases here : entry.context = context
      · simp [here, stays entry List.mem_cons_self here]
      · simpa [here] using ih restStays

theorem kept_live (host : Host ε) (held : List Held) (context : Nat)
    (alive : host.isLive context = true) : kept (live host held) context = kept held context := by
  unfold live
  apply kept_filter
  intro entry _member same
  rw [entry.leased, same]
  exact alive

theorem kept_live_eq_none (host : Host ε) (held : List Held) (context : Nat)
    (absent : kept held context = none) : kept (live host held) context = none := by
  rw [kept_eq_none_iff] at *
  intro entry member
  exact absent entry (List.mem_filter.mp member).1

theorem kept_without (held : List Held) (context other : Nat) :
    kept (held.filter (fun entry => entry.context != context)) other =
      if other = context then none else kept held other := by
  by_cases same : other = context
  · rw [if_pos same, kept_eq_none_iff]
    intro entry member
    have different := (List.mem_filter.mp member).2
    simp only [bne_iff_ne, ne_eq] at different
    rw [same]
    exact different
  · rw [if_neg same]
    apply kept_filter
    intro entry _member here
    simp [here, same]

theorem kept_entries (context : RenderContext) (other : Nat)
    (answer : Except ViewError EngineHandle) :
    kept (entries context answer) other =
      if other = context.id then answer.toOption else none := by
  cases answer with
  | error fault => simp [entries, kept, Except.toOption]
  | ok engine =>
      by_cases same : other = context.id
      · simp [entries, kept, same, Except.toOption]
      · simp [entries, kept, same, Ne.symm same]

/-! ### The operations -/

@[simp]
theorem reportReclaimed_files (host : Host ε) (count : Nat) :
    (reportReclaimed host count).files = host.files := by
  unfold reportReclaimed
  split <;> rfl

@[simp]
theorem reportReclaimed_engines (host : Host ε) (count : Nat) :
    (reportReclaimed host count).engines = host.engines := by
  unfold reportReclaimed
  split <;> rfl

@[simp]
theorem reportReclaimed_handles (host : Host ε) (count : Nat) :
    (reportReclaimed host count).handles = host.handles := by
  unfold reportReclaimed
  split <;> rfl

@[simp]
theorem reportReclaimed_makings (host : Host ε) (count : Nat) :
    (reportReclaimed host count).makings = host.makings := by
  unfold reportReclaimed
  split <;> rfl

theorem reportReclaimed_withMaking (host : Host ε) (count factory : Nat) (engine : Option ε)
    (noted : List Entry) :
    ∃ more, (reportReclaimed host count).withMaking factory engine noted =
      host.withMaking factory engine more := by
  unfold reportReclaimed
  split
  · exact ⟨[.reported (.enginesReclaimed count)] ++ noted, by simp [Host.withMaking, Host.report]⟩
  · exact ⟨noted, rfl⟩

theorem purge_lending (bootstrap : Bootstrap) (factory : Factory ε) (held : List Held)
    (host : Host ε) :
    (lending bootstrap factory held).purge host =
      (held.length - (live host held).length, lending bootstrap factory (live host held),
        reportReclaimed host (held.length - (live host held).length)) :=
  rfl

theorem release_lending (bootstrap : Bootstrap) (factory : Factory ε) (held : List Held)
    (context : RenderContext) :
    (lending bootstrap factory held).release context =
      ((kept held context.id).isSome,
        lending bootstrap factory
          (held.filter (fun entry => entry.context != context.id))) := by
  rw [← any_eq_isSome_kept]
  rfl

variable [ScriptEngine ε]

theorem engine_shared (provider : Provider ε) (engine : EngineHandle)
    (shares : provider.mode = .shared engine) (context : RenderContext) (host : Host ε) :
    provider.engine context host = (.ok engine, provider, host) := by
  unfold Provider.engine
  rw [shares]

theorem engine_kept (bootstrap : Bootstrap) (factory : Factory ε) (held : List Held)
    (context : RenderContext) (host : Host ε) (engine : EngineHandle)
    (found : kept held context.id = some engine) :
    (lending bootstrap factory held).engine context host =
      (.ok engine, lending bootstrap factory held, host) := by
  unfold kept at found
  obtain ⟨entry, at_, same⟩ := Option.map_eq_some_iff.mp found
  unfold Provider.engine lending
  simp only [at_, same]

/-- Where a context has no engine, entries of contexts without handles go, the factory is asked once,
and an entry is added exactly if the attempt succeeds. -/
theorem engine_absent (bootstrap : Bootstrap) (factory : Factory ε) (held : List Held)
    (context : RenderContext) (host : Host ε) (absent : kept held context.id = none) :
    ∃ noted, (lending bootstrap factory held).engine context host =
      ((bootstrap.attempt factory host.files (host.requests factory.id)).answer.map
          (EngineHandle.mk host.engines.length),
        lending bootstrap factory (live host held ++
          entries context
            ((bootstrap.attempt factory host.files (host.requests factory.id)).answer.map
              (EngineHandle.mk host.engines.length))),
        host.withMaking factory.id
          (bootstrap.attempt factory host.files (host.requests factory.id)).engine? noted) := by
  have missing : held.find? (fun entry => entry.context = context.id) = none :=
    Option.map_eq_none_iff.mp absent
  obtain ⟨noted, prepared⟩ := prepare_eq factory bootstrap
    (reportReclaimed host (held.length - (live host held).length))
  have asked : (reportReclaimed host (held.length - (live host held).length)).requests factory.id =
      host.requests factory.id := by
    simp only [Host.requests, reportReclaimed_makings]
  rw [reportReclaimed_files, reportReclaimed_engines, asked] at prepared
  obtain ⟨more, merged⟩ := reportReclaimed_withMaking host
    (held.length - (live host held).length) factory.id
    (bootstrap.attempt factory host.files (host.requests factory.id)).engine? noted
  rw [merged] at prepared
  unfold Provider.engine lending
  simp only [missing]
  rw [show (Provider.mk bootstrap (.perContext factory held)).purge host = _ from
    purge_lending bootstrap factory held host]
  simp only [prepared]
  cases bootstrap.attempt factory host.files (host.requests factory.id) with
  | failed fault half => exact ⟨more, by simp [Attempt.answer, Except.map, entries, lending]⟩
  | made name engine =>
      refine ⟨more ++ [.reported (.contextEngineCreated (context.name.getD ""))], ?_⟩
      simp [Attempt.answer, Except.map, entries, lending, Host.withMaking_report, Provider.held]

/-- All that can become of a request for an engine: the engine that the context has, or where it has
none, an attempt that fails or succeeds. -/
inductive Request (context : RenderContext) (host : Host ε) :
    Provider ε → Except ViewError EngineHandle → Provider ε → Host ε → Prop where
  | kept (provider : Provider ε) (engine : EngineHandle)
      (own : provider.engineOf? context.id = some engine) :
      Request context host provider (.ok engine) provider host
  | failed (bootstrap : Bootstrap) (factory : Factory ε) (held : List Held) (fault : ViewError)
      (half : Option ε) (noted : List Entry) (absent : Provider.kept held context.id = none)
      (attempted : bootstrap.attempt factory host.files (host.requests factory.id) =
        .failed fault half) :
      Request context host (lending bootstrap factory held) (.error fault)
        (lending bootstrap factory (live host held)) (host.withMaking factory.id half noted)
  | made (bootstrap : Bootstrap) (factory : Factory ε) (held : List Held) (name : String)
      (engine : ε) (noted : List Entry) (absent : Provider.kept held context.id = none)
      (attempted : bootstrap.attempt factory host.files (host.requests factory.id) =
        .made name engine) :
      Request context host (lending bootstrap factory held) (.ok ⟨host.engines.length, name⟩)
        (lending bootstrap factory (live host held ++
          [⟨context.id, ⟨host.engines.length, name⟩, context.lease, context.leased⟩]))
        (host.withMaking factory.id (some engine) noted)

theorem engine_request (provider : Provider ε) (context : RenderContext) (host : Host ε) :
    Request context host provider (provider.engine context host).1
      (provider.engine context host).2.1 (provider.engine context host).2.2 := by
  obtain ⟨bootstrap, mode⟩ := provider
  cases mode with
  | shared own => exact .kept ⟨bootstrap, .shared own⟩ own rfl
  | perContext factory held =>
      cases found : kept held context.id with
      | some engine =>
          have served := engine_kept bootstrap factory held context host engine found
          unfold lending at served
          rw [served]
          exact .kept ⟨bootstrap, .perContext factory held⟩ engine found
      | none =>
          obtain ⟨noted, served⟩ := engine_absent bootstrap factory held context host found
          unfold lending at served
          rw [served]
          cases attempted : bootstrap.attempt factory host.files (host.requests factory.id) with
          | failed fault half =>
              dsimp only [Attempt.answer, Except.map, entries]
              rw [List.append_nil]
              exact .failed bootstrap factory held fault half noted found attempted
          | made name engine =>
              exact .made bootstrap factory held name engine noted found attempted

/-! ### What the entries keep -/

/-- Entries over so many contexts and engines: none is of another context or engine, no context has
two entries, and no engine is kept for two contexts. -/
structure Owned (held : List Held) (contexts engines : Nat) : Prop where
  entered : ∀ entry ∈ held, entry.context < contexts
  made : ∀ entry ∈ held, entry.engine.id < engines
  single : (held.map Held.context).Nodup
  separate : (held.map (fun entry => entry.engine.id)).Nodup

namespace Owned

theorem nil (contexts engines : Nat) : Owned [] contexts engines where
  entered := by simp
  made := by simp
  single := by simp
  separate := by simp

theorem mono {held : List Held} {contexts engines moreContexts moreEngines : Nat}
    (owned : Owned held contexts engines) (contextsGrow : contexts ≤ moreContexts)
    (enginesGrow : engines ≤ moreEngines) : Owned held moreContexts moreEngines where
  entered entry member := Nat.lt_of_lt_of_le (owned.entered entry member) contextsGrow
  made entry member := Nat.lt_of_lt_of_le (owned.made entry member) enginesGrow
  single := owned.single
  separate := owned.separate

theorem filter {held : List Held} {contexts engines : Nat} (owned : Owned held contexts engines)
    (keep : Held → Bool) : Owned (held.filter keep) contexts engines where
  entered entry member := owned.entered entry (List.mem_filter.mp member).1
  made entry member := owned.made entry (List.mem_filter.mp member).1
  single := owned.single.sublist (List.filter_sublist.map _)
  separate := owned.separate.sublist (List.filter_sublist.map _)

theorem append {ε : Type} {held : List Held} {contexts engines : Nat}
    (owned : Owned held contexts engines) (context : RenderContext) (inside : context.id < contexts)
    (absent : kept held context.id = none) (attempt : Attempt ε) :
    Owned (held ++ entries context (attempt.answer.map (EngineHandle.mk engines))) contexts
      (engines + attempt.engine?.toList.length) := by
  cases attempt with
  | failed fault half =>
      have unchanged : held ++ entries context
          ((Attempt.failed fault half).answer.map (EngineHandle.mk engines)) = held :=
        List.append_nil held
      rw [unchanged]
      exact owned.mono (Nat.le_refl contexts) (Nat.le_add_right _ _)
  | made name engine =>
      have others := (kept_eq_none_iff held context.id).mp absent
      have larger : engines < engines + (Attempt.made name engine).engine?.toList.length :=
        Nat.lt_succ_self engines
      have extended : held ++ entries context
          ((Attempt.made name engine).answer.map (EngineHandle.mk engines)) =
            held ++ [⟨context.id, ⟨engines, name⟩, context.lease, context.leased⟩] := rfl
      rw [extended]
      refine ⟨?_, ?_, ?_, ?_⟩
      · intro entry member
        rcases List.mem_append.mp member with before | last
        · exact owned.entered entry before
        · rw [List.mem_singleton.mp last]
          exact inside
      · intro entry member
        rcases List.mem_append.mp member with before | last
        · exact Nat.lt_trans (owned.made entry before) larger
        · rw [List.mem_singleton.mp last]
          exact larger
      · rw [List.map_append, List.map_singleton, List.nodup_append_comm, List.singleton_append,
          List.nodup_cons]
        refine ⟨?_, owned.single⟩
        intro member
        obtain ⟨entry, at_, same⟩ := List.mem_map.mp member
        exact others entry at_ same
      · rw [List.map_append, List.map_singleton, List.nodup_append_comm, List.singleton_append,
          List.nodup_cons]
        refine ⟨?_, owned.separate⟩
        intro member
        obtain ⟨entry, at_, same⟩ := List.mem_map.mp member
        have below := owned.made entry at_
        have equal : entry.engine.id = engines := same
        omega

end Owned

end Provider

end Stencil
