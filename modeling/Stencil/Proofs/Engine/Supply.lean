import Stencil.Proofs.Engine.History

/-!
Where engines that remember come from. `Gain` compares the logs of a host before and after something
was done, and `Provider.Supply` lists all that can become of a request for an engine: a kept engine,
a new one with the scripts run into it, a new one that is spoilt, or none.
-/

namespace Stencil

variable {ε : Type}

/-- The log of the engine of a number. -/
def logAt (engines : List (Logged ε)) (id : Nat) : List Exchange :=
  (engines[id]?.map Logged.log).getD []

/-- The commands that an engine was given between two states of a host. -/
def gained (before after : List (Logged ε)) (id : Nat) : List Exchange :=
  (logAt after id).drop (logAt before id).length

theorem logAt_eq_nil (engines : List (Logged ε)) (id : Nat) (outside : engines.length ≤ id) :
    logAt engines id = [] := by
  unfold logAt
  rw [List.getElem?_eq_none outside]
  rfl

theorem gained_self (engines : List (Logged ε)) (id : Nat) : gained engines engines id = [] :=
  List.drop_length

/-- One engine was given commands, and no other. -/
structure Gain (before after : List (Logged ε)) (id : Nat) (news : List Exchange) : Prop where
  own : logAt after id = logAt before id ++ news
  others : ∀ other, other ≠ id → logAt after other = logAt before other

namespace Gain

theorem refl (engines : List (Logged ε)) (id : Nat) : Gain engines engines id [] where
  own := (List.append_nil _).symm
  others := fun _ _ => rfl

theorem trans {first second third : List (Logged ε)} {id : Nat} {news more : List Exchange}
    (gain : Gain first second id news) (later : Gain second third id more) :
    Gain first third id (news ++ more) where
  own := by rw [later.own, gain.own, List.append_assoc]
  others := fun other different => by rw [later.others other different, gain.others other different]

theorem gained {before after : List (Logged ε)} {id : Nat} {news : List Exchange}
    (gain : Gain before after id news) : Stencil.gained before after id = news := by
  unfold Stencil.gained
  rw [gain.own, List.drop_left]

theorem of_mem {before after : List (Logged ε)} {id : Nat} {news : List Exchange}
    (gain : Gain before after id news) {other : Nat} {exchange : Exchange}
    (member : exchange ∈ Stencil.gained before after other) : other = id ∧ exchange ∈ news := by
  by_cases same : other = id
  · subst same
    rw [gain.gained] at member
    exact ⟨rfl, member⟩
  · unfold Stencil.gained at member
    rw [gain.others other same, List.drop_length] at member
    cases member

theorem append_gained {before after : List (Logged ε)} {id : Nat} {news : List Exchange}
    (gain : Gain before after id news) (other : Nat) :
    logAt after other = logAt before other ++ Stencil.gained before after other := by
  by_cases same : other = id
  · subst same
    rw [gain.gained, gain.own]
  · unfold Stencil.gained
    rw [gain.others other same, List.drop_length, List.append_nil]

theorem set (engines : List (Logged ε)) (id : Nat) (state next : Logged ε)
    (found : engines[id]? = some state) (news : List Exchange)
    (added : next.log = state.log ++ news) : Gain engines (engines.set id next) id news where
  own := by
    unfold logAt
    rw [List.getElem?_set_self (List.getElem?_eq_some_iff.mp found).1, found]
    exact added
  others := by
    intro other different
    unfold logAt
    rw [List.getElem?_set_ne (Ne.symm different)]

theorem append (engines : List (Logged ε)) (state : Logged ε) :
    Gain engines (engines ++ [state]) engines.length state.log where
  own := by simp [logAt]
  others := by
    intro other different
    unfold logAt
    rcases Nat.lt_or_gt_of_ne different with before | beyond
    · rw [List.getElem?_append_left before]
    · rw [List.getElem?_eq_none (Nat.le_of_lt beyond), List.getElem?_eq_none (by simp; omega)]

end Gain

namespace Provider

def engines (provider : Provider ε) : List EngineHandle :=
  match provider.mode with
  | .shared engine => [engine]
  | .perContext _ held => held.map Held.engine

/-- Engines that are made come without a log. -/
def Fresh (provider : Provider (Logged ε)) : Prop :=
  match provider.mode with
  | .shared _ => True
  | .perContext factory _ => factory.Fresh

theorem mem_engines_of_live {host : Host ε} {held : List Held} {engine : EngineHandle}
    (member : engine ∈ (live host held).map Held.engine) : engine ∈ held.map Held.engine := by
  obtain ⟨entry, at_, same⟩ := List.mem_map.mp member
  rw [← same]
  exact List.mem_map_of_mem (List.mem_filter.mp at_).1

theorem mem_engines_of_added {host : Host ε} {held : List Held} {added : Held}
    {engine : EngineHandle} (member : engine ∈ (live host held ++ [added]).map Held.engine) :
    engine ∈ held.map Held.engine ∨ engine = added.engine := by
  rw [List.map_append, List.mem_append] at member
  rcases member with before | last
  · exact Or.inl (mem_engines_of_live before)
  · exact Or.inr (List.mem_singleton.mp last)

theorem mem_engines_of_engineOf? (provider : Provider ε) {context : Nat} {engine : EngineHandle}
    (own : provider.engineOf? context = some engine) : engine ∈ provider.engines := by
  obtain ⟨bootstrap, mode⟩ := provider
  cases mode with
  | shared shared =>
      rw [← Option.some.inj own]
      exact List.mem_singleton.mpr rfl
  | perContext factory held => exact List.mem_map_of_mem (mem_of_kept held context engine own)

theorem mem_engines_of_release (provider : Provider ε) (context : RenderContext)
    (engine : EngineHandle) (member : engine ∈ (provider.release context).2.engines) :
    engine ∈ provider.engines := by
  obtain ⟨bootstrap, mode⟩ := provider
  cases mode with
  | shared own => exact member
  | perContext factory held =>
      obtain ⟨entry, at_, same⟩ := List.mem_map.mp member
      rw [← same]
      exact List.mem_map_of_mem (List.mem_filter.mp at_).1

theorem mem_engines_of_purge (provider : Provider ε) (host : Host ε) (engine : EngineHandle)
    (member : engine ∈ (provider.purge host).2.1.engines) : engine ∈ provider.engines := by
  obtain ⟨bootstrap, mode⟩ := provider
  cases mode with
  | shared own => exact member
  | perContext factory held => exact mem_engines_of_live member

theorem purge_engines (provider : Provider ε) (host : Host ε) :
    (provider.purge host).2.2.engines = host.engines := by
  obtain ⟨bootstrap, mode⟩ := provider
  cases mode with
  | shared own => rfl
  | perContext factory held => exact reportReclaimed_engines _ _

theorem release_keeps (provider : Provider (Logged ε)) (context : RenderContext) :
    (provider.release context).2.bootstrap = provider.bootstrap ∧
      (provider.Fresh → (provider.release context).2.Fresh) := by
  obtain ⟨bootstrap, mode⟩ := provider
  cases mode with
  | shared own => exact ⟨rfl, id⟩
  | perContext factory held => exact ⟨rfl, id⟩

theorem purge_keeps (provider : Provider (Logged ε)) (host : Host (Logged ε)) :
    (provider.purge host).2.1.bootstrap = provider.bootstrap ∧
      (provider.Fresh → (provider.purge host).2.1.Fresh) := by
  obtain ⟨bootstrap, mode⟩ := provider
  cases mode with
  | shared own => exact ⟨rfl, id⟩
  | perContext factory held => exact ⟨rfl, id⟩

/-- All that can become of a request for an engine. -/
inductive Supply (provider after : Provider (Logged ε)) (host last : Host (Logged ε)) :
    Except ViewError EngineHandle → Prop where
  | kept (engine : EngineHandle) (member : engine ∈ provider.engines) (same : after = provider)
      (still : last = host) : Supply provider after host last (.ok engine)
  | made (engine : EngineHandle) (state : Logged ε) (newest : engine.id = host.engines.length)
      (ran : Bootstrap.Ran provider.bootstrap host.files provider.bootstrap.scripts state.log
        (.ok ()))
      (grown : last.engines = host.engines ++ [state])
      (entries : ∀ other ∈ after.engines, other ∈ provider.engines ∨ other = engine) :
      Supply provider after host last (.ok engine)
  | spoilt (fault : ViewError) (state : Logged ε)
      (ran : Bootstrap.Ran provider.bootstrap host.files provider.bootstrap.scripts state.log
        (.error fault))
      (grown : last.engines = host.engines ++ [state])
      (entries : ∀ other ∈ after.engines, other ∈ provider.engines) :
      Supply provider after host last (.error fault)
  | refused (fault : ViewError) (still : last.engines = host.engines)
      (entries : ∀ other ∈ after.engines, other ∈ provider.engines) :
      Supply provider after host last (.error fault)

variable [ScriptEngine ε]

theorem supply (provider : Provider (Logged ε)) (fresh : provider.Fresh) (context : RenderContext)
    (host : Host (Logged ε)) :
    Supply provider (provider.engine context host).2.1 host (provider.engine context host).2.2
      (provider.engine context host).1 := by
  have request := provider.engine_request context host
  rcases served : provider.engine context host with ⟨answer, after, last⟩
  rw [served] at request
  cases request with
  | kept _ engine own => exact .kept engine (mem_engines_of_engineOf? _ own) rfl rfl
  | failed bootstrap factory held fault half noted absent attempted =>
      have logged := bootstrap.attempt_logged factory fresh host.files (host.requests factory.id)
      rw [attempted] at logged
      cases half with
      | none => exact .refused fault (List.append_nil _) (fun _ member => mem_engines_of_live member)
      | some state =>
          exact .spoilt fault state (logged state rfl) rfl (fun _ member => mem_engines_of_live member)
  | made bootstrap factory held name state noted absent attempted =>
      have logged := bootstrap.attempt_logged factory fresh host.files (host.requests factory.id)
      rw [attempted] at logged
      exact .made ⟨host.engines.length, name⟩ state rfl (logged state rfl) rfl
        (fun _ member => mem_engines_of_added member)

theorem engine_keeps (provider : Provider (Logged ε)) (context : RenderContext)
    (host : Host (Logged ε)) :
    (provider.engine context host).2.1.bootstrap = provider.bootstrap ∧
      (provider.Fresh → (provider.engine context host).2.1.Fresh) := by
  have request := provider.engine_request context host
  rcases served : provider.engine context host with ⟨answer, after, last⟩
  rw [served] at request
  cases request <;> exact ⟨rfl, id⟩

end Provider

end Stencil
