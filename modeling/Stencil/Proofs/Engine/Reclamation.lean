import Stencil.Engine.Recorder
import Stencil.Proofs.Engine.Failure
import Stencil.Proofs.Engine.History

/-!
Where engines go. Every engine that ran all scripts became an entry, and an entry leaves in a
release that finds it, in a purge, or when another context makes an engine. `reclamation` balances
the engines on the host, judged by their logs, against what a run let go of.
-/

namespace Stencil

/-- The script that was run without an error. -/
def Exchange.script? : Exchange → Option String
  | .evaluated _ origin (.ok _) => origin
  | _ => none

namespace Bootstrap

/-- Every script was run, each in its place and without an error, and nothing else was done. -/
def Booted (bootstrap : Bootstrap) (log : List Exchange) : Prop :=
  log.map Exchange.script? = bootstrap.scripts.map some

instance (bootstrap : Bootstrap) (log : List Exchange) : Decidable (bootstrap.Booted log) :=
  inferInstanceAs (Decidable (_ = _))

theorem Ran.scripts_iff {bootstrap : Bootstrap} {files : FileSystem} {scripts : List String}
    {block : List Exchange} {answer : Except ViewError Unit}
    (ran : Ran bootstrap files scripts block answer) :
    block.map Exchange.script? = scripts.map some ↔ answer = .ok () := by
  induction ran with
  | done => simp
  | next location text rest block answer readable later ih =>
      rw [List.map_cons, List.map_cons, List.cons.injEq, ih]
      simp [Exchange.script?]
  | unread location rest fault missing => simp
  | failed location text rest cause readable => simp [Exchange.script?]

end Bootstrap

namespace Provider

variable {ε : Type}

/-! ### Counting entries -/

theorem length_live_add (host : Host ε) (held : List Held) :
    (live host held).length + held.countP (fun entry => !host.isLive entry.lease) =
      held.length := by
  have parts := List.length_eq_countP_add_countP (fun entry : Held => host.isLive entry.lease)
    (l := held)
  rw [live, ← List.countP_eq_length_filter]
  simpa using parts.symm

namespace Owned

variable {held : List Held} {contexts engines : Nat}

/-- As no context has two entries, entries can be counted by their contexts. -/
theorem countP_contexts (owned : Owned held contexts engines) (chosen : Nat → Bool) :
    held.countP (fun entry => chosen entry.context) =
      (List.range contexts).countP
        (fun context => chosen context && (kept held context).isSome) := by
  -- No context has two entries, so the entries and the contexts that have one can be paired.
  have listed : ((held.filter (fun entry => chosen entry.context)).map Held.context).Nodup :=
    owned.single.sublist (List.filter_sublist.map _)
  have ranged : ((List.range contexts).filter
      (fun context => chosen context && (kept held context).isSome)).Nodup :=
    List.nodup_range.filter _
  have same : List.Perm ((held.filter (fun entry => chosen entry.context)).map Held.context)
      ((List.range contexts).filter
        (fun context => chosen context && (kept held context).isSome)) := by
    rw [List.perm_ext_iff_of_nodup listed ranged]
    intro context
    rw [List.mem_map, List.mem_filter, List.mem_range, Bool.and_eq_true, ← any_eq_isSome_kept,
      List.any_eq_true]
    constructor
    · rintro ⟨entry, member, rfl⟩
      obtain ⟨here, wanted⟩ := List.mem_filter.mp member
      exact ⟨owned.entered entry here, wanted, entry, here, decide_eq_true rfl⟩
    · rintro ⟨_, wanted, entry, here, own⟩
      have own := of_decide_eq_true own
      refine ⟨entry, List.mem_filter.mpr ⟨here, ?_⟩, own⟩
      rw [own]
      exact wanted
  rw [List.countP_eq_length_filter, List.countP_eq_length_filter, ← same.length_eq,
    List.length_map]

theorem length_without (owned : Owned held contexts engines) (context : Nat) :
    (held.filter (fun entry => entry.context != context)).length +
      (if (kept held context).isSome then 1 else 0) = held.length := by
  have counted : held.countP (fun entry => entry.context == context) =
      if (kept held context).isSome then 1 else 0 := by
    have once : held.countP (fun entry => entry.context == context) =
        (held.map Held.context).count context := by
      rw [List.count, List.countP_map]
      rfl
    rw [once, List.Nodup.count owned.single, ← any_eq_isSome_kept]
    simp [List.mem_map]
  have parts := List.length_eq_countP_add_countP (fun entry : Held => entry.context == context)
    (l := held)
  rw [counted] at parts
  rw [← List.countP_eq_length_filter, parts, Nat.add_comm]
  simp only [bne, Bool.not_eq_true, Bool.decide_eq_false]

end Owned

namespace Session

/-! ### What a run lets go of -/

/-- What a count comes to over the turns of a run. -/
def total {α : Type} (count : α → Nat) : List α → Nat
  | [] => 0
  | turn :: rest => count turn + total count rest

theorem total_append_singleton {α : Type} (count : α → Nat) (past : List α) (turn : α) :
    total count (past ++ [turn]) = total count past + count turn := by
  induction past with
  | nil => exact Nat.add_comm (count turn) 0
  | cons first rest ih => rw [List.cons_append, total, total, ih, Nat.add_assoc]

/-- How many entries a purge told of. -/
def purged (turn : Turn (Session ε) Operation Outcome) : Nat :=
  match turn.outcome with
  | .purged count => count
  | _ => 0

/-- How many entries went while a context was given an engine. -/
def swept (turn : Turn (Session ε) Operation Outcome) : Nat :=
  match turn.operation with
  | .engine _ =>
      turn.before.provider.held.countP (fun entry => entry ∉ turn.after.provider.held)
  | _ => 0

/-- A release that found an engine. -/
def gaveBack (turn : Turn (Session ε) Operation Outcome) : Bool :=
  (freed? turn).any Prod.snd

/-- How many engines, from a number on, have run every script. -/
def readied (bootstrap : Bootstrap) (base : Nat) (host : Host (Logged ε)) : Nat :=
  (host.engines.drop base).countP (fun engine => bootstrap.Booted engine.log)

/-- Every engine that ran all scripts is an entry or was let go of. -/
structure Balanced (bootstrap : Bootstrap) (base : Nat)
    (history : List (Turn (Session (Logged ε)) Operation Outcome)) (session : Session (Logged ε)) :
    Prop where
  since : base ≤ session.host.engines.length
  balance : readied bootstrap base session.host =
    session.provider.held.length + history.countP gaveBack + total purged history +
      total swept history

theorem balanced_start (bootstrap : Bootstrap) (factory : Factory (Logged ε))
    (host : Host (Logged ε)) :
    Balanced bootstrap host.engines.length [] (start bootstrap factory host) where
  since := Nat.le_refl _
  balance := by
    unfold readied start
    rw [List.drop_length]
    rfl

theorem Balanced.turn {bootstrap : Bootstrap} {base : Nat}
    {history : List (Turn (Session (Logged ε)) Operation Outcome)} {session : Session (Logged ε)}
    (balanced : Balanced bootstrap base history session)
    (turn : Turn (Session (Logged ε)) Operation Outcome) (after : Session (Logged ε))
    (grows : session.host.engines.length ≤ after.host.engines.length)
    (change : readied bootstrap base after.host + session.provider.held.length =
      readied bootstrap base session.host + after.provider.held.length +
        (if gaveBack turn then 1 else 0) + purged turn + swept turn) :
    Balanced bootstrap base (history ++ [turn]) after where
  since := Nat.le_trans balanced.since grows
  balance := by
    have before := balanced.balance
    simp only [List.countP_append, List.countP_singleton, total_append_singleton]
    omega

/-- A turn that gives, releases and purges nothing leaves the balance as it is. -/
theorem Balanced.quiet {bootstrap : Bootstrap} {base : Nat}
    {history : List (Turn (Session (Logged ε)) Operation Outcome)} {session : Session (Logged ε)}
    (balanced : Balanced bootstrap base history session)
    (turn : Turn (Session (Logged ε)) Operation Outcome) (after : Session (Logged ε))
    (engines : after.host.engines = session.host.engines)
    (held : after.provider.held = session.provider.held) (kept : gaveBack turn = false)
    (told : purged turn = 0) (gone : swept turn = 0) :
    Balanced bootstrap base (history ++ [turn]) after := by
  refine balanced.turn turn after (Nat.le_of_eq (congrArg List.length engines).symm) ?_
  unfold readied
  rw [engines, held, kept, told, gone]
  simp

variable {bootstrap : Bootstrap} {session : Session (Logged ε)} {base : Nat}

theorem readied_withMaking (bootstrap : Bootstrap) (base : Nat) (host : Host (Logged ε))
    (since : base ≤ host.engines.length) (factory : Nat) (engine : Option (Logged ε))
    (noted : List Entry) :
    readied bootstrap base (host.withMaking factory engine noted) =
      readied bootstrap base host +
        engine.toList.countP (fun engine => bootstrap.Booted engine.log) := by
  unfold readied
  rw [Host.withMaking_engines, List.drop_append_of_le_length since, List.countP_append]

variable [ScriptEngine ε] {factory : Factory (Logged ε)}

/-- A context without an engine lets the entries of other contexts without handles go, and an entry
is added exactly if an engine ran every script. -/
theorem Sound.engine_missed (sound : Sound bootstrap factory session) (fresh : factory.Fresh)
    (since : base ≤ session.host.engines.length) (context : RenderContext)
    (absent : kept session.provider.held context.id = none) :
    ∃ added : List Held,
      (session.provider.engine context session.host).2.1.held =
        live session.host session.provider.held ++ added ∧
      (∀ entry ∈ added, entry.context = context.id) ∧
      (session.provider.engine context session.host).2.2.handles = session.host.handles ∧
      readied bootstrap base (session.provider.engine context session.host).2.2 =
        readied bootstrap base session.host + added.length := by
  obtain ⟨noted, served⟩ := sound.engine_absent context absent
  have logged := bootstrap.attempt_logged factory fresh session.host.files
    (session.host.requests factory.id)
  rw [served]
  refine ⟨_, rfl, ?_, rfl, ?_⟩
  · intro entry member
    cases attempted : bootstrap.attempt factory session.host.files
        (session.host.requests factory.id) with
    | failed fault half =>
        rw [attempted] at member
        cases member
    | made name engine =>
        rw [attempted] at member
        rw [List.mem_singleton.mp member]
  · rw [readied_withMaking bootstrap base session.host since]
    congr 1
    cases attempted : bootstrap.attempt factory session.host.files
        (session.host.requests factory.id) with
    | failed fault half =>
        rw [attempted] at logged
        cases half with
        | none => rfl
        | some engine =>
            have ended := (logged engine rfl).scripts_iff
            have unready : ¬ bootstrap.Booted engine.log := by
              unfold Bootstrap.Booted
              rw [ended]
              exact nofun
            simp [Attempt.engine?, Attempt.answer, Except.map, entries, unready]
    | made name engine =>
        rw [attempted] at logged
        have ready : bootstrap.Booted engine.log := (logged engine rfl).scripts_iff.mpr rfl
        simp [Attempt.engine?, Attempt.answer, Except.map, entries, ready]

/-- The entries that are gone after a miss are those of contexts without handles. -/
theorem Sound.swept_missed (sound : Sound bootstrap factory session) (fresh : factory.Fresh)
    (context : RenderContext) (absent : kept session.provider.held context.id = none) :
    session.provider.held.countP
        (fun entry => entry ∉ (session.provider.engine context session.host).2.1.held) =
      session.provider.held.countP (fun entry => !session.host.isLive entry.lease) := by
  obtain ⟨added, heldEq, own, _⟩ := sound.engine_missed fresh (Nat.le_refl _) context absent
  apply List.countP_congr
  intro entry member
  have other := (kept_eq_none_iff _ _).mp absent entry member
  rw [heldEq]
  simp only [decide_eq_true_eq, Bool.not_eq_true', live, List.mem_append, List.mem_filter, member,
    true_and, not_or, Bool.not_eq_true]
  constructor
  · exact fun gone => gone.1
  · exact fun dead => ⟨dead, fun new => other (own entry new)⟩

theorem Balanced.engine {history : List (Turn (Session (Logged ε)) Operation Outcome)}
    (balanced : Balanced bootstrap base history session)
    (sound : Sound bootstrap factory session) (fresh : factory.Fresh) (context : RenderContext) :
    Balanced bootstrap base
      (history ++ [⟨session, .engine context,
        .engine (session.provider.engine context session.host).1,
        ⟨(session.provider.engine context session.host).2.1,
          (session.provider.engine context session.host).2.2⟩⟩])
      ⟨(session.provider.engine context session.host).2.1,
        (session.provider.engine context session.host).2.2⟩ := by
  cases found : kept session.provider.held context.id with
  | some engine =>
      rw [sound.engine_kept context engine found]
      refine balanced.quiet _ _ rfl rfl rfl rfl ?_
      simp [swept]
  | none =>
      refine balanced.turn _ _ (sound.engine_engines_le context) ?_
      have gone := sound.swept_missed fresh context found
      obtain ⟨added, heldEq, _, _, count⟩ :=
        sound.engine_missed fresh balanced.since context found
      have parts := length_live_add session.host session.provider.held
      simp only [gaveBack, freed?, purged, swept, gone]
      rw [count, heldEq, List.length_append]
      simp only [Option.any_none, Bool.false_eq_true, ↓reduceIte]
      omega

theorem Balanced.step {history : List (Turn (Session (Logged ε)) Operation Outcome)}
    (balanced : Balanced bootstrap base history session)
    (sound : Sound bootstrap factory session) (fresh : factory.Fresh) (operation : Operation) :
    Balanced bootstrap base (history ++ [Machine.turn Session.step session operation])
      (session.step operation).2 := by
  have refused : Balanced bootstrap base
      (history ++ [⟨session, operation, .refused, session⟩]) session := by
    refine balanced.quiet _ _ rfl rfl ?_ rfl ?_
    · cases operation <;> rfl
    · cases operation <;> simp [swept]
  cases operation with
  | enter name => exact balanced.quiet _ _ rfl rfl rfl rfl rfl
  | clone context =>
      refine session.within_cases context _ (fun result => Balanced bootstrap base
        (history ++ [⟨session, .clone context, result.1, result.2⟩]) result.2) refused ?_
      exact fun _live => balanced.quiet _ _ rfl rfl rfl rfl rfl
  | drop context =>
      refine session.within_cases context _ (fun result => Balanced bootstrap base
        (history ++ [⟨session, .drop context, result.1, result.2⟩]) result.2) refused ?_
      exact fun _live => balanced.quiet _ _ rfl rfl rfl rfl rfl
  | engine context =>
      refine session.within_cases context _ (fun result => Balanced bootstrap base
        (history ++ [⟨session, .engine context, result.1, result.2⟩]) result.2) refused ?_
      exact fun _live => balanced.engine sound fresh context
  | release context =>
      refine session.within_cases context _ (fun result => Balanced bootstrap base
        (history ++ [⟨session, .release context, result.1, result.2⟩]) result.2) refused ?_
      intro _live
      refine balanced.turn _ _ (Nat.le_refl _) ?_
      have without := sound.owned.length_without context.id
      have answered : gaveBack ⟨session, .release context,
          .released (session.provider.release context).1,
          ⟨(session.provider.release context).2, session.host⟩⟩ =
            (kept session.provider.held context.id).isSome := by
        rw [sound.lends, release_lending]
        rfl
      rw [answered, sound.lends, release_lending, held_lending, held_lending]
      simp only [purged, swept]
      omega
  | purge =>
      refine balanced.turn _ _ ?_ ?_
      · exact sound.step_engines_le .purge
      · have parts := length_live_add session.host session.provider.held
        simp only [Machine.turn, Session.step, gaveBack, freed?, purged, swept]
        rw [sound.lends, purge_lending, held_lending, held_lending]
        unfold readied
        rw [reportReclaimed_engines]
        simp only [Option.any_none, Bool.false_eq_true, ↓reduceIte]
        omega
  | write files => exact balanced.quiet _ _ rfl rfl rfl rfl rfl

theorem balanced_finish (bootstrap : Bootstrap) (factory : Factory (Logged ε))
    (fresh : factory.Fresh) (host : Host (Logged ε)) (operations : List Operation) :
    Balanced bootstrap host.engines.length
      ((start bootstrap factory host).turns operations)
      ((start bootstrap factory host).finish operations) :=
  (Machine.turns_invariant Session.step
    (fun history session => Sound bootstrap factory session ∧
      Balanced bootstrap host.engines.length history session)
    (fun _history _session operation held =>
      ⟨held.1.step operation, held.2.step held.1 fresh operation⟩)
    operations [] (start bootstrap factory host)
    ⟨sound_start bootstrap factory host, balanced_start bootstrap factory host⟩).2

/-! ### Entries and contexts -/

omit [ScriptEngine ε] in
theorem Sound.count_eq (sound : Sound bootstrap factory session) :
    session.provider.count session.host =
      (List.range session.host.handles.length).countP (fun context =>
        session.host.isLive context && (kept session.provider.held context).isSome) := by
  rw [← sound.owned.countP_contexts, sound.lends, count_lending, held_lending]
  exact congrArg (fun kept => List.countP kept session.provider.held)
    (funext fun entry => congrArg session.host.isLive entry.leased)

omit [ScriptEngine ε] in
/-- A purge counts and removes the entries of contexts without handles, and touches nothing else. -/
theorem Sound.purge_exact (sound : Sound bootstrap factory session) :
    let cleared := session.provider.purge session.host
    cleared.1 = session.provider.held.countP (fun entry => !session.host.isLive entry.lease) ∧
      cleared.2.1.held =
        session.provider.held.filter (fun entry => session.host.isLive entry.lease) ∧
      cleared.2.1.count cleared.2.2 = session.provider.count session.host ∧
      cleared.2.2.engines = session.host.engines ∧
      ∀ context, session.host.isLive context = true →
        kept cleared.2.1.held context = kept session.provider.held context := by
  have parts := length_live_add session.host session.provider.held
  rw [sound.lends, purge_lending]
  simp only [held_lending, count_lending, reportReclaimed_engines]
  refine ⟨by omega, rfl, ?_, trivial, ?_⟩
  · rw [Host.isLive_congr _ session.host (reportReclaimed_handles _ _), live, List.countP_filter]
    simp
  · intro context alive
    exact kept_live session.host session.provider.held context alive

theorem Sound.live_missed (sound : Sound bootstrap factory session) (fresh : factory.Fresh)
    (context : RenderContext) (alive : session.host.isLive context.id = true)
    (absent : kept session.provider.held context.id = none) (entry : Held)
    (member : entry ∈ (session.provider.engine context session.host).2.1.held) :
    (session.provider.engine context session.host).2.2.isLive entry.lease = true := by
  obtain ⟨added, heldEq, own, handles, _⟩ :=
    sound.engine_missed fresh (Nat.le_refl _) context absent
  rw [Host.isLive_congr _ session.host handles]
  rw [heldEq, List.mem_append] at member
  rcases member with before | new
  · exact (List.mem_filter.mp before).2
  · rw [entry.leased, own entry new]
    exact alive

/-- Over every run: the count is that of contexts with a handle and an engine; a purge tells how
many entries have contexts without handles, removes exactly those, and changes neither the count nor
the engine of a context with a handle; after a context without an engine asked for one no entry of a
context without handles is left; and the engines that were made and ran every script are as many as
the entries held, the releases that found one, and the entries that went in purges or by the way. -/
theorem reclamation (bootstrap : Bootstrap) (factory : Factory ε) (host : Host (Logged ε))
    (operations : List Operation) (session : Session (Logged ε))
    (history : List (Turn (Session (Logged ε)) Operation Outcome))
    (reached : session = (start bootstrap (factory.map Logged.new) host).finish operations)
    (record : history = (start bootstrap (factory.map Logged.new) host).turns operations) :
    session.provider.count session.host =
      (List.range session.host.handles.length).countP (fun context =>
        session.host.isLive context && (kept session.provider.held context).isSome) ∧
    (let cleared := session.provider.purge session.host;
      cleared.1 = session.provider.held.countP (fun entry => !session.host.isLive entry.lease) ∧
        cleared.2.1.held =
          session.provider.held.filter (fun entry => session.host.isLive entry.lease) ∧
        cleared.2.1.count cleared.2.2 = session.provider.count session.host ∧
        cleared.2.2.engines = session.host.engines ∧
        ∀ context, session.host.isLive context = true →
          kept cleared.2.1.held context = kept session.provider.held context) ∧
    (∀ turn ∈ history, ∀ context, turn.operation = .engine context →
      turn.before.host.isLive context.id = true →
      kept turn.before.provider.held context.id = none →
      ∀ entry ∈ turn.after.provider.held, turn.after.host.isLive entry.lease = true) ∧
    readied bootstrap host.engines.length session.host =
      session.provider.held.length + history.countP gaveBack + total purged history +
        total swept history := by
  have fresh := factory.fresh_map
  have begun := sound_start bootstrap (factory.map Logged.new) host
  have sound : Sound bootstrap (factory.map Logged.new) session := by
    rw [reached]
    exact begun.finish operations
  refine ⟨sound.count_eq, sound.purge_exact, ?_, ?_⟩
  · intro turn member context asked alive absent entry held
    rw [record] at member
    obtain ⟨past, future, split⟩ := List.append_of_mem member
    obtain ⟨before, operation, _, _, _, turnEq, _⟩ :=
      Machine.turns_split Session.step _ operations past turn future split
    have earlier := begun.finish before
    subst turnEq
    have same : operation = .engine context := asked
    subst same
    have served : Session.step (Machine.finish Session.step
        (start bootstrap (factory.map Logged.new) host) before) (.engine context) = _ :=
      within_live _ context _ alive
    simp only [Machine.turn, served] at held ⊢
    exact earlier.live_missed fresh context alive absent entry held
  · rw [reached, record]
    exact (balanced_finish bootstrap (factory.map Logged.new) fresh host operations).balance

/-- Three contexts get engines, and each entry goes another way: in a release, by the way when the
third context asks, and in a purge. In between an engine cannot be set up. -/
def mixed : List Operation :=
  [.enter none, .enter none, .engine (.new 0 none), .engine (.new 1 none), .drop (.new 0 none),
    .enter none, .engine (.new 2 none), .release (.new 1 none), .write ⟨[], []⟩,
    .engine (.new 1 none), .drop (.new 2 none), .purge]

def mixedStart : Session (Logged Recorder) :=
  start ⟨["a.js"], .classpath ["/"], .utf8⟩
    ((Recorder.factory 0 "recording" [] {} none).map Logged.new)
    { files := ⟨[(["a.js"], .file [])], []⟩ }

theorem reclamation_mixed :
    readied ⟨["a.js"], .classpath ["/"], .utf8⟩ 0 (mixedStart.finish mixed).host =
        0 + 1 + 1 + 1 ∧
      ∃ turn ∈ mixedStart.turns mixed, swept turn = 1 ∧
        ∀ entry ∈ turn.after.provider.held, turn.after.host.isLive entry.lease = true := by
  have whole := reclamation ⟨["a.js"], .classpath ["/"], .utf8⟩
    (Recorder.factory 0 "recording" [] {} none) { files := ⟨[(["a.js"], .file [])], []⟩ } mixed _ _
    rfl rfl
  constructor
  · exact whole.2.2.2.trans (by decide +kernel)
  · have sweeping := List.mem_of_getElem? (l := mixedStart.turns mixed) (i := 6) rfl
    exact ⟨_, sweeping, by decide +kernel,
      whole.2.2.1 _ sweeping (.new 2 none) rfl (by decide +kernel) (by decide +kernel)⟩

end Session

end Provider

end Stencil
