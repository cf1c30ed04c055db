import Stencil.Engine.Recorder
import Stencil.Proofs.View.Boots

/-!
No view uses an engine that is not completely bootstrapped for it. Over every run, each engine that a
view has, answers with or calls was booted for it by an earlier turn, or by the same turn before any
call; an engine that a factory made gets its one pass when it is made.
-/

namespace Stencil

namespace Site

variable {ε : Type} [ScriptEngine ε] {site : Site (Logged ε)}

theorem Orderly.turn_deed (orderly : site.Orderly) (operation : Operation ε) :
    Deed (Machine.turn step site operation).before (Machine.turn step site operation).after
      (Machine.turn step site operation).operation (Machine.turn step site operation).outcome :=
  orderly.deed operation

/-- A site is orderly, and every engine that a view has was booted for it. -/
structure Accounted (history : List (Turn (Site (Logged ε)) (Operation ε) Outcome))
    (site : Site (Logged ε)) : Prop where
  orderly : site.Orderly
  booted : ∀ number bootstrap engine, site.Serves number bootstrap engine →
    ∃ boot ∈ history, Boots boot number bootstrap engine.id

omit [ScriptEngine ε] in
theorem accounted_start (host : Host (Logged ε)) : Accounted [] (Site.mk host []) where
  orderly := ⟨by simp [view?], by simp [view?]⟩
  booted := by simp [Serves, view?]

theorem Accounted.step (history : List (Turn (Site (Logged ε)) (Operation ε) Outcome))
    (site : Site (Logged ε)) (operation : Operation ε) (accounted : Accounted history site) :
    Accounted (history ++ [Machine.turn Site.step site operation]) (site.step operation).2 where
  orderly := (accounted.orderly.turn_deed operation).orderly accounted.orderly
  booted := by
    intro number bootstrap engine served
    rcases (accounted.orderly.turn_deed operation).serves number bootstrap engine served
      with before | ⟨_, boots⟩
    · obtain ⟨boot, member, boots⟩ := accounted.booted number bootstrap engine before
      exact ⟨boot, List.mem_append_left _ member, boots⟩
    · exact ⟨_, List.mem_append_right _ (List.mem_singleton.mpr rfl), boots⟩

theorem accounted_finish (host : Host (Logged ε)) (operations : List (Operation ε)) :
    Accounted ((Site.mk host []).turns operations) ((Site.mk host []).finish operations) :=
  Machine.turns_invariant Site.step Accounted Accounted.step operations [] (Site.mk host [])
    (accounted_start host)

theorem accounted_turn (host : Host (Logged ε)) (operations : List (Operation ε))
    (past future : List (Turn (Site (Logged ε)) (Operation ε) Outcome))
    (turn : Turn (Site (Logged ε)) (Operation ε) Outcome)
    (split : (Site.mk host []).turns operations = past ++ turn :: future) :
    Accounted past turn.before ∧ turn = Machine.turn Site.step turn.before turn.operation ∧
      Accounted (past ++ [turn]) turn.after ∧
      ∃ later, future = turn.after.turns later ∧
        (Site.mk host []).finish operations = turn.after.finish later := by
  obtain ⟨before, operation, after, operationsEq, pastEq, turnEq, futureEq⟩ :=
    Machine.turns_split Site.step (Site.mk host []) operations past turn future split
  have accounted := accounted_finish host before
  have historyEq : past = (Site.mk host []).turns before := pastEq
  rw [← historyEq] at accounted
  rw [turnEq]
  refine ⟨accounted, rfl, accounted.step past _ operation, after, ?_, ?_⟩
  · rw [futureEq, turnEq]
    rfl
  · rw [operationsEq]
    unfold finish Machine.finish
    rw [List.foldl_append]
    rfl

/-- A view that has not got an engine and will not get it. -/
structure Barred (number id : Nat) (site : Site (Logged ε)) : Prop where
  orderly : site.Orderly
  there : id < site.host.engines.length
  built : number < site.views.length
  unserved : ∀ bootstrap engine, site.Serves number bootstrap engine → engine.id ≠ id

theorem Barred.not_boots {number id : Nat} (barred : Barred number id site)
    (operation : Operation ε) (bootstrap : Bootstrap) :
    ¬ Boots (Machine.turn step site operation) number bootstrap id := by
  intro boots
  rcases boots.purpose with ⟨_, makes⟩ | ⟨answered, _⟩
  · exact Nat.not_lt_of_le makes.1 barred.there
  · exact Nat.ne_of_lt barred.built (number_of_built operation number answered)

theorem Barred.step {number id : Nat} (barred : Barred number id site) (operation : Operation ε) :
    Barred number id (site.step operation).2 where
  orderly := (barred.orderly.turn_deed operation).orderly barred.orderly
  there := Nat.lt_of_lt_of_le barred.there (barred.orderly.turn_deed operation).grows.1
  built := Nat.lt_of_lt_of_le barred.built (barred.orderly.turn_deed operation).views_le
  unserved := by
    intro bootstrap engine served same
    rcases (barred.orderly.turn_deed operation).serves number bootstrap engine served
      with before | ⟨_, boots⟩
    · exact barred.unserved bootstrap engine before same
    · rw [same] at boots
      exact barred.not_boots operation bootstrap boots

theorem Barred.turns {number id : Nat} (barred : Barred number id site)
    (operations : List (Operation ε)) (turn : Turn (Site (Logged ε)) (Operation ε) Outcome)
    (member : turn ∈ site.turns operations) :
    (∀ bootstrap engine, turn.after.Serves number bootstrap engine → engine.id ≠ id) ∧
      (turn.operation.view? = some number →
        (∀ engine, turn.outcome.engine? = some engine → engine.id ≠ id) ∧
          ∀ exchange ∈ received turn id, exchange.isCall = false) := by
  induction operations generalizing site with
  | nil => cases member
  | cons operation rest ih =>
      rcases List.mem_cons.mp member with now | later
      · rw [now]
        refine ⟨(barred.step operation).unserved, fun on => ⟨?_, ?_⟩⟩
        · intro engine answered same
          obtain ⟨other, view, about, present, had | ⟨_, boots⟩⟩ :=
            (barred.orderly.turn_deed operation).returned engine answered
          · rw [on] at about
            rw [← Option.some.inj about] at present
            exact barred.unserved view.bootstrap engine ⟨view, present, rfl, had⟩ same
          · rw [on] at about
            rw [← Option.some.inj about, same] at boots
            exact barred.not_boots operation view.bootstrap boots
        · intro exchange given
          cases calls : exchange.isCall with
          | false => rfl
          | true =>
              obtain ⟨other, view, about, present, ⟨engine, had, same⟩ | ⟨_, boots⟩⟩ :=
                (barred.orderly.turn_deed operation).called id exchange given calls
              · rw [on] at about
                rw [← Option.some.inj about] at present
                exact absurd same (barred.unserved view.bootstrap engine ⟨view, present, rfl, had⟩)
              · rw [on] at about
                rw [← Option.some.inj about] at boots
                exact absurd boots (barred.not_boots operation view.bootstrap)
      · exact ih (barred.step operation) later

theorem Orderly.log_finish (orderly : site.Orderly) (operations : List (Operation ε)) (id : Nat) :
    logAt (site.finish operations).host.engines id = logAt site.host.engines id ++
      (site.turns operations).flatMap (fun turn => received turn id) := by
  induction operations generalizing site with
  | nil => exact (List.append_nil _).symm
  | cons operation rest ih =>
      have deed := orderly.turn_deed operation
      have later := ih (deed.orderly orderly)
      have now := deed.grows.2 id
      calc logAt (site.finish (operation :: rest)).host.engines id
          = logAt (site.step operation).2.host.engines id ++
              ((site.step operation).2.turns rest).flatMap (fun turn => received turn id) := later
        _ = logAt site.host.engines id ++ received (Machine.turn Site.step site operation) id ++
              ((site.step operation).2.turns rest).flatMap (fun turn => received turn id) :=
            congrArg (· ++ _) now
        _ = logAt site.host.engines id ++
              (site.turns (operation :: rest)).flatMap (fun turn => received turn id) :=
            List.append_assoc _ _ _

theorem Orderly.evaluated_later (orderly : site.Orderly) (operations : List (Operation ε)) (id : Nat)
    (there : id < site.host.engines.length)
    (turn : Turn (Site (Logged ε)) (Operation ε) Outcome) (member : turn ∈ site.turns operations)
    (exchange : Exchange) (given : exchange ∈ received turn id)
    (script : exchange.isCall = false) : Supplies turn id := by
  induction operations generalizing site with
  | nil => cases member
  | cons operation rest ih =>
      have deed := orderly.turn_deed operation
      rcases List.mem_cons.mp member with now | later
      · rw [now] at given ⊢
        rcases deed.evaluated id exchange given script with ⟨new, _⟩ | supplied
        · exact absurd there (Nat.not_lt_of_le new)
        · exact supplied
      · exact ih (deed.orderly orderly) (Nat.lt_of_lt_of_le there deed.grows.1) later

/-- Where the scripts of a view did not all run into an engine it made, it never uses the engine. -/
theorem barred_of_failed {number id : Nat} (orderly : site.Orderly) (operation : Operation ε)
    (view : View (Logged ε)) (present : site.view? number = some view)
    (makes : Makes (Machine.turn Site.step site operation) id)
    (failed : ¬ Boots (Machine.turn Site.step site operation) number view.bootstrap id) :
    Barred number id (site.step operation).2 where
  orderly := (orderly.turn_deed operation).orderly orderly
  there := makes.2
  built := Nat.lt_of_lt_of_le (List.getElem?_eq_some_iff.mp present).1
    (orderly.turn_deed operation).views_le
  unserved := by
    intro bootstrap engine served same
    have ⟨last, found, scripts, _⟩ := served
    have kept := (orderly.turn_deed operation).scripts_kept number view last present found
    rcases (orderly.turn_deed operation).serves number bootstrap engine served
      with ⟨old, before, _, had⟩ | ⟨_, boots⟩
    · have older := orderly.entered number old before engine had
      rw [same] at older
      exact Nat.not_lt_of_le makes.1 older
    · rw [same, ← scripts, kept] at boots
      exact failed boots

theorem unused_of_failed {number id : Nat} (orderly : site.Orderly) (operation : Operation ε)
    (view : View (Logged ε)) (on : operation.view? = some number)
    (present : site.view? number = some view)
    (makes : Makes (Machine.turn Site.step site operation) id)
    (failed : ¬ Boots (Machine.turn Site.step site operation) number view.bootstrap id) :
    (∀ engine, (site.step operation).1.engine? = some engine → engine.id ≠ id) ∧
      ∀ exchange ∈ received (Machine.turn Site.step site operation) id, exchange.isCall = false := by
  -- Whatever view the turn is about, it is this one, and it had no engine of this number before.
  have absent : ∀ other (own : View (Logged ε)), operation.view? = some other →
      site.view? other = some own →
      (∀ engine ∈ own.provider.engines, engine.id ≠ id) ∧
        ¬ Boots (Machine.turn Site.step site operation) other own.bootstrap id := by
    intro other own about there
    rw [on] at about
    rw [← Option.some.inj about, present] at there
    rw [← Option.some.inj about, ← Option.some.inj there]
    refine ⟨?_, failed⟩
    intro engine had same
    have older := orderly.entered number view present engine had
    rw [same] at older
    exact Nat.not_lt_of_le makes.1 older
  refine ⟨?_, ?_⟩
  · intro engine answered same
    obtain ⟨other, own, about, there, had | ⟨_, boots⟩⟩ :=
      (orderly.turn_deed operation).returned engine answered
    · exact (absent other own about there).1 engine had same
    · rw [same] at boots
      exact (absent other own about there).2 boots
  · intro exchange given
    cases calls : exchange.isCall with
    | false => rfl
    | true =>
        obtain ⟨other, own, about, there, ⟨engine, had, same⟩ | ⟨_, boots⟩⟩ :=
          (orderly.turn_deed operation).called id exchange given calls
        · exact absurd same ((absent other own about there).1 engine had)
        · exact absurd boots (absent other own about there).2

/-- Over every run of a site. A view calls an engine, answers with it or has it only after a turn that
ran all scripts of the view into it, and a call of the same turn comes after them. A build that fails
leaves no view, and an engine that a view made without running all scripts into it is never had,
answered or called by that view. An engine that a factory made is given the scripts once, when it is
made, and then only calls, unless a build is given the engine itself. -/
theorem bootstrapped (host : Host (Logged ε)) (operations : List (Operation ε)) :
    (∀ past turn future, (Site.mk host []).turns operations = past ++ turn :: future →
      (∀ id, ∀ exchange ∈ received turn id, exchange.isCall = true →
        ∃ number view, turn.operation.view? = some number ∧
          turn.before.view? number = some view ∧
          ∃ boot ∈ past ++ [turn], Boots boot number view.bootstrap id) ∧
      (∀ engine, turn.outcome.engine? = some engine →
        ∃ number view, turn.operation.view? = some number ∧
          turn.before.view? number = some view ∧
          ∃ boot ∈ past ++ [turn], Boots boot number view.bootstrap engine.id) ∧
      ∀ number bootstrap engine, turn.after.Serves number bootstrap engine →
        ∃ boot ∈ past ++ [turn], Boots boot number bootstrap engine.id) ∧
    (∀ past failed future, (Site.mk host []).turns operations = past ++ failed :: future →
      (∀ fault, failed.outcome = .built (.error fault) →
        failed.after.views = failed.before.views) ∧
      ∀ number view id, failed.operation.view? = some number →
        failed.before.view? number = some view → Makes failed id →
        ¬ Boots failed number view.bootstrap id →
        ∀ later ∈ failed :: future,
          (∀ bootstrap engine, later.after.Serves number bootstrap engine → engine.id ≠ id) ∧
          (later.operation.view? = some number →
            (∀ engine, later.outcome.engine? = some engine → engine.id ≠ id) ∧
              ∀ exchange ∈ received later id, exchange.isCall = false)) ∧
    ∀ past made future id, (Site.mk host []).turns operations = past ++ made :: future →
      Makes made id →
      (∃ bootstrap block calls answer, Wants made bootstrap ∧
        received made id = block ++ calls ∧
        Bootstrap.Ran bootstrap made.before.host.files bootstrap.scripts block answer ∧
        (∀ exchange ∈ calls, exchange.isCall = true) ∧ (calls ≠ [] → answer = .ok ())) ∧
      (∀ later ∈ future, ∀ exchange ∈ received later id, exchange.isCall = false →
        Supplies later id) ∧
      logAt ((Site.mk host []).finish operations).host.engines id =
        (made :: future).flatMap (fun turn => received turn id) := by
  refine ⟨?_, ?_, ?_⟩
  · intro past turn future split
    obtain ⟨accounted, turnEq, after, _⟩ := accounted_turn host operations past future turn split
    have deed := accounted.orderly.turn_deed turn.operation
    rw [← turnEq] at deed
    have earlier : ∀ number view engine, turn.before.view? number = some view →
        engine ∈ view.provider.engines →
        ∃ boot ∈ past ++ [turn], Boots boot number view.bootstrap engine.id := by
      intro number view engine present had
      obtain ⟨boot, member, boots⟩ :=
        accounted.booted number view.bootstrap engine ⟨view, present, rfl, had⟩
      exact ⟨boot, List.mem_append_left _ member, boots⟩
    have now : turn ∈ past ++ [turn] := List.mem_append_right _ (List.mem_singleton.mpr rfl)
    refine ⟨?_, ?_, after.booted⟩
    · intro id exchange given calls
      obtain ⟨number, view, on, present, ⟨engine, had, same⟩ | ⟨_, boots⟩⟩ :=
        deed.called id exchange given calls
      · rw [← same]
        exact ⟨number, view, on, present, earlier number view engine present had⟩
      · exact ⟨number, view, on, present, turn, now, boots⟩
    · intro engine answered
      obtain ⟨number, view, on, present, had | ⟨_, boots⟩⟩ := deed.returned engine answered
      · exact ⟨number, view, on, present, earlier number view engine present had⟩
      · exact ⟨number, view, on, present, turn, now, boots⟩
  · intro past failed future split
    obtain ⟨accounted, turnEq, after, later, futureEq, _⟩ :=
      accounted_turn host operations past future failed split
    rw [futureEq]
    refine ⟨?_, ?_⟩
    · intro fault answered
      rw [turnEq] at answered ⊢
      exact views_of_unbuilt failed.operation fault answered
    · intro number view id on present makes unbooted turn member
      rw [turnEq] at makes unbooted
      have barred := barred_of_failed accounted.orderly failed.operation view present makes unbooted
      rcases List.mem_cons.mp member with now | then_
      · rw [now, turnEq]
        exact ⟨barred.unserved, fun _ => unused_of_failed accounted.orderly failed.operation view on
          present makes unbooted⟩
      · rw [turnEq] at then_
        exact barred.turns later turn then_
  · intro past made future id split makes
    obtain ⟨accounted, turnEq, after, later, futureEq, finishEq⟩ :=
      accounted_turn host operations past future made split
    have deed := accounted.orderly.turn_deed made.operation
    rw [← turnEq] at deed
    refine ⟨deed.pass id makes, ?_, ?_⟩
    · intro turn member exchange given script
      rw [futureEq] at member
      exact after.orderly.evaluated_later later id makes.2 turn member exchange given script
    · rw [finishEq, after.orderly.log_finish later id, deed.grows.2 id,
        logAt_eq_nil made.before.host.engines id makes.1, List.nil_append, futureEq,
        List.flatMap_cons]

def recorders : Environment Recorder :=
  ⟨.memory [("t", [104, 105]), ("a.js", [49])],
    Registry.ofFactories [Recorder.factory 0 "recording" [] ⟨["render"], [], false⟩ none],
    [{ engineName := some "recording", scripts := some ["a.js"], renderFunction := some "render",
       shared := some false }]⟩

/-- A view is built, and one context renders twice. -/
def twoRenders : List (Operation Recorder) :=
  [.build recorders { url := some "t" }, .enter none, .renderText 0 (.new 0 none) [],
    .renderText 0 (.new 0 none) []]

theorem bootstrapped_two_renders :
    (logAt ((Site.mk { files := ⟨[], []⟩ } []).finish twoRenders).host.engines 0).map
        Exchange.isCall = [false, true, true] ∧
      ∃ boot ∈ (Site.mk { files := ⟨[], []⟩ } []).turns twoRenders,
        Boots boot 0 ⟨["a.js"], recorders.loader, .utf8⟩ 0 := by
  refine ⟨by decide +kernel, ?_⟩
  exact ((bootstrapped { files := ⟨[], []⟩ } twoRenders).1 [_, _, _] _ [] rfl).2.2 0 _
    ⟨0, "recording"⟩ ⟨_, rfl, rfl, List.mem_singleton.mpr rfl⟩

/-- Views with the same scripts, that are told their engine. -/
def equipped : Environment Recorder :=
  ⟨recorders.loader, {}, [{ scripts := some ["a.js"], renderFunction := some "render" }]⟩

/-- The engine of a context is asked for, and another view is built with it. -/
def handedOn : List (Operation Recorder) :=
  [.build recorders { url := some "t" }, .enter none, .engine 0 (.new 0 none),
    .build equipped { url := some "t", settings := { engine := some ⟨0, "recording"⟩ } }]

/-- A factory made the engine, and it is given the script twice. -/
theorem second_pass :
    ∃ past made future, (Site.mk { files := ⟨[], []⟩ } []).turns handedOn = past ++ made :: future ∧
      Makes made 0 ∧
      logAt ((Site.mk { files := ⟨[], []⟩ } []).finish handedOn).host.engines 0 =
        [.evaluated "1" (some "a.js") (.ok ()), .evaluated "1" (some "a.js") (.ok ())] :=
  ⟨[_, _], _, [_], rfl, ⟨by decide +kernel, by decide +kernel⟩, rfl⟩

end Site

end Stencil
