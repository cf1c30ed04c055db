import Mathlib.Data.List.Basic
import Stencil.Engine.Recorder
import Stencil.Proofs.Engine.History

/-!
How far bootstrap scripts get. Some of the scripts run, in their order (`Bootstrap.Runs`), and the run
ends at what is left of them (`Bootstrap.Ends`): at nothing, or at a script that does not run. Those that
run are the longest part that can (`Runs.longest`), those and the one at the end are looked up
(`Runs.lookups`), and the scripts behind the end do not count (`load_overlooks`).
-/

namespace Stencil

namespace Bootstrap

variable {ε : Type} [ScriptEngine ε]

/-- Scripts that are there, can be read and run without an error, one after another, from one state of
an engine to another; the texts are those that were run. -/
inductive Runs (bootstrap : Bootstrap) (files : FileSystem) :
    ε → List String → List String → ε → Prop where
  | none (state : ε) : Runs bootstrap files state [] [] state
  | next (state last : ε) (location text : String) (rest texts : List String)
      (present : (bootstrap.loader.get files location).exists? files = true)
      (read : (bootstrap.loader.get files location).readText files bootstrap.charset = .ok text)
      (evaluated : (ScriptEngine.eval state text (some location)).answer = .ok ())
      (later : Runs bootstrap files (ScriptEngine.eval state text (some location)).engine rest texts
        last) :
      Runs bootstrap files state (location :: rest) (text :: texts) last

/-- How a run ends at the scripts that are left, what it still gives to the engine, and the state that
this leaves the engine in. Only a script that is there and can be read is given to the engine. -/
inductive Ends (bootstrap : Bootstrap) (files : FileSystem) (state : ε) :
    List String → List Exchange → ε → Except ViewError Unit → Prop where
  | complete : Ends bootstrap files state [] [] state (.ok ())
  | missing (location : String) (later : List String)
      (absent : (bootstrap.loader.get files location).exists? files = false) :
      Ends bootstrap files state (location :: later) [] state (.error (.resourceNotFound location))
  | unreadable (location : String) (later : List String) (cause : FileError)
      (present : (bootstrap.loader.get files location).exists? files = true)
      (unread : (bootstrap.loader.get files location).readText files bootstrap.charset =
        .error cause) :
      Ends bootstrap files state (location :: later) [] state
        (.error (.scriptLoad location (.unreadable cause)))
  | failed (location text : String) (later : List String) (cause : ScriptError)
      (present : (bootstrap.loader.get files location).exists? files = true)
      (read : (bootstrap.loader.get files location).readText files bootstrap.charset = .ok text)
      (fails : (ScriptEngine.eval state text (some location)).answer = .error cause) :
      Ends bootstrap files state (location :: later)
        [.evaluated text (some location) (.error cause)]
        (ScriptEngine.eval state text (some location)).engine
        (.error (.scriptLoad location (.failed cause)))

section Runs

variable {bootstrap : Bootstrap} {files : FileSystem} {state reached final : ε}
  {done texts rest : List String} {attempted : List Exchange} {answer : Except ViewError Unit}

theorem Runs.pass_append (runs : bootstrap.Runs files state done texts reached)
    (rest : List String) :
    bootstrap.pass files state (done ++ rest) = bootstrap.pass files reached rest := by
  induction runs with
  | none state => rfl
  | next state last location text others texts present read evaluated later ih =>
      have readable := bootstrap.source_eq_ok files location text present read
      rw [List.cons_append, bootstrap.pass_cons files state location _ text readable, evaluated]
      exact ih

theorem Ends.pass_eq (ends : bootstrap.Ends files state rest attempted final answer) :
    bootstrap.pass files state rest = (answer, final) := by
  cases ends with
  | complete => rfl
  | missing location later absent => simp [pass, source, absent]
  | unreadable location later cause present unread => simp [pass, source, present, unread]
  | failed location text later cause present read fails =>
      have readable := bootstrap.source_eq_ok files location text present read
      rw [bootstrap.pass_cons files state location later text readable, fails]

/-- Where a run has ended, the next script is the one that the answer names. -/
theorem Ends.error (ends : bootstrap.Ends files state rest attempted final answer)
    (left : rest ≠ []) :
    ∃ next later, rest = next :: later ∧
      (answer = .error (.resourceNotFound next) ∨
        ∃ fault, answer = .error (.scriptLoad next fault)) := by
  cases ends with
  | complete => exact absurd rfl left
  | missing location later absent => exact ⟨location, later, rfl, Or.inl rfl⟩
  | unreadable location later cause present unread =>
      exact ⟨location, later, rfl, Or.inr ⟨_, rfl⟩⟩
  | failed location text later cause present read fails =>
      exact ⟨location, later, rfl, Or.inr ⟨_, rfl⟩⟩

/-- Without what is behind it, a run that ends at a script ends there as well. -/
theorem Ends.cut {next : String} {later : List String}
    (ends : bootstrap.Ends files state (next :: later) attempted final answer) (more : List String) :
    bootstrap.Ends files state (next :: more) attempted final answer := by
  cases ends with
  | missing _ _ absent => exact .missing next more absent
  | unreadable _ _ cause present unread => exact .unreadable next more cause present unread
  | failed _ text _ cause present read fails => exact .failed next text more cause present read fails

/-- Every list of scripts is cut where a run over it ends. -/
theorem exists_runs (bootstrap : Bootstrap) (files : FileSystem) (state : ε)
    (scripts : List String) :
    ∃ done texts rest attempted reached final answer, scripts = done ++ rest ∧
      bootstrap.Runs files state done texts reached ∧
      bootstrap.Ends files reached rest attempted final answer := by
  induction scripts generalizing state with
  | nil => exact ⟨[], [], [], [], state, state, .ok (), rfl, .none state, .complete⟩
  | cons location later ih =>
      cases present : (bootstrap.loader.get files location).exists? files with
      | false =>
          exact ⟨[], [], location :: later, [], state, state, _, rfl, .none state,
            .missing location later present⟩
      | true =>
          cases read : (bootstrap.loader.get files location).readText files bootstrap.charset with
          | error cause =>
              exact ⟨[], [], location :: later, [], state, state, _, rfl, .none state,
                .unreadable location later cause present read⟩
          | ok text =>
              cases evaluated : (ScriptEngine.eval state text (some location)).answer with
              | error cause =>
                  exact ⟨[], [], location :: later, _, state, _, _, rfl, .none state,
                    .failed location text later cause present read evaluated⟩
              | ok done =>
                  obtain ⟨done, texts, rest, attempted, reached, final, answer, parts, runs, ends⟩ :=
                    ih (ScriptEngine.eval state text (some location)).engine
                  refine ⟨location :: done, text :: texts, rest, attempted, reached, final, answer,
                    ?_, .next state reached location text done texts present read evaluated runs,
                    ends⟩
                  rw [parts, List.cons_append]

/-- No longer part of the scripts runs. -/
theorem Runs.longest (runs : bootstrap.Runs files state done texts reached)
    (ends : bootstrap.Ends files reached rest attempted final answer) (longer others : List String)
    (last : ε) (part : longer <+: done ++ rest)
    (also : bootstrap.Runs files state longer others last) : longer <+: done := by
  rcases List.prefix_or_prefix_of_prefix part (List.prefix_append done rest) with within | beyond
  · exact within
  · obtain ⟨more, same⟩ := beyond
    rw [← same, List.prefix_append_right_inj] at part
    cases more with
    | nil =>
        have whole : done = longer := (List.append_nil done).symm.trans same
        exact whole ▸ List.prefix_refl done
    | cons next others =>
        obtain ⟨later, split⟩ := part
        rw [List.cons_append] at split
        have passed := also.pass_append []
        rw [List.append_nil, ← same, runs.pass_append] at passed
        rw [← split] at ends
        have stopped := (ends.cut others).pass_eq
        obtain ⟨_, _, _, missing | ⟨fault, failed⟩⟩ := ends.error (List.cons_ne_nil _ _)
        · rw [passed, missing] at stopped
          cases stopped
        · rw [passed, failed] at stopped
          cases stopped

end Runs

/-! ### What an engine is given -/

section Log

variable {bootstrap : Bootstrap} {files : FileSystem} {state reached final : Logged ε}
  {done texts rest : List String} {attempted : List Exchange} {answer : Except ViewError Unit}

theorem Runs.log (runs : bootstrap.Runs files state done texts reached) :
    reached.log = state.log ++
      List.zipWith (fun location text => .evaluated text (some location) (.ok ())) done texts := by
  induction runs with
  | none state => exact (List.append_nil _).symm
  | next state last location text others texts present read evaluated later ih =>
      have given : (ScriptEngine.eval state text (some location)).engine.log =
          state.log ++ [.evaluated text (some location)
            (ScriptEngine.eval state text (some location)).answer] := rfl
      rw [ih, given, evaluated, List.append_assoc, List.singleton_append, List.zipWith_cons_cons]

theorem Ends.log (ends : bootstrap.Ends files reached rest attempted final answer) :
    final.log = reached.log ++ attempted := by
  cases ends with
  | complete | missing _ _ _ | unreadable _ _ _ _ _ => exact (List.append_nil _).symm
  | failed location text later cause present read fails =>
      have given : (ScriptEngine.eval reached text (some location)).engine.log =
          reached.log ++ [.evaluated text (some location)
            (ScriptEngine.eval reached text (some location)).answer] := rfl
      rw [given, fails]

end Log

/-! ### What a run looks up -/

section Lookups

variable {bootstrap : Bootstrap} {files : FileSystem} {state reached final : ε}
  {done texts rest : List String} {attempted : List Exchange} {answer : Except ViewError Unit}

theorem loadOne_lookups (bootstrap : Bootstrap) (engine : EngineHandle) (host : Host ε)
    (location : String) :
    (bootstrap.loadOne engine host location).2.lookups = host.lookups ++ [location] := by
  unfold loadOne
  cases bootstrap.source host.files location with
  | error fault => exact host.lookUp_lookups location
  | ok text =>
      have ran : ((host.lookUp location).eval engine text (some location)).2.lookups =
          host.lookups ++ [location] :=
        ((host.lookUp location).command_lookups engine _).trans (host.lookUp_lookups location)
      dsimp only
      generalize (host.lookUp location).eval engine text (some location) = evaluated at ran ⊢
      obtain ⟨answer, last⟩ := evaluated
      cases answer with
      | error cause => exact ran
      | ok done => exact (last.report_lookups _).trans ran

/-- A run that has ended looks up no script more. -/
theorem Ends.lookups (ends : bootstrap.Ends files state rest attempted final answer)
    (engine : EngineHandle) (host : Host ε) (held : host.files = files)
    (found : host.engines[engine.id]? = some state) :
    (bootstrap.loadAll engine host rest).2.lookups = host.lookups ++ rest.take 1 := by
  subst held
  cases rest with
  | nil => exact (List.append_nil _).symm
  | cons location later =>
      have looked := bootstrap.loadOne_lookups engine host location
      have stopped : ∃ fault, (bootstrap.loadOne engine host location).1 = .error fault := by
        obtain ⟨noted, ran⟩ := bootstrap.loadAll_eq engine [location] host state found
        rw [(ends.cut []).pass_eq] at ran
        obtain ⟨_, _, _, named⟩ := ends.error (List.cons_ne_nil _ _)
        rcases one : bootstrap.loadOne engine host location with ⟨own, next⟩
        rw [loadAll, one] at ran
        cases own with
        | error fault => exact ⟨fault, rfl⟩
        | ok done =>
            have well : Except.ok () = answer := congrArg Prod.fst ran
            rw [← well] at named
            rcases named with same | ⟨_, same⟩ <;> cases same
      obtain ⟨fault, failed⟩ := stopped
      rw [loadAll]
      rcases one : bootstrap.loadOne engine host location with ⟨own, next⟩
      rw [one] at failed looked
      subst failed
      exact looked

/-- The scripts that run are looked up in their order, and then the one that the run ends at. -/
theorem Runs.lookups (runs : bootstrap.Runs files state done texts reached)
    (ends : bootstrap.Ends files reached rest attempted final answer) (engine : EngineHandle)
    (host : Host ε) (held : host.files = files) (found : host.engines[engine.id]? = some state) :
    (bootstrap.loadAll engine host (done ++ rest)).2.lookups =
      host.lookups ++ done ++ rest.take 1 := by
  induction runs generalizing host with
  | none state =>
      rw [List.nil_append, List.append_nil]
      exact ends.lookups engine host held found
  | next state last location text others texts present read evaluated later ih =>
      subst held
      have readable := bootstrap.source_eq_ok host.files location text present read
      have looked := bootstrap.loadOne_lookups engine host location
      obtain ⟨noted, one⟩ := bootstrap.loadOne_eq engine host location text state found readable
      rw [evaluated] at one
      have inside := (List.getElem?_eq_some_iff.mp found).1
      rw [one] at looked
      rw [List.cons_append, loadAll, one]
      dsimp only
      rw [ih ends (host.withEngine engine.id _ noted) rfl (List.getElem?_set_self inside), looked,
        List.append_assoc host.lookups, List.singleton_append]

end Lookups

/-! ### What a run overlooks -/

/-- Another bootstrap finds the same at a location, among its own files. -/
def Agrees (bootstrap : Bootstrap) (files : FileSystem) (other : Bootstrap) (others : FileSystem)
    (location : String) : Prop :=
  (other.loader.get others location).exists? others =
      (bootstrap.loader.get files location).exists? files ∧
    (other.loader.get others location).readText others other.charset =
      (bootstrap.loader.get files location).readText files bootstrap.charset

section Overlooks

variable (bootstrap other : Bootstrap) (engine : EngineHandle) (files : FileSystem)

theorem loadOne_overlooks (host : Host ε) (location : String)
    (agrees : bootstrap.Agrees host.files other files location) :
    other.loadOne engine { host with files := files } location =
      ((bootstrap.loadOne engine host location).1,
        { (bootstrap.loadOne engine host location).2 with files := files }) := by
  have same : other.source files location = bootstrap.source host.files location := by
    unfold source
    dsimp only
    rw [agrees.1, agrees.2]
  unfold loadOne
  dsimp only
  rw [same]
  cases bootstrap.source host.files location with
  | error fault => rfl
  | ok text =>
      unfold Host.eval Host.command Host.lookUp
      dsimp only
      cases host.engines[engine.id]? with
      | none => rfl
      | some state =>
          dsimp only
          cases (ScriptEngine.eval state text (some location)).answer <;> rfl

theorem loadOne_files (host : Host ε) (location : String) :
    (bootstrap.loadOne engine host location).2.files = host.files := by
  have own := bootstrap.loadOne_overlooks bootstrap engine host.files host location ⟨rfl, rfl⟩
  exact congrArg (fun ran => ran.2.files) own

theorem loadAll_overlooks (scripts : List String) (host : Host ε)
    (agrees : ∀ location ∈ scripts, bootstrap.Agrees host.files other files location) :
    other.loadAll engine { host with files := files } scripts =
      ((bootstrap.loadAll engine host scripts).1,
        { (bootstrap.loadAll engine host scripts).2 with files := files }) := by
  induction scripts generalizing host with
  | nil => rfl
  | cons location rest ih =>
      have first := bootstrap.loadOne_overlooks other engine files host location
        (agrees location List.mem_cons_self)
      have kept := bootstrap.loadOne_files engine host location
      rw [loadAll, loadAll, first]
      rcases ran : bootstrap.loadOne engine host location with ⟨answer, next⟩
      rw [ran] at kept
      cases answer with
      | error fault => rfl
      | ok done =>
          apply ih
          intro later member
          rw [kept]
          exact agrees later (List.mem_cons_of_mem location member)

theorem loadAll_append_of_error (before after : List String) (host : Host ε) (fault : ViewError)
    (failed : (bootstrap.loadAll engine host before).1 = .error fault) :
    bootstrap.loadAll engine host (before ++ after) = bootstrap.loadAll engine host before := by
  induction before generalizing host with
  | nil => cases failed
  | cons location rest ih =>
      rw [List.cons_append, loadAll, loadAll]
      rw [loadAll] at failed
      rcases ran : bootstrap.loadOne engine host location with ⟨answer, next⟩
      rw [ran] at failed
      cases answer with
      | error own => rfl
      | ok done => exact ih next failed

end Overlooks

/-- A run that ends at a script ends as it does whatever follows the script, and wherever the scripts up
to it are found as they are. -/
theorem load_overlooks (bootstrap : Bootstrap) (engine : EngineHandle) (host : Host ε)
    (state reached final : ε) (found : host.engines[engine.id]? = some state)
    (done texts later : List String) (next : String) (attempted : List Exchange)
    (answer : Except ViewError Unit) (parts : bootstrap.scripts = done ++ next :: later)
    (runs : bootstrap.Runs host.files state done texts reached)
    (ends : bootstrap.Ends host.files reached (next :: later) attempted final answer)
    (other : Bootstrap) (files : FileSystem) (more : List String)
    (others : other.scripts = done ++ next :: more)
    (agrees : ∀ location ∈ done ++ [next], bootstrap.Agrees host.files other files location) :
    other.load engine { host with files := files } =
      ((bootstrap.load engine host).1, { (bootstrap.load engine host).2 with files := files }) := by
  -- The scripts up to the last one that counts fail already, on both sides alike.
  obtain ⟨noted, ran⟩ := bootstrap.loadAll_eq engine (done ++ [next]) host state found
  rw [runs.pass_append, (ends.cut []).pass_eq] at ran
  have same := bootstrap.loadAll_overlooks other engine files (done ++ [next]) host agrees
  have stops : ∃ fault, answer = .error fault := by
    obtain ⟨_, _, _, missing | ⟨fault, failed⟩⟩ := ends.error (List.cons_ne_nil _ _)
    · exact ⟨_, missing⟩
    · exact ⟨_, failed⟩
  obtain ⟨fault, stopped⟩ := stops
  have failed : (bootstrap.loadAll engine host (done ++ [next])).1 = .error fault := by
    rw [ran, stopped]
  have otherFailed : (other.loadAll engine { host with files := files } (done ++ [next])).1 =
      .error fault := by
    rw [same, failed]
  unfold load
  rw [others, parts, List.append_cons, List.append_cons done next later,
    other.loadAll_append_of_error engine _ more _ fault otherFailed,
    bootstrap.loadAll_append_of_error engine _ later _ fault failed, same]

/-- Loading scripts into an engine runs the longest part of them that can run, in its order and each
script under its own name, and gives the engine one more text exactly if the script behind that part
is there and can be read. These scripts and the one behind them are looked up, and no other. It
answers well exactly if all scripts have run; otherwise the answer tells what is wrong with the
first script that has not, and neither the scripts behind it nor anything at their locations counts.
No other engine is touched. -/
theorem load_prefix (bootstrap : Bootstrap) (engine : EngineHandle) (host last : Host (Logged ε))
    (state : Logged ε) (answer : Except ViewError Unit)
    (found : host.engines[engine.id]? = some state)
    (loaded : bootstrap.load engine host = (answer, last)) :
    ∃ done texts rest attempted reached final, bootstrap.scripts = done ++ rest ∧
      bootstrap.Runs host.files state done texts reached ∧
      (∀ longer others after, longer <+: bootstrap.scripts →
        bootstrap.Runs host.files state longer others after → longer <+: done) ∧
      bootstrap.Ends host.files reached rest attempted final answer ∧
      final.log = state.log ++ List.zipWith
        (fun location text => .evaluated text (some location) (.ok ())) done texts ++ attempted ∧
      (∃ noted, last = host.withEngine engine.id final noted) ∧
      last.lookups = host.lookups ++ done ++ rest.take 1 ∧
      (answer = .ok () ↔ done = bootstrap.scripts) ∧
      ∀ next later, rest = next :: later →
        ∀ (other : Bootstrap) (files : FileSystem) (more : List String),
          other.scripts = done ++ next :: more →
          (∀ location ∈ done ++ [next], bootstrap.Agrees host.files other files location) →
          other.load engine { host with files := files } =
            (answer, { last with files := files }) := by
  obtain ⟨done, texts, rest, attempted, reached, final, ended, parts, runs, ends⟩ :=
    bootstrap.exists_runs host.files state bootstrap.scripts
  obtain ⟨noted, ran⟩ := bootstrap.load_eq engine host state found
  rw [parts, runs.pass_append, ends.pass_eq, loaded] at ran
  have answered : answer = ended := congrArg Prod.fst ran
  have left : last = host.withEngine engine.id final noted := congrArg Prod.snd ran
  rw [← answered] at ends
  have looked := runs.lookups ends engine host rfl found
  rw [← parts, show bootstrap.loadAll engine host bootstrap.scripts = _ from loaded] at looked
  refine ⟨done, texts, rest, attempted, reached, final, parts, runs, ?_, ends, ?_, ⟨noted, left⟩,
    looked, ?_, ?_⟩
  · intro longer others after part
    rw [parts] at part
    exact runs.longest ends longer others after part
  · rw [ends.log, runs.log]
  · cases rest with
    | nil =>
        cases ends
        exact iff_of_true rfl (by rw [parts, List.append_nil])
    | cons next later =>
        refine iff_of_false ?_ (by rw [parts]; simp)
        intro well
        rw [well] at ends
        cases ends
  · intro next later behind other files more others agrees
    subst behind
    rw [bootstrap.load_overlooks engine host state reached final found done texts later next attempted
      answer parts runs ends other files more others agrees, loaded]

/-- The first script comes twice, the next one is missing, and one more is never reached. -/
def interrupted : Bootstrap :=
  ⟨["a.js", "a.js", "b.js", "c.js"], .memory [("a.js", [49]), ("c.js", [50])], .utf8⟩

def untried : Logged Recorder :=
  Logged.new { callables := {} }

def untriedHost : Host (Logged Recorder) where
  files := ⟨[], []⟩
  engines := [untried]

theorem load_prefix_interrupted :
    ((interrupted.load ⟨0, "recording"⟩ untriedHost).2.engines.map
        fun engine => engine.log.length) = [2] ∧
      (interrupted.load ⟨0, "recording"⟩ untriedHost).2.lookups = ["a.js", "a.js", "b.js"] ∧
      ∃ done texts rest attempted reached final, interrupted.scripts = done ++ rest ∧
        interrupted.Runs ⟨[], []⟩ untried done texts reached ∧
        interrupted.Ends ⟨[], []⟩ reached rest attempted final (.error (.resourceNotFound "b.js")) ∧
        done ≠ interrupted.scripts := by
  have answered : (interrupted.load ⟨0, "recording"⟩ untriedHost).1 =
      .error (.resourceNotFound "b.js") := by decide +kernel
  obtain ⟨done, texts, rest, attempted, reached, final, parts, runs, _, ends, _, _, _, whole, _⟩ :=
    load_prefix interrupted ⟨0, "recording"⟩ untriedHost
      (interrupted.load ⟨0, "recording"⟩ untriedHost).2 untried
      (.error (.resourceNotFound "b.js")) rfl (Prod.ext answered rfl)
  refine ⟨by decide +kernel, by decide +kernel, done, texts, rest, attempted, reached, final, parts,
    runs, ends, ?_⟩
  intro all
  cases whole.mpr all

end Bootstrap

end Stencil
