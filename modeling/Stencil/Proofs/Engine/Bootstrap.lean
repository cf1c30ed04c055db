import Stencil.Engine.Provider
import Stencil.Proofs.Engine.Host

/-!
Bootstrapping seen from the engine alone. `Bootstrap.pass` says what the scripts do to the state of
one engine, and `Bootstrap.attempt` what comes of one request to a factory. Running scripts on a host
is such a pass on one of its engines, and nothing else on the host changes.
-/

namespace Stencil

/-- How an attempt at an engine ends. One that fails may leave an engine that is half set up. -/
inductive Attempt (ε : Type) where
  | failed (fault : ViewError) (half : Option ε)
  | made (name : String) (engine : ε)

namespace Attempt

variable {ε : Type}

def answer : Attempt ε → Except ViewError String
  | .failed fault _ => .error fault
  | .made name _ => .ok name

def engine? : Attempt ε → Option ε
  | .failed _ half => half
  | .made _ engine => some engine

end Attempt

namespace Bootstrap

variable {ε : Type} [ScriptEngine ε]

/-- Runs scripts into an engine that stands alone. -/
def pass (bootstrap : Bootstrap) (files : FileSystem) :
    ε → List String → Except ViewError Unit × ε
  | state, [] => (.ok (), state)
  | state, location :: rest =>
      match bootstrap.source files location with
      | .error fault => (.error fault, state)
      | .ok text =>
          let reply := ScriptEngine.eval state text (some location)
          match reply.answer with
          | .error cause => (.error (.scriptLoad location (.failed cause)), reply.engine)
          | .ok _ => bootstrap.pass files reply.engine rest

/-- One request to a factory, with every script run into the engine it gives. -/
def attempt (bootstrap : Bootstrap) (factory : Factory ε) (files : FileSystem) (request : Nat) :
    Attempt ε :=
  match factory.make request with
  | .error cause => .failed (.configuration (.engine factory.name cause)) none
  | .ok fresh =>
      match bootstrap.pass files fresh bootstrap.scripts with
      | (.error fault, half) => .failed fault (some half)
      | (.ok _, ready) => .made (ScriptEngine.name fresh) ready

theorem source_eq_ok (bootstrap : Bootstrap) (files : FileSystem) (location text : String)
    (present : (bootstrap.loader.get files location).exists? files = true)
    (read : (bootstrap.loader.get files location).readText files bootstrap.charset = .ok text) :
    bootstrap.source files location = .ok text := by
  unfold source
  simp only [present, read, ↓reduceIte]

theorem pass_cons (bootstrap : Bootstrap) (files : FileSystem) (state : ε) (location : String)
    (rest : List String) (text : String) (readable : bootstrap.source files location = .ok text) :
    bootstrap.pass files state (location :: rest) =
      match (ScriptEngine.eval state text (some location)).answer with
      | .error cause =>
          (.error (.scriptLoad location (.failed cause)),
            (ScriptEngine.eval state text (some location)).engine)
      | .ok _ =>
          bootstrap.pass files (ScriptEngine.eval state text (some location)).engine rest := by
  rw [pass, readable]

theorem loadOne_eq (bootstrap : Bootstrap) (engine : EngineHandle) (host : Host ε)
    (location text : String) (state : ε) (found : host.engines[engine.id]? = some state)
    (readable : bootstrap.source host.files location = .ok text) :
    ∃ noted, bootstrap.loadOne engine host location =
      ((match (ScriptEngine.eval state text (some location)).answer with
        | .error cause => .error (.scriptLoad location (.failed cause))
        | .ok _ => .ok ()),
        host.withEngine engine.id (ScriptEngine.eval state text (some location)).engine
          noted) := by
  obtain ⟨noted, ran⟩ := (host.lookUp location).command_eq engine
    (fun held => ScriptEngine.eval held text (some location)) state found
  have evaluated : (host.lookUp location).eval engine text (some location) = _ := ran
  rw [Host.lookUp_withEngine] at evaluated
  unfold loadOne
  rw [readable]
  simp only [evaluated]
  cases answer : (ScriptEngine.eval state text (some location)).answer with
  | error cause => exact ⟨.lookedUp location :: noted, rfl⟩
  | ok done =>
      refine ⟨.lookedUp location :: noted ++ [.reported (.scriptLoaded location engine.name)], ?_⟩
      simp only [Host.withEngine_report]

/-- Scripts on a host are a pass on the one engine they are run into. -/
theorem loadAll_eq (bootstrap : Bootstrap) (engine : EngineHandle) (scripts : List String)
    (host : Host ε) (state : ε) (found : host.engines[engine.id]? = some state) :
    ∃ noted, bootstrap.loadAll engine host scripts =
      ((bootstrap.pass host.files state scripts).1,
        host.withEngine engine.id (bootstrap.pass host.files state scripts).2 noted) := by
  induction scripts generalizing host state with
  | nil =>
      refine ⟨[], ?_⟩
      rw [loadAll, pass, host.withEngine_self engine.id state found]
  | cons location rest ih =>
      cases readable : bootstrap.source host.files location with
      | error fault =>
          refine ⟨[.lookedUp location], ?_⟩
          rw [loadAll, loadOne, pass, readable]
          simp only [← Host.lookUp_withEngine,
            (host.lookUp location).withEngine_self engine.id state found]
      | ok text =>
          obtain ⟨before, ran⟩ := bootstrap.loadOne_eq engine host location text state found readable
          rw [loadAll, ran, bootstrap.pass_cons host.files state location rest text readable]
          cases answer : (ScriptEngine.eval state text (some location)).answer with
          | error cause => exact ⟨before, rfl⟩
          | ok done =>
              have inside := (List.getElem?_eq_some_iff.mp found).1
              obtain ⟨after, rested⟩ :=
                ih (host.withEngine engine.id
                  (ScriptEngine.eval state text (some location)).engine before) _
                  (by rw [Host.withEngine_engines, List.getElem?_set_self inside])
              refine ⟨before ++ after, ?_⟩
              simp only [rested, Host.withEngine_withEngine, Host.withEngine_files]

theorem load_eq (bootstrap : Bootstrap) (engine : EngineHandle) (host : Host ε) (state : ε)
    (found : host.engines[engine.id]? = some state) :
    ∃ noted, bootstrap.load engine host =
      ((bootstrap.pass host.files state bootstrap.scripts).1,
        host.withEngine engine.id (bootstrap.pass host.files state bootstrap.scripts).2 noted) :=
  bootstrap.loadAll_eq engine bootstrap.scripts host state found

theorem attempt_congr (bootstrap : Bootstrap) (factory : Factory ε) (files : FileSystem)
    (first second : Nat) (alike : factory.make first = factory.make second) :
    bootstrap.attempt factory files first = bootstrap.attempt factory files second := by
  unfold attempt
  rw [alike]

/-! ### Scripts that cannot be loaded -/

/-- Why a script is not loaded into an engine: it is missing, cannot be read, or fails. -/
inductive Refuses (bootstrap : Bootstrap) (files : FileSystem) (state : ε) (location : String) :
    ViewError → Prop where
  | missing (absent : (bootstrap.loader.get files location).exists? files = false) :
      Refuses bootstrap files state location (.resourceNotFound location)
  | unreadable (cause : FileError)
      (present : (bootstrap.loader.get files location).exists? files = true)
      (unread : (bootstrap.loader.get files location).readText files bootstrap.charset =
        .error cause) :
      Refuses bootstrap files state location (.scriptLoad location (.unreadable cause))
  | failed (text : String) (cause : ScriptError)
      (present : (bootstrap.loader.get files location).exists? files = true)
      (read : (bootstrap.loader.get files location).readText files bootstrap.charset = .ok text)
      (fails : (ScriptEngine.eval state text (some location)).answer = .error cause) :
      Refuses bootstrap files state location (.scriptLoad location (.failed cause))

theorem pass_append (bootstrap : Bootstrap) (files : FileSystem) (state reached : ε)
    (before after : List String)
    (passed : bootstrap.pass files state before = (.ok (), reached)) :
    bootstrap.pass files state (before ++ after) = bootstrap.pass files reached after := by
  induction before generalizing state with
  | nil =>
      rw [pass, Prod.mk.injEq] at passed
      rw [List.nil_append, passed.2]
  | cons location rest ih =>
      cases readable : bootstrap.source files location with
      | error fault => simp [pass, readable] at passed
      | ok text =>
          rw [bootstrap.pass_cons files state location rest text readable] at passed
          rw [List.cons_append,
            bootstrap.pass_cons files state location (rest ++ after) text readable]
          cases answer : (ScriptEngine.eval state text (some location)).answer with
          | error cause => simp [answer] at passed
          | ok done =>
              rw [answer] at passed
              exact ih _ passed

theorem pass_refused (bootstrap : Bootstrap) (files : FileSystem) (state : ε) (location : String)
    (rest : List String) (fault : ViewError)
    (refuses : bootstrap.Refuses files state location fault) :
    (bootstrap.pass files state (location :: rest)).1 = .error fault := by
  unfold pass source
  cases refuses with
  | missing absent => simp [absent]
  | unreadable cause present unread => simp [present, unread]
  | failed text cause present read fails => simp [present, read, fails]

theorem exists_refused (bootstrap : Bootstrap) (files : FileSystem) (state : ε)
    (scripts : List String) (fault : ViewError)
    (failed : (bootstrap.pass files state scripts).1 = .error fault) :
    ∃ before location after reached, scripts = before ++ location :: after ∧
      bootstrap.pass files state before = (.ok (), reached) ∧
      bootstrap.Refuses files reached location fault := by
  induction scripts generalizing state with
  | nil => cases failed
  | cons location rest ih =>
      cases present : (bootstrap.loader.get files location).exists? files with
      | false =>
          have missing := bootstrap.pass_refused files state location rest _ (.missing present)
          rw [failed, Except.error.injEq] at missing
          rw [missing]
          exact ⟨[], location, rest, state, rfl, rfl, .missing present⟩
      | true =>
          cases read : (bootstrap.loader.get files location).readText files bootstrap.charset with
          | error cause =>
              have unreadable := bootstrap.pass_refused files state location rest _
                (.unreadable cause present read)
              rw [failed, Except.error.injEq] at unreadable
              rw [unreadable]
              exact ⟨[], location, rest, state, rfl, rfl, .unreadable cause present read⟩
          | ok text =>
              have readable := bootstrap.source_eq_ok files location text present read
              cases answer : (ScriptEngine.eval state text (some location)).answer with
              | error cause =>
                  have fails := bootstrap.pass_refused files state location rest _
                    (.failed text cause present read answer)
                  rw [failed, Except.error.injEq] at fails
                  rw [fails]
                  exact ⟨[], location, rest, state, rfl, rfl, .failed text cause present read answer⟩
              | ok done =>
                  rw [bootstrap.pass_cons files state location rest text readable, answer] at failed
                  obtain ⟨before, other, after, reached, parts, passed, refuses⟩ := ih _ failed
                  refine ⟨location :: before, other, after, reached, ?_, ?_, refuses⟩
                  · rw [parts, List.cons_append]
                  · rw [bootstrap.pass_cons files state location before text readable, answer]
                    exact passed

/-- A pass stops at the first script that is not loaded, with the fault of that script. -/
theorem pass_eq_error_iff (bootstrap : Bootstrap) (files : FileSystem) (state : ε)
    (scripts : List String) (fault : ViewError) :
    (bootstrap.pass files state scripts).1 = .error fault ↔
      ∃ before location after reached, scripts = before ++ location :: after ∧
        bootstrap.pass files state before = (.ok (), reached) ∧
        bootstrap.Refuses files reached location fault := by
  refine ⟨bootstrap.exists_refused files state scripts fault, ?_⟩
  rintro ⟨before, location, after, reached, parts, passed, refuses⟩
  rw [parts, bootstrap.pass_append files state reached before (location :: after) passed]
  exact bootstrap.pass_refused files reached location after fault refuses

end Bootstrap

namespace Provider

variable {ε : Type} [ScriptEngine ε]

/-- Preparing an engine is one attempt, whose engine is the last of the host from then on. -/
theorem prepare_eq (factory : Factory ε) (bootstrap : Bootstrap) (host : Host ε) :
    ∃ noted, prepare factory bootstrap host =
      ((bootstrap.attempt factory host.files (host.requests factory.id)).answer.map
          (EngineHandle.mk host.engines.length),
        host.withMaking factory.id
          (bootstrap.attempt factory host.files (host.requests factory.id)).engine? noted) := by
  unfold prepare Bootstrap.attempt
  cases made : factory.make (host.requests factory.id) with
  | error cause =>
      rw [host.make_error factory cause made]
      exact ⟨[], rfl⟩
  | ok fresh =>
      rw [host.make_ok factory fresh made]
      obtain ⟨noted, loaded⟩ :=
        bootstrap.load_eq ⟨host.engines.length, ScriptEngine.name fresh⟩
          ((host.withMaking factory.id (some fresh) []).report (.engineCreated factory.name)) fresh
          (by simp)
      rw [Host.withMaking_report, List.nil_append, Host.withMaking_withEngine,
        Host.withMaking_files] at loaded
      refine ⟨[.reported (.engineCreated factory.name)] ++ noted, ?_⟩
      simp only [Host.withMaking_report, List.nil_append, loaded]
      rcases bootstrap.pass host.files fresh bootstrap.scripts with ⟨answer, state⟩
      cases answer with
      | error fault => rfl
      | ok done => rfl

end Provider

end Stencil
