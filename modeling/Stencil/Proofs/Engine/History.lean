import Stencil.Engine.Registry
import Stencil.Proofs.Engine.Provider

/-!
Engines that remember. A `Logged` engine is any engine together with every command it was given and
what it answered. `Bootstrap.Ran` reads such a log: it says which commands a run of the scripts leaves
behind, and how the run ended.
-/

namespace Stencil

/-- A command that an engine was given, with its answer. -/
inductive Exchange where
  | evaluated (source : String) (origin : Option String) (answer : Except ScriptError Unit)
  | called (receiver : Option String) (name : String) (arguments : List Json)
      (answer : Except ScriptError String)

def Exchange.isCall : Exchange → Bool
  | .evaluated .. => false
  | .called .. => true

structure Logged (ε : Type) where
  engine : ε
  log : List Exchange := []

namespace Logged

variable {ε : Type}

/-- The outcome of a command, with the command in the log. -/
def record {α : Type} (logged : Logged ε) (exchange : Except ScriptError α → Exchange)
    (reply : Reply ε α) : Reply (Logged ε) α where
  answer := reply.answer
  engine := ⟨reply.engine, logged.log ++ [exchange reply.answer]⟩
  console := reply.console

instance [ScriptEngine ε] : ScriptEngine (Logged ε) where
  name logged := ScriptEngine.name logged.engine
  eval logged source origin :=
    logged.record (.evaluated source origin) (ScriptEngine.eval logged.engine source origin)
  callFunction logged name arguments :=
    logged.record (.called none name arguments)
      (ScriptEngine.callFunction logged.engine name arguments)
  callMethod logged receiver name arguments :=
    logged.record (.called (some receiver) name arguments)
      (ScriptEngine.callMethod logged.engine receiver name arguments)

def new (engine : ε) : Logged ε :=
  ⟨engine, []⟩

end Logged

def Registry.logged {ε : Type} (registry : Registry ε) : Registry (Logged ε) :=
  ⟨registry.entries.map fun entry => (entry.1, entry.2.map Logged.new)⟩

/-- The factory gives engines that were given no command yet. -/
def Factory.Fresh {ε : Type} (factory : Factory (Logged ε)) : Prop :=
  ∀ request engine, factory.make request = .ok engine → engine.log = []

variable {ε : Type}

theorem Factory.fresh_map (factory : Factory ε) : (factory.map Logged.new).Fresh := by
  intro request engine made
  unfold Factory.map at made
  dsimp only at made
  cases plain : factory.make request with
  | error fault =>
      rw [plain] at made
      cases made
  | ok bare =>
      rw [plain] at made
      rw [← Except.ok.inj made]
      rfl

theorem Registry.fresh_of_find? (registry : Registry ε) (name : String)
    (factory : Factory (Logged ε)) (found : registry.logged.find? name = some factory) :
    factory.Fresh := by
  obtain ⟨before, after, split, _⟩ := List.lookup_eq_some_iff.mp found
  have member : (name, factory) ∈ registry.logged.entries := by
    rw [split]
    exact List.mem_append_right before List.mem_cons_self
  obtain ⟨entry, _, same⟩ := List.mem_map.mp member
  rw [← (Prod.mk.inj same).2]
  exact Factory.fresh_map entry.2

/-! ### What a run of scripts leaves behind -/

namespace Bootstrap

/-- The commands of a run of scripts that ended with an answer. -/
inductive Ran (bootstrap : Bootstrap) (files : FileSystem) :
    List String → List Exchange → Except ViewError Unit → Prop where
  | done : Ran bootstrap files [] [] (.ok ())
  | next (location text : String) (rest : List String) (block : List Exchange)
      (answer : Except ViewError Unit) (readable : bootstrap.source files location = .ok text)
      (later : Ran bootstrap files rest block answer) :
      Ran bootstrap files (location :: rest)
        (.evaluated text (some location) (.ok ()) :: block) answer
  | unread (location : String) (rest : List String) (fault : ViewError)
      (missing : bootstrap.source files location = .error fault) :
      Ran bootstrap files (location :: rest) [] (.error fault)
  | failed (location text : String) (rest : List String) (cause : ScriptError)
      (readable : bootstrap.source files location = .ok text) :
      Ran bootstrap files (location :: rest) [.evaluated text (some location) (.error cause)]
        (.error (.scriptLoad location (.failed cause)))

/-- Every script was evaluated, in its place and without an error. -/
def Complete (bootstrap : Bootstrap) (files : FileSystem) (block : List Exchange) : Prop :=
  List.Forall₂ (fun location exchange => ∃ text, bootstrap.source files location = .ok text ∧
    exchange = .evaluated text (some location) (.ok ())) bootstrap.scripts block

namespace Ran

variable {bootstrap : Bootstrap} {files : FileSystem} {scripts : List String}
  {block : List Exchange} {answer : Except ViewError Unit}

theorem isCall_eq_false (ran : Ran bootstrap files scripts block answer) (exchange : Exchange)
    (member : exchange ∈ block) : exchange.isCall = false := by
  induction ran with
  | done => cases member
  | next location text rest block answer readable later ih =>
      rcases List.mem_cons.mp member with first | others
      · rw [first]
        rfl
      · exact ih others
  | unread location rest fault missing => cases member
  | failed location text rest cause readable =>
      rw [List.mem_singleton.mp member]
      rfl

theorem forall₂ (ran : Ran bootstrap files scripts block answer) (well : answer = .ok ()) :
    List.Forall₂ (fun location exchange => ∃ text, bootstrap.source files location = .ok text ∧
      exchange = .evaluated text (some location) (.ok ())) scripts block := by
  induction ran with
  | done => exact List.Forall₂.nil
  | next location text rest block answer readable later ih =>
      exact List.Forall₂.cons ⟨text, readable, rfl⟩ (ih well)
  | unread location rest fault missing => cases well
  | failed location text rest cause readable => cases well

theorem complete (ran : Ran bootstrap files bootstrap.scripts block (.ok ())) :
    bootstrap.Complete files block :=
  ran.forall₂ rfl

end Ran

variable [ScriptEngine ε]

/-- A pass adds to the log what a run of the scripts leaves behind. -/
theorem pass_logged (bootstrap : Bootstrap) (files : FileSystem) (state : Logged ε)
    (scripts : List String) :
    ∃ block, (bootstrap.pass files state scripts).2.log = state.log ++ block ∧
      Ran bootstrap files scripts block (bootstrap.pass files state scripts).1 := by
  induction scripts generalizing state with
  | nil => exact ⟨[], (List.append_nil _).symm, .done⟩
  | cons location rest ih =>
      cases readable : bootstrap.source files location with
      | error fault =>
          rw [pass, readable]
          exact ⟨[], (List.append_nil _).symm, .unread location rest fault readable⟩
      | ok text =>
          rw [bootstrap.pass_cons files state location rest text readable]
          have logged : (ScriptEngine.eval state text (some location)).engine.log =
              state.log ++ [.evaluated text (some location)
                (ScriptEngine.eval state text (some location)).answer] := rfl
          cases answer : (ScriptEngine.eval state text (some location)).answer with
          | error cause =>
              rw [answer] at logged
              exact ⟨_, logged, .failed location text rest cause readable⟩
          | ok done =>
              rw [answer] at logged
              obtain ⟨block, added, ran⟩ :=
                ih (ScriptEngine.eval state text (some location)).engine
              refine ⟨.evaluated text (some location) (.ok ()) :: block, ?_,
                .next location text rest block _ readable ran⟩
              rw [List.append_cons, ← logged]
              exact added

/-- The engine of an attempt has run the scripts as the attempt says, and done nothing else. -/
theorem attempt_logged (bootstrap : Bootstrap) (factory : Factory (Logged ε))
    (fresh : factory.Fresh) (files : FileSystem) (request : Nat) (engine : Logged ε)
    (left : (bootstrap.attempt factory files request).engine? = some engine) :
    Ran bootstrap files bootstrap.scripts engine.log
      ((bootstrap.attempt factory files request).answer.map fun _ => ()) := by
  unfold attempt at left ⊢
  cases made : factory.make request with
  | error cause =>
      rw [made] at left
      cases left
  | ok start =>
      obtain ⟨block, added, ran⟩ := bootstrap.pass_logged files start bootstrap.scripts
      rw [fresh request start made, List.nil_append] at added
      rw [← added] at ran
      rcases passed : bootstrap.pass files start bootstrap.scripts with ⟨answer, ready⟩
      rw [passed] at ran
      simp only [made, passed] at left ⊢
      cases answer with
      | error fault =>
          rw [← Option.some.inj left]
          exact ran
      | ok done =>
          rw [← Option.some.inj left]
          exact ran

end Bootstrap

end Stencil
