import Stencil.Error.Basic
import Stencil.Journal
import Stencil.Json.Value

/-!
Script engines. An engine has a state; a command answers, leaves a new state, and may write lines to
the console. Factories make engines, each time a new one.
-/

namespace Stencil

/-- The outcome of a command: its answer, the engine afterwards, and the lines it wrote. -/
structure Reply (ε α : Type) where
  answer : Except ScriptError α
  engine : ε
  console : List (Level × String) := []

/-- What an engine can be asked to do. Calls take JSON arguments and answer text. -/
class ScriptEngine (ε : Type) where
  name : ε → String
  /-- Runs source text in the global scope; the origin names it in errors. -/
  eval : ε → (source : String) → (origin : Option String) → Reply ε Unit
  /-- Calls a global function. -/
  callFunction : ε → (name : String) → (arguments : List Json) → Reply ε String
  /-- Calls a method of the object that an expression stands for. -/
  callMethod : ε → (receiver name : String) → (arguments : List Json) → Reply ε String

/-- A maker of engines. `id` tells factories apart that have the same name; `make` answers the
request of the given number, counted from zero. -/
structure Factory (ε : Type) where
  id : Nat
  name : String
  aliases : List String
  make : Nat → Except ScriptError ε

/-- The same factory with its engines seen as engines of a wider kind. -/
def Factory.map {ε δ : Type} (widen : ε → δ) (factory : Factory ε) : Factory δ where
  id := factory.id
  name := factory.name
  aliases := factory.aliases
  make request := (factory.make request).map widen

/-- The same reply with its engine seen as an engine of a wider kind. -/
def Reply.map {ε δ α : Type} (widen : ε → δ) (reply : Reply ε α) : Reply δ α where
  answer := reply.answer
  engine := widen reply.engine
  console := reply.console

def Factory.names {ε : Type} (factory : Factory ε) : List String :=
  factory.name :: factory.aliases

end Stencil
