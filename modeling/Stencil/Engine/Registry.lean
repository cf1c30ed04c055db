import Stencil.Engine.Basic
import Stencil.Text.Quoted

/-!
The factories by name. Registering a factory puts it under its name and its aliases, in place of
whatever stood there.
-/

namespace Stencil

/-- Factories under their names, in the order of the names. -/
structure Registry (ε : Type) where
  entries : List (String × Factory ε) := []

namespace Registry

variable {ε : Type}

def place (name : String) (factory : Factory ε) :
    List (String × Factory ε) → List (String × Factory ε)
  | [] => [(name, factory)]
  | (other, held) :: rest =>
      if name < other then (name, factory) :: (other, held) :: rest
      else if name = other then (name, factory) :: rest
      else (other, held) :: place name factory rest

def register (registry : Registry ε) (factory : Factory ε) : Registry ε :=
  ⟨factory.names.foldl (fun entries name => place name factory entries) registry.entries⟩

def ofFactories (factories : List (Factory ε)) : Registry ε :=
  factories.foldl register {}

def find? (registry : Registry ε) (name : String) : Option (Factory ε) :=
  registry.entries.lookup name

def names (registry : Registry ε) : List String :=
  registry.entries.map Prod.fst

def debug (registry : Registry ε) : String :=
  Text.showRecord "ScriptEngineManager"
    [("engines", Text.showList (registry.names.map Text.quote))]

end Registry

end Stencil
