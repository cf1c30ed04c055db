import Stencil.View.Basic

/-!
Views by name. A resolver builds the view of a name at the address `lead ++ name ++ trail` and keeps
it under that name. A `Site` holds all views that were built, each known by its number.
-/

namespace Stencil

/-- The host and every view on it. -/
structure Site (ε : Type) where
  host : Host ε
  views : List (View ε) := []

namespace Site

variable {ε : Type}

def view? (site : Site ε) (id : Nat) : Option (View ε) :=
  site.views[id]?

/-- Puts a view and its host in place after something was done with them. -/
def update (site : Site ε) (id : Nat) (view : View ε) (host : Host ε) : Site ε :=
  ⟨host, site.views.set id view⟩

variable [ScriptEngine ε]

def build (site : Site ε) (environment : Environment ε) (builder : ViewBuilder) :
    Except ViewError Nat × Site ε :=
  match builder.build environment site.host with
  | (.error fault, host) => (.error fault, { site with host := host })
  | (.ok view, host) => (.ok site.views.length, ⟨host, site.views ++ [view]⟩)

end Site

/-- A resolver. `kept` holds the numbers of the views that were built, by name. -/
structure Resolver (ε : Type) where
  environment : Environment ε
  lead : String := ""
  trail : String := ""
  builder : ViewBuilder := {}
  keeps : Bool := true
  kept : List (String × Nat) := []

namespace Resolver

variable {ε : Type}

def url (resolver : Resolver ε) (name : String) : String :=
  resolver.lead ++ name ++ resolver.trail

/-- What can be set on a resolver, new or in use. -/
inductive Setting where
  | lead (text : String)
  | trail (text : String)
  | builder (builder : ViewBuilder)
  | keeps (on : Bool)

/-- Changes one setting. Views that are kept stay kept. -/
def set (resolver : Resolver ε) : Setting → Resolver ε
  | .lead text => { resolver with lead := text }
  | .trail text => { resolver with trail := text }
  | .builder builder => { resolver with builder := builder }
  | .keeps on => { resolver with keeps := on }

/-- Forgets the view of a name, and tells whether there was one. -/
def forget (resolver : Resolver ε) (name : String) : Bool × Resolver ε :=
  (resolver.kept.any (fun entry => entry.1 = name),
    { resolver with kept := resolver.kept.filter (fun entry => entry.1 != name) })

def clear (resolver : Resolver ε) : Resolver ε :=
  { resolver with kept := [] }

def count (resolver : Resolver ε) : Nat :=
  resolver.kept.length

/-- Keeps a view under a name, unless one is kept there already, and tells which it is. -/
def keep (resolver : Resolver ε) (name : String) (id : Nat) : Nat × Resolver ε :=
  match resolver.kept.lookup name with
  | some held => (held, resolver)
  | none => (id, { resolver with kept := resolver.kept ++ [(name, id)] })

variable [ScriptEngine ε]

def buildNew (resolver : Resolver ε) (name : String) (site : Site ε) :
    Except ViewError Nat × Site ε :=
  site.build resolver.environment { resolver.builder with url := some (resolver.url name) }

/-- The view of a name: the one that is kept, or a new one. -/
def resolve (resolver : Resolver ε) (name : String) (site : Site ε) :
    Except ViewError Nat × Resolver ε × Site ε :=
  if resolver.keeps then
    match resolver.kept.lookup name with
    | some id => (.ok id, resolver, site)
    | none =>
        match resolver.buildNew name site with
        | (.error fault, site) => (.error fault, resolver, site)
        | (.ok id, site) =>
            let (held, resolver) := resolver.keep name id
            (.ok held, resolver, site)
  else
    let (answer, site) := resolver.buildNew name site
    (answer, resolver, site)

end Resolver

end Stencil
