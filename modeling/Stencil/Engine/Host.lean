import Stencil.Engine.Registry
import Stencil.Files.System
import Stencil.Settings.Basic

/-!
The world that views work in: the files, every engine that was ever made, what each factory was
asked for, the handles on render contexts, and the journal. Engines are known by their number and
are never taken away, so that a record of them stays readable.
-/

namespace Stencil

/-- A request to a factory, and the engine it gave. -/
structure Making where
  factory : Nat
  engine : Option Nat
  deriving DecidableEq, Repr

structure Host (ε : Type) where
  files : FileSystem
  engines : List ε := []
  makings : List Making := []
  /-- How many handles share each lease. -/
  handles : List Nat := []
  journal : List Entry := []

/-- What a render call runs in. Clones of a context share its number and its lease, by which they are
counted. Both are given out together. -/
structure RenderContext where
  id : Nat
  name : Option String
  lease : Nat
  leased : lease = id
  deriving Repr

def RenderContext.new (number : Nat) (name : Option String) : RenderContext :=
  ⟨number, name, number, rfl⟩

namespace Host

variable {ε : Type}

def report (host : Host ε) (event : Event) : Host ε :=
  { host with journal := host.journal ++ [.reported event] }

def lookUp (host : Host ε) (location : String) : Host ε :=
  { host with journal := host.journal ++ [.lookedUp location] }

def events (host : Host ε) : List Event :=
  host.journal.filterMap Entry.event?

/-- The locations of scripts that were looked up, in their order. -/
def lookups (host : Host ε) : List String :=
  host.journal.filterMap Entry.script?

/-! ### Contexts -/

def openContext (host : Host ε) (name : Option String) : RenderContext × Host ε :=
  (.new host.handles.length name, { host with handles := host.handles ++ [1] })

def cloneContext (host : Host ε) (context : RenderContext) : Host ε :=
  { host with handles := host.handles.modify context.lease (fun count => count + 1) }

def dropContext (host : Host ε) (context : RenderContext) : Host ε :=
  { host with handles := host.handles.modify context.lease (fun count => count - 1) }

/-- Whether a lease is shared by a handle still. -/
def isLive (host : Host ε) (lease : Nat) : Bool :=
  0 < host.handles.getD lease 0

/-! ### Engines -/

def requests (host : Host ε) (factory : Nat) : Nat :=
  host.makings.countP (fun making => making.factory = factory)

def madeBy (host : Host ε) (factory : Nat) : List Nat :=
  (host.makings.filter (fun making => making.factory = factory)).filterMap Making.engine

variable [ScriptEngine ε]

def adopt (host : Host ε) (engine : ε) : EngineHandle × Host ε :=
  (⟨host.engines.length, ScriptEngine.name engine⟩,
    { host with engines := host.engines ++ [engine] })

def make (host : Host ε) (factory : Factory ε) : Except ScriptError EngineHandle × Host ε :=
  match factory.make (host.requests factory.id) with
  | .error fault => (.error fault, { host with makings := host.makings ++ [⟨factory.id, none⟩] })
  | .ok engine =>
      let adopted := host.adopt engine
      (.ok adopted.1,
        { adopted.2 with makings := adopted.2.makings ++ [⟨factory.id, some adopted.1.id⟩] })

/-- Asks the factory of a name for an engine, if there is such a factory. -/
def makeNamed (host : Host ε) (registry : Registry ε) (name : String) :
    Option (Except ScriptError EngineHandle × Host ε) :=
  (registry.find? name).map host.make

def command {α : Type} (host : Host ε) (engine : EngineHandle) (run : ε → Reply ε α) :
    Except ScriptError α × Host ε :=
  match host.engines[engine.id]? with
  | none => (.error (.unavailable "no such engine"), host)
  | some state =>
      let reply := run state
      (reply.answer,
        { host with
          engines := host.engines.set engine.id reply.engine
          journal := host.journal
            ++ reply.console.map (fun line => .reported (.console line.1 line.2)) })

def eval (host : Host ε) (engine : EngineHandle) (source : String) (origin : Option String) :
    Except ScriptError Unit × Host ε :=
  host.command engine (fun state => ScriptEngine.eval state source origin)

def callFunction (host : Host ε) (engine : EngineHandle) (name : String) (arguments : List Json) :
    Except ScriptError String × Host ε :=
  host.command engine (fun state => ScriptEngine.callFunction state name arguments)

def callMethod (host : Host ε) (engine : EngineHandle) (receiver name : String)
    (arguments : List Json) : Except ScriptError String × Host ε :=
  host.command engine (fun state => ScriptEngine.callMethod state receiver name arguments)

end Host

end Stencil
