import Stencil.Engine.Bootstrap

/-!
Which engine a render call uses. A shared provider has one engine for every context. A provider per
context makes and bootstraps an engine when a context first asks, and keeps it until the context is
released; engines of contexts without handles go when the next engine is made, or in a purge.
-/

namespace Stencil

/-- The engine kept for a context, with the lease of the context. -/
structure Held where
  context : Nat
  engine : EngineHandle
  lease : Nat := context
  leased : lease = context := by exact rfl
  deriving DecidableEq, Repr

inductive Provider.Mode (ε : Type) where
  | shared (engine : EngineHandle)
  | perContext (factory : Factory ε) (held : List Held)

structure Provider (ε : Type) where
  bootstrap : Bootstrap
  mode : Provider.Mode ε

namespace Provider

variable {ε : Type}

def isShared (provider : Provider ε) : Bool :=
  match provider.mode with
  | .shared _ => true
  | .perContext .. => false

def held (provider : Provider ε) : List Held :=
  match provider.mode with
  | .shared _ => []
  | .perContext _ held => held

def count (provider : Provider ε) (host : Host ε) : Nat :=
  match provider.mode with
  | .shared _ => 1
  | .perContext _ held => held.countP (fun entry => host.isLive entry.lease)

/-- Lets go of the engine of a context, and tells whether there was one. -/
def release (provider : Provider ε) (context : RenderContext) : Bool × Provider ε :=
  match provider.mode with
  | .shared _ => (false, provider)
  | .perContext factory held =>
      (held.any (fun entry => entry.context = context.id),
        { provider with
          mode := .perContext factory (held.filter (fun entry => entry.context != context.id)) })

/-- The entries whose lease is shared by a handle still. -/
def live (host : Host ε) (held : List Held) : List Held :=
  held.filter (fun entry => host.isLive entry.lease)

def reportReclaimed (host : Host ε) (count : Nat) : Host ε :=
  if 0 < count then host.report (.enginesReclaimed count) else host

/-- Lets go of the engines of contexts without handles, and tells how many there were. -/
def purge (provider : Provider ε) (host : Host ε) : Nat × Provider ε × Host ε :=
  match provider.mode with
  | .shared _ => (0, provider, host)
  | .perContext factory held =>
      let kept := live host held
      let gone := held.length - kept.length
      (gone, { provider with mode := .perContext factory kept }, reportReclaimed host gone)

variable [ScriptEngine ε]

/-- A provider of one engine, into which the scripts are run now. -/
def shared (engine : EngineHandle) (bootstrap : Bootstrap) (host : Host ε) :
    Except ViewError (Provider ε) × Host ε :=
  match bootstrap.load engine host with
  | (.error fault, host) => (.error fault, host)
  | (.ok _, host) => (.ok ⟨bootstrap, .shared engine⟩, host)

/-- A provider that makes engines as contexts ask for them. -/
def perContext (factory : Factory ε) (bootstrap : Bootstrap) : Provider ε :=
  ⟨bootstrap, .perContext factory []⟩

def prepare (factory : Factory ε) (bootstrap : Bootstrap) (host : Host ε) :
    Except ViewError EngineHandle × Host ε :=
  match host.make factory with
  | (.error cause, host) => (.error (.configuration (.engine factory.name cause)), host)
  | (.ok engine, host) =>
      match bootstrap.load engine (host.report (.engineCreated factory.name)) with
      | (.error fault, host) => (.error fault, host)
      | (.ok _, host) => (.ok engine, host)

def engine (provider : Provider ε) (context : RenderContext) (host : Host ε) :
    Except ViewError EngineHandle × Provider ε × Host ε :=
  match provider.mode with
  | .shared engine => (.ok engine, provider, host)
  | .perContext factory held =>
      match held.find? (fun entry => entry.context = context.id) with
      | some entry => (.ok entry.engine, provider, host)
      | none =>
          let (_, purged, host) := provider.purge host
          match prepare factory provider.bootstrap host with
          | (.error fault, host) => (.error fault, purged, host)
          | (.ok engine, host) =>
              let entry : Held := ⟨context.id, engine, context.lease, context.leased⟩
              (.ok engine, { purged with mode := .perContext factory (purged.held ++ [entry]) },
                host.report (.contextEngineCreated (context.name.getD "")))

end Provider

end Stencil
