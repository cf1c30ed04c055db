import Stencil.Proofs.Engine.Serving
import Stencil.Proofs.View.Render

/-!
A view at work for many contexts, and a view at work for one. A `View.Session` knows contexts by
labels, as the number of a context depends on how many were opened before it. A `View.Solo` is all that
one context ever sees of a session: how many handles it has, and the state of its engine.
-/

namespace Stencil

namespace View

/-- What is done through a handle on a context. -/
inductive Act where
  | clone
  | drop
  | render (model : List (String × Json))
  | renderText (model : List (String × Json))
  | engine
  | release

inductive Operation where
  | enter (label : Nat) (name : Option String)
  | act (label : Nat) (act : Act)
  | purge

namespace Operation

/-- The operations of a context. A purge is nobody's. -/
def concerns (label : Nat) : Operation → Bool
  | .enter other _ => other == label
  | .act other _ => other == label
  | .purge => false

end Operation

/-- An engine is answered with its name and the state it is in. -/
inductive Outcome (ε : Type) where
  | done
  /-- The label is in use already, or its context has no handle. -/
  | refused
  | rendered (answer : Except ViewError Response)
  | text (answer : Except ViewError String)
  | engine (answer : Except ViewError (String × Option ε))
  | released (found : Bool)
  | purged (count : Nat)

variable {ε : Type}

/-! ### Many contexts -/

structure Session (ε : Type) where
  view : View ε
  host : Host ε
  contexts : List (Nat × RenderContext) := []

namespace Session

variable [ScriptEngine ε]

def perform (session : Session ε) (context : RenderContext) : Act → Outcome ε × Session ε
  | .clone => (.done, { session with host := session.host.cloneContext context })
  | .drop => (.done, { session with host := session.host.dropContext context })
  | .render model =>
      let rendered := session.view.render context model session.host
      (.rendered rendered.answer, ⟨rendered.view, rendered.host, session.contexts⟩)
  | .renderText model =>
      let rendered := session.view.renderText context model session.host
      (.text rendered.answer, ⟨rendered.view, rendered.host, session.contexts⟩)
  | .engine =>
      let served := session.view.engine context session.host
      (.engine (Provider.shown served.host served.answer),
        ⟨served.view, served.host, session.contexts⟩)
  | .release =>
      let released := session.view.release context
      (.released released.1, { session with view := released.2 })

def step (session : Session ε) : Operation → Outcome ε × Session ε
  | .enter label name =>
      match session.contexts.lookup label with
      | some _ => (.refused, session)
      | none =>
          let opened := session.host.openContext name
          (.done, ⟨session.view, opened.2, (label, opened.1) :: session.contexts⟩)
  | .act label act =>
      match session.contexts.lookup label with
      | none => (.refused, session)
      | some context =>
          if session.host.isLive context.lease then session.perform context act
          else (.refused, session)
  | .purge =>
      let purged := session.view.provider.purge session.host
      (.purged purged.1, ⟨{ session.view with provider := purged.2.1 }, purged.2.2,
        session.contexts⟩)

def outcomes (session : Session ε) (operations : List Operation) :
    List (Operation × Outcome ε) :=
  Machine.outcomes step session operations

end Session

/-! ### One context -/

/-- A context that is alone with a view: its handles, and its engine under its name. -/
structure Solo (ε : Type) where
  handles : Nat
  engine : Option (String × ε)

namespace Solo

variable [ScriptEngine ε]

def obtain (view : View ε) (factory : Factory ε) (files : FileSystem) (solo : Solo ε) :
    Except ViewError (String × ε) :=
  Provider.obtained view.provider.bootstrap factory files solo.engine

def renderText (view : View ε) (factory : Factory ε) (files : FileSystem)
    (model : List (String × Json)) (solo : Solo ε) :
    Except ViewError String × Option (String × ε) :=
  match view.template files with
  | .error fault => (.error (.rendering view.url fault), solo.engine)
  | .ok template =>
      match solo.obtain view factory files with
      | .error fault => (.error (.rendering view.url fault), none)
      | .ok (name, state) =>
          let reply := invoke view.settings state [.string template, .ofMembers model]
          (answered view.url reply.answer, some (name, reply.engine))

def perform (view : View ε) (factory : Factory ε) (files : FileSystem) (solo : Solo ε) :
    Act → Outcome ε × Solo ε
  | .clone => (.done, ⟨solo.handles + 1, solo.engine⟩)
  | .drop => (.done, ⟨solo.handles - 1, if 1 < solo.handles then solo.engine else none⟩)
  | .render model =>
      let rendered := solo.renderText view factory files model
      (.rendered (rendered.1.map (respond view.settings)), ⟨solo.handles, rendered.2⟩)
  | .renderText model =>
      let rendered := solo.renderText view factory files model
      (.text rendered.1, ⟨solo.handles, rendered.2⟩)
  | .engine =>
      let obtained := solo.obtain view factory files
      (.engine (obtained.map fun engine => (engine.1, some engine.2)),
        ⟨solo.handles, obtained.toOption⟩)
  | .release => (.released solo.engine.isSome, ⟨solo.handles, none⟩)

/-- A context that may not have been entered yet. -/
def step (view : View ε) (factory : Factory ε) (files : FileSystem) (solo : Option (Solo ε)) :
    Operation → Outcome ε × Option (Solo ε)
  | .enter _ _ =>
      match solo with
      | some _ => (.refused, solo)
      | none => (.done, some ⟨1, none⟩)
  | .act _ act =>
      match solo with
      | none => (.refused, solo)
      | some held =>
          if 0 < held.handles then
            let performed := held.perform view factory files act
            (performed.1, some performed.2)
          else (.refused, solo)
  | .purge => (.purged 0, solo)

end Solo

end View

end Stencil
