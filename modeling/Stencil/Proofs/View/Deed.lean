import Stencil.Proofs.Engine.Supply
import Stencil.Proofs.View.Render

/-!
What a view does to engines. `View.Deed` says it once for every operation of a view: it leaves the
engines alone, calls one that it has, makes one and runs the scripts into it before any call, or spoils
one that it then keeps out of use.
-/

namespace Stencil

namespace View

variable {ε : Type}

/-- The bootstrap that the settings of a view ask for. -/
def bootstrap (view : View ε) : Bootstrap :=
  ⟨view.settings.scripts, view.loader, view.settings.charset⟩

/-- The provider runs the scripts of the view, into engines that come without a log. -/
structure Ready (view : View (Logged ε)) : Prop where
  scripts : view.provider.bootstrap = view.bootstrap
  fresh : view.provider.Fresh

/-- What an operation of a view does to engines, and which one it answers with. -/
inductive Deed (view after : View (Logged ε)) (files : FileSystem) (engines last : List (Logged ε))
    (returned : Option EngineHandle) : Prop where
  | idle (still : last = engines)
      (entries : ∀ other ∈ after.provider.engines, other ∈ view.provider.engines)
      (silent : returned = none)
  | used (engine : EngineHandle) (calls : List Exchange) (member : engine ∈ view.provider.engines)
      (calling : ∀ exchange ∈ calls, exchange.isCall = true)
      (gain : Gain engines last engine.id calls) (count : last.length = engines.length)
      (entries : ∀ other ∈ after.provider.engines, other ∈ view.provider.engines)
      (returns : ∀ other, returned = some other → other = engine)
  | made (engine : EngineHandle) (block calls : List Exchange)
      (newest : engine.id = engines.length)
      (ran : Bootstrap.Ran view.bootstrap files view.bootstrap.scripts block (.ok ()))
      (calling : ∀ exchange ∈ calls, exchange.isCall = true)
      (gain : Gain engines last engine.id (block ++ calls))
      (count : last.length = engines.length + 1)
      (entries : ∀ other ∈ after.provider.engines,
        other ∈ view.provider.engines ∨ other = engine)
      (returns : ∀ other, returned = some other → other = engine)
  | spoilt (block : List Exchange) (fault : ViewError)
      (ran : Bootstrap.Ran view.bootstrap files view.bootstrap.scripts block (.error fault))
      (gain : Gain engines last engines.length block) (count : last.length = engines.length + 1)
      (entries : ∀ other ∈ after.provider.engines, other ∈ view.provider.engines)
      (silent : returned = none)

theorem Deed.call {view after : View (Logged ε)} {files : FileSystem}
    {engines last : List (Logged ε)} (engine : EngineHandle)
    (deed : Deed view after files engines last (some engine)) (state next : Logged ε)
    (found : last[engine.id]? = some state) (exchange : Exchange)
    (calls : exchange.isCall = true) (added : next.log = state.log ++ [exchange]) :
    Deed view after files engines (last.set engine.id next) none := by
  have called := Gain.set last engine.id state next found [exchange] added
  have calling : ∀ before : List Exchange, (∀ other ∈ before, other.isCall = true) →
      ∀ other ∈ before ++ [exchange], other.isCall = true := by
    intro before all other member
    rcases List.mem_append.mp member with old | new
    · exact all other old
    · rw [List.mem_singleton.mp new]
      exact calls
  cases deed with
  | idle still entries silent => cases silent
  | used own before member all gain count entries returns =>
      rw [returns engine rfl] at called ⊢
      exact .used own (before ++ [exchange]) member (calling before all) (gain.trans called)
        (by rw [List.length_set, count]) entries nofun
  | made own block before newest ran all gain count entries returns =>
      rw [returns engine rfl] at called ⊢
      refine .made own block (before ++ [exchange]) newest ran (calling before all) ?_
        (by rw [List.length_set, count]) entries nofun
      rw [← List.append_assoc]
      exact gain.trans called
  | spoilt block fault ran gain count entries silent => cases silent

variable [ScriptEngine ε]

theorem invoke_logged (settings : Resolved) (state : Logged ε) (arguments : List Json) :
    (invoke settings state arguments).engine.log = state.log ++
      [.called settings.renderObject settings.renderFunction arguments
        (invoke settings state arguments).answer] := by
  unfold invoke
  cases settings.renderObject with
  | none => rfl
  | some receiver => rfl

variable (view : View (Logged ε)) (ready : view.Ready) (context : RenderContext)
  (host : Host (Logged ε))

include ready

theorem provider_deed :
    Deed view { view with provider := (view.provider.engine context host).2.1 } host.files
      host.engines (view.provider.engine context host).2.2.engines
      (view.provider.engine context host).1.toOption := by
  have supplied := view.provider.supply ready.fresh context host
  rcases served : view.provider.engine context host with ⟨answer, provider, last⟩
  rw [served] at supplied
  cases supplied with
  | kept engine member same still =>
      dsimp only at same still
      rw [same, still]
      exact .used engine [] member nofun (Gain.refl _ _) rfl (fun _ => id)
        (fun other returned => (Option.some.inj returned).symm)
  | made engine state newest ran grown entries =>
      rw [ready.scripts] at ran
      refine .made engine state.log [] newest ran nofun ?_ ?_ entries
        (fun other returned => (Option.some.inj returned).symm)
      · rw [List.append_nil, newest, grown]
        exact Gain.append _ _
      · rw [grown, List.length_append, List.length_singleton]
  | spoilt fault state ran grown entries =>
      rw [ready.scripts] at ran
      refine .spoilt state.log fault ran ?_ ?_ entries rfl
      · rw [grown]
        exact Gain.append _ _
      · rw [grown, List.length_append, List.length_singleton]
  | refused fault still entries => exact .idle still entries rfl

theorem exists_answered (entered : ∀ engine ∈ view.provider.engines, engine.id < host.engines.length)
    (engine : EngineHandle) (answered : (view.provider.engine context host).1 = .ok engine) :
    ∃ state, (view.provider.engine context host).2.2.engines[engine.id]? = some state := by
  have inside : engine.id < (view.provider.engine context host).2.2.engines.length := by
    have deed := view.provider_deed ready context host
    rw [answered] at deed
    cases deed with
    | idle still entries silent => cases silent
    | used own calls member calling gain count entries returns =>
        rw [returns engine rfl, count]
        exact entered own member
    | made own block calls newest ran calling gain count entries returns =>
        rw [returns engine rfl, newest, count]
        exact Nat.lt_succ_self _
    | spoilt block fault ran gain count entries silent => cases silent
  exact ⟨_, List.getElem?_eq_getElem inside⟩

theorem renderText_deed
    (entered : ∀ engine ∈ view.provider.engines, engine.id < host.engines.length)
    (model : List (String × Json)) :
    Deed view (view.renderText context model host).view host.files host.engines
      (view.renderText context model host).host.engines none := by
  cases read : view.template host.files with
  | error fault =>
      rw [view.renderText_unread context model host fault read]
      exact .idle rfl (fun _ => id) rfl
  | ok text =>
      have deed := view.provider_deed ready context host
      have answered := view.exists_answered ready context host entered
      rcases served : view.provider.engine context host with ⟨answer, provider, last⟩
      rw [served] at deed answered
      cases answer with
      | error fault =>
          rw [view.renderText_unserved context model host last text provider fault read served]
          exact deed
      | ok engine =>
          obtain ⟨state, found⟩ := answered engine rfl
          obtain ⟨noted, rendered⟩ := view.renderText_served context model host last text provider
            engine state read served found
          rw [rendered]
          exact deed.call engine state _ found _ rfl (invoke_logged _ _ _)

end View

end Stencil
