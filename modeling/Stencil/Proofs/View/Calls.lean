import Stencil.Proofs.Engine.Supply
import Stencil.Proofs.Json.Members
import Stencil.Proofs.Machine
import Stencil.Proofs.View.Plan
import Stencil.Proofs.View.Recorders
import Stencil.Proofs.View.Sinks

/-!
The calls that a view makes, read off recorders. Over every run, in which files change and contexts
come and go, a render that is answered makes one call, on the engine of its context, with the template
as it is at that moment and the model; a render that fails makes none, and no engine that is there is
given a source again.
-/

namespace Stencil

/-! ### Engines for recorders -/

namespace Provider

def Uncalled (provider : Provider Recorder) : Prop :=
  match provider.mode with
  | .shared _ => True
  | .perContext factory _ => factory.Uncalled

/-- The engines of a provider are there, and those that it makes were not called yet. -/
structure Staffed (provider : Provider Recorder) (engines : List Recorder) : Prop where
  entered : ∀ engine ∈ provider.engines, engine.id < engines.length
  uncalled : provider.Uncalled

/-- The engine that a context has afterwards is the one it had, or else the newest. -/
structure Serves (provider after : Provider Recorder) (context : Nat) (host : Host Recorder)
    (engine : EngineHandle) : Prop where
  own : after.engineOf? context = some engine
  chosen : provider.engineOf? context = some engine ∨
    provider.engineOf? context = none ∧ engine.id = host.engines.length

/-- What becomes of a request for an engine: recorders may join that were not called, and an answer is
the engine of the context. -/
structure Lent (provider : Provider Recorder) (context : Nat) (host : Host Recorder)
    (answer : Except ViewError EngineHandle) (after : Provider Recorder) (last : Host Recorder) :
    Prop where
  staffed : after.Staffed last.engines
  joined : Recorder.Joined host.engines last.engines
  serves : ∀ engine, answer = .ok engine →
    Serves provider after context host engine ∧ engine ∈ after.engines

theorem Staffed.lent {provider : Provider Recorder} {host : Host Recorder}
    (staffed : provider.Staffed host.engines) (context : RenderContext) :
    Lent provider context.id host (provider.engine context host).1
      (provider.engine context host).2.1 (provider.engine context host).2.2 := by
  have request := provider.engine_request context host
  rcases served : provider.engine context host with ⟨answer, after, last⟩
  rw [served] at request
  cases request with
  | kept _ engine own =>
      refine ⟨staffed, .refl _, ?_⟩
      intro other answered
      rw [← Except.ok.inj answered]
      exact ⟨⟨own, Or.inl own⟩, mem_engines_of_engineOf? _ own⟩
  | failed bootstrap factory held fault half noted absent attempted =>
      have fresh := bootstrap.attempt_uncalled factory staffed.uncalled host.files
        (host.requests factory.id)
      rw [attempted] at fresh
      have joined := Recorder.Joined.of_option host.engines half fresh
      refine ⟨⟨?_, staffed.uncalled⟩, joined, nofun⟩
      intro engine member
      exact Nat.lt_of_lt_of_le (staffed.entered engine (mem_engines_of_live member))
        joined.length_le
  | made bootstrap factory held name state noted absent attempted =>
      have fresh := bootstrap.attempt_uncalled factory staffed.uncalled host.files
        (host.requests factory.id)
      rw [attempted] at fresh
      have joined := Recorder.Joined.of_option host.engines (some state) fresh
      refine ⟨⟨?_, staffed.uncalled⟩, joined, ?_⟩
      · intro engine member
        rcases mem_engines_of_added member with before | newest
        · exact Nat.lt_of_lt_of_le (staffed.entered engine before) joined.length_le
        · rw [newest]
          change host.engines.length < (host.engines ++ [state]).length
          rw [List.length_append]
          exact Nat.lt_succ_self _
      · intro engine answered
        rw [← Except.ok.inj answered]
        have own : (lending bootstrap factory
            (live host held ++ [⟨context.id, ⟨host.engines.length, name⟩, context.lease,
              context.leased⟩])).engineOf? context.id = some ⟨host.engines.length, name⟩ := by
          unfold engineOf? lending
          dsimp only
          rw [kept_append, kept_live_eq_none host held context.id absent, Option.none_or]
          simp [kept]
        exact ⟨⟨own, Or.inr ⟨absent, rfl⟩⟩, mem_engines_of_engineOf? _ own⟩

theorem Staffed.release {provider : Provider Recorder} {engines : List Recorder}
    (staffed : provider.Staffed engines) (context : RenderContext) :
    (provider.release context).2.Staffed engines where
  entered engine member :=
    staffed.entered engine (provider.mem_engines_of_release context engine member)
  uncalled := by
    have uncalled := staffed.uncalled
    obtain ⟨bootstrap, mode⟩ := provider
    cases mode <;> exact uncalled

theorem Staffed.purge {provider : Provider Recorder} {host : Host Recorder}
    (staffed : provider.Staffed host.engines) :
    (provider.purge host).2.1.Staffed (provider.purge host).2.2.engines where
  entered engine member := by
    rw [provider.purge_engines]
    exact staffed.entered engine (provider.mem_engines_of_purge host engine member)
  uncalled := by
    have uncalled := staffed.uncalled
    obtain ⟨bootstrap, mode⟩ := provider
    cases mode <;> exact uncalled

end Provider

namespace View

/-! ### Renders over recorders -/

/-- A template that was read is what the charset makes of the octets at the address. -/
theorem template_eq_ok {ε : Type} (view : View ε) (files : FileSystem) (text : String)
    (read : view.template files = .ok text) :
    ∃ content, (view.loader.get files view.url).exists? files = true ∧
      (view.loader.get files view.url).read files = .ok content ∧
      text = view.settings.charset.decodeString content := by
  unfold template Resource.readText at read
  cases present : (view.loader.get files view.url).exists? files with
  | false => simp [present] at read
  | true =>
      cases held : (view.loader.get files view.url).read files with
      | error cause => simp [present, held] at read
      | ok content =>
          simp only [present, held, ↓reduceIte, Except.ok.injEq] at read
          exact ⟨content, rfl, rfl, read.symm⟩

/-- All that a render does to recorders. One that fails leaves them as they are, though some may have
joined; one that is answered is one call on the engine of its context. -/
inductive Calls (view : View Recorder) (context : Nat) (model : List (String × Json))
    (host : Host Recorder) (after : Provider Recorder) (engines : List Recorder) :
    Except ViewError String → Prop where
  | failed (fault : ViewError) (joined : Recorder.Joined host.engines engines) :
      Calls view context model host after engines (.error fault)
  | made (text : String) (engine : EngineHandle) (content : Bytes) (met : List Recorder)
      (recorder : Recorder) (serves : view.provider.Serves after context host engine)
      (present : (view.loader.get host.files view.url).exists? host.files = true)
      (read : (view.loader.get host.files view.url).read host.files = .ok content)
      (joined : Recorder.Joined host.engines met) (found : met[engine.id]? = some recorder)
      (called : engines = met.set engine.id
        { recorder with
          invocations := recorder.invocations ++
            [⟨view.settings.renderObject, view.settings.renderFunction,
              [.string (view.settings.charset.decodeString content), .ofMembers model]⟩] }) :
      Calls view context model host after engines (.ok text)

theorem renderText_calls (view : View Recorder) (context : RenderContext)
    (model : List (String × Json)) (host : Host Recorder)
    (staffed : view.provider.Staffed host.engines) :
    Calls view context.id model host (view.renderText context model host).view.provider
        (view.renderText context model host).host.engines
        (view.renderText context model host).answer ∧
      (view.renderText context model host).view.provider.Staffed
        (view.renderText context model host).host.engines := by
  cases template : view.template host.files with
  | error fault =>
      rw [view.renderText_unread context model host fault template]
      exact ⟨.failed _ (.refl _), staffed⟩
  | ok text =>
      have lent := staffed.lent context
      rcases served : view.provider.engine context host with ⟨answer, provider, last⟩
      rw [served] at lent
      cases answer with
      | error fault =>
          rw [view.renderText_unserved context model host last text provider fault template served]
          exact ⟨.failed _ lent.joined, lent.staffed⟩
      | ok engine =>
          obtain ⟨own, member⟩ := lent.serves engine rfl
          have inside : engine.id < last.engines.length := lent.staffed.entered engine member
          obtain ⟨recorder, found⟩ : ∃ recorder, last.engines[engine.id]? = some recorder :=
            ⟨_, List.getElem?_eq_getElem inside⟩
          obtain ⟨noted, rendered⟩ := view.renderText_served context model host last text provider
            engine recorder template served found
          have kept := Recorder.invoke_engine view.settings recorder
            [.string text, .ofMembers model]
          rw [rendered]
          refine ⟨?_, ?_⟩
          · dsimp only [Host.withEngine_engines]
            rw [kept]
            cases (invoke view.settings recorder [.string text, .ofMembers model]).answer with
            | error cause =>
                refine .failed _ ?_
                rw [← (List.getElem?_eq_some_iff.mp found).2, List.set_getElem_self]
                exact lent.joined
            | ok out =>
                obtain ⟨content, present, read, decoded⟩ := view.template_eq_ok host.files text template
                exact .made out engine content last.engines recorder own present read lent.joined
                  found (by rw [decoded])
          · refine ⟨?_, lent.staffed.uncalled⟩
            intro other held
            rw [Host.withEngine_engines, List.length_set]
            exact lent.staffed.entered other held

end View

/-- A view over recorders is built with all its engines there, and lends only ones that were not
called. -/
theorem ViewBuilder.build_staffed {builder : ViewBuilder} {environment : Environment Recorder}
    {host last : Host Recorder} {view : View Recorder}
    (uncalled : ∀ name factory, environment.registry.find? name = some factory → factory.Uncalled)
    (supplied : ∀ resolved engine, builder.Resolves environment resolved →
      resolved.engine = .instance engine → engine.id < host.engines.length)
    (built : builder.build environment host = (.ok view, last)) :
    view.provider.Staffed last.engines := by
  cases planned : builder.plan environment host.files with
  | error fault =>
      unfold build at built
      rw [planned] at built
      cases built
  | ok plan =>
      have settled := ((plan_eq_ok_iff _ _ _ _).mp planned).2.1
      -- The view that a shared engine is in: the engine is there, whatever the scripts did to it.
      have shared : ∀ (engine : EngineHandle) (passed : Except ViewError Unit) (after : Host Recorder),
          builder.build environment host =
            (passed.map (fun _ => plan.view ⟨plan.bootstrap, .shared engine⟩), after) →
          engine.id < after.engines.length → view.provider.Staffed last.engines := by
        intro engine passed after came inside
        rw [built, Prod.mk.injEq] at came
        cases passed with
        | error fault => exact absurd came.1 nofun
        | ok done =>
            rw [Except.ok.inj came.1, came.2]
            refine ⟨?_, trivial⟩
            intro own member
            rw [List.mem_singleton.mp member]
            exact inside
      cases source : plan.settings.engine with
      | «instance» engine =>
          have inside := supplied plan.settings engine settled source
          obtain ⟨noted, came⟩ := build_instance planned engine source _
            (List.getElem?_eq_getElem inside)
          refine shared engine _ _ came ?_
          rw [Host.withEngine_engines, List.length_set]
          exact inside
      | named name =>
          cases known : environment.registry.find? name with
          | none =>
              rw [build_unknown planned source known] at built
              cases built
          | some factory =>
              cases sharing : plan.settings.isShared with
              | false =>
                  rw [build_lent planned source known sharing, Prod.mk.injEq] at built
                  rw [← Except.ok.inj built.1]
                  exact ⟨nofun, uncalled name factory known⟩
              | true =>
                  cases made : factory.make (host.requests factory.id) with
                  | error cause =>
                      have came := build_unmade planned source known sharing cause made
                      rw [built] at came
                      cases came
                  | ok fresh =>
                      obtain ⟨noted, came⟩ := build_made planned source known sharing fresh made
                      refine shared _ _ _ came ?_
                      simp

end Stencil
