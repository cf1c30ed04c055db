import Stencil.Engine.Recorder
import Stencil.Proofs.Engine.Provider
import Stencil.Proofs.View.Render

/-!
What recorders keep. A call that is answered is added to the calls of its recorder, a call that is
refused changes nothing, and sources never touch the calls. `Recorder.Joined` says that recorders
joined others, none of which was called yet.
-/

namespace Stencil

/-- The factory gives recorders that were not called yet. -/
def Factory.Uncalled (factory : Factory Recorder) : Prop :=
  ∀ request engine, factory.make request = .ok engine → engine.invocations = []

namespace Recorder

theorem factory_uncalled (id : Nat) (name : String) (aliases : List String) (callables : Callables)
    (refusal : Option String) : (factory id name aliases callables refusal).Uncalled := by
  intro request engine made
  unfold factory at made
  cases refusal with
  | some message => cases made
  | none =>
      rw [← Except.ok.inj made]

theorem eval_invocations (recorder : Recorder) (source : String) (origin : Option String) :
    (ScriptEngine.eval recorder source origin).engine.invocations = recorder.invocations := by
  change (recorder.eval source origin).engine.invocations = _
  unfold Recorder.eval
  split <;> rfl

/-- The answer of a call tells whether it was kept. -/
theorem invoke_engine (settings : Resolved) (recorder : Recorder) (arguments : List Json) :
    (View.invoke settings recorder arguments).engine =
      match (View.invoke settings recorder arguments).answer with
      | .ok _ =>
          { recorder with
            invocations := recorder.invocations ++
              [⟨settings.renderObject, settings.renderFunction, arguments⟩] }
      | .error _ => recorder := by
  unfold View.invoke
  cases settings.renderObject with
  | none =>
      dsimp only [ScriptEngine.callFunction]
      unfold Recorder.callFunction
      split <;> rfl
  | some receiver =>
      dsimp only [ScriptEngine.callMethod]
      unfold Recorder.callMethod
      split
      · rfl
      · split <;> rfl

end Recorder

theorem Bootstrap.pass_invocations (bootstrap : Bootstrap) (files : FileSystem) (state : Recorder)
    (scripts : List String) :
    (bootstrap.pass files state scripts).2.invocations = state.invocations := by
  induction scripts generalizing state with
  | nil => rfl
  | cons location rest ih =>
      cases readable : bootstrap.source files location with
      | error fault => rw [pass, readable]
      | ok text =>
          rw [bootstrap.pass_cons files state location rest text readable]
          have kept := state.eval_invocations text (some location)
          cases (ScriptEngine.eval state text (some location)).answer with
          | error cause => exact kept
          | ok done => exact (ih _).trans kept

/-- An engine that was set up, wholly or in part, was not called yet. -/
theorem Bootstrap.attempt_uncalled (bootstrap : Bootstrap) (factory : Factory Recorder)
    (uncalled : factory.Uncalled) (files : FileSystem) (request : Nat) (engine : Recorder)
    (left : (bootstrap.attempt factory files request).engine? = some engine) :
    engine.invocations = [] := by
  unfold attempt at left
  cases made : factory.make request with
  | error cause =>
      rw [made] at left
      cases left
  | ok fresh =>
      have kept := bootstrap.pass_invocations files fresh bootstrap.scripts
      rw [uncalled request fresh made] at kept
      rcases passed : bootstrap.pass files fresh bootstrap.scripts with ⟨answer, state⟩
      rw [passed] at kept
      simp only [made, passed] at left
      cases answer with
      | error fault =>
          rw [← Option.some.inj left]
          exact kept
      | ok done =>
          rw [← Option.some.inj left]
          exact kept

namespace Recorder

/-! ### The recorders of a host -/

def invocationsAt (engines : List Recorder) (id : Nat) : List Invocation :=
  (engines[id]?.map Recorder.invocations).getD []

def evaluatedAt (engines : List Recorder) (id : Nat) : List String :=
  (engines[id]?.map Recorder.evaluated).getD []

/-- There may be more recorders than before, but none of the new ones was called. -/
def Joined (before after : List Recorder) : Prop :=
  ∃ more, after = before ++ more ∧ ∀ recorder ∈ more, recorder.invocations = []

namespace Joined

theorem refl (engines : List Recorder) : Joined engines engines :=
  ⟨[], (List.append_nil engines).symm, nofun⟩

theorem of_option (engines : List Recorder) (engine : Option Recorder)
    (uncalled : ∀ recorder, engine = some recorder → recorder.invocations = []) :
    Joined engines (engines ++ engine.toList) := by
  refine ⟨engine.toList, rfl, ?_⟩
  intro recorder member
  exact uncalled recorder (Option.mem_toList.mp member)

variable {before after : List Recorder} (joined : Joined before after)

include joined

theorem length_le : before.length ≤ after.length := by
  obtain ⟨more, grown, _⟩ := joined
  rw [grown, List.length_append]
  exact Nat.le_add_right _ _

theorem invocationsAt_eq (id : Nat) : invocationsAt after id = invocationsAt before id := by
  obtain ⟨more, grown, uncalled⟩ := joined
  unfold invocationsAt
  rw [grown, List.getElem?_append]
  split
  · rfl
  · next beyond =>
      rw [List.getElem?_eq_none (Nat.le_of_not_lt beyond)]
      cases found : more[id - before.length]? with
      | none => rfl
      | some recorder => exact uncalled recorder (List.mem_of_getElem? found)

theorem evaluatedAt_eq (id : Nat) (there : id < before.length) :
    evaluatedAt after id = evaluatedAt before id := by
  obtain ⟨more, grown, _⟩ := joined
  unfold evaluatedAt
  rw [grown, List.getElem?_append_left there]

end Joined

section Set

variable (engines : List Recorder) (own : Nat) (recorder : Recorder)
  (found : engines[own]? = some recorder) (invocation : Invocation)

include found

/-- A call that is kept is kept by one recorder. -/
theorem invocationsAt_set (id : Nat) :
    invocationsAt (engines.set own
        { recorder with invocations := recorder.invocations ++ [invocation] }) id =
      invocationsAt engines id ++ if id = own then [invocation] else [] := by
  unfold invocationsAt
  by_cases same : id = own
  · subst same
    rw [List.getElem?_set_self (List.getElem?_eq_some_iff.mp found).1, found, if_pos rfl]
    rfl
  · rw [List.getElem?_set_ne (Ne.symm same), if_neg same, List.append_nil]

theorem evaluatedAt_set (id : Nat) :
    evaluatedAt (engines.set own
        { recorder with invocations := recorder.invocations ++ [invocation] }) id =
      evaluatedAt engines id := by
  unfold evaluatedAt
  by_cases same : id = own
  · subst same
    rw [List.getElem?_set_self (List.getElem?_eq_some_iff.mp found).1, found]
    rfl
  · rw [List.getElem?_set_ne (Ne.symm same)]

end Set

end Recorder

end Stencil
