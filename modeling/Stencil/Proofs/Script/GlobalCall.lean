import Mathlib.Tactic.Common
import Stencil.Proofs.Script.Resolve

/-!
Calls of global functions. A function is looked for among the properties of the global object and
nowhere else. So a name that is no variable of `let`, `const` or `class` is called as what it stands
for, while the value of such a variable is not called at all (`callFunction_resolved`).
-/

namespace Stencil

namespace Script

open Run

/-- A call of a value with the receiver that a global function has. -/
def callValue (function : Value) (arguments : List Json) : Run (Except ScriptError String) := do
  answerText (← topRunner.call function .undefined (← ofItems arguments))

/-- An answer that the function was not found, or is none. -/
def IsRefusal : Except ScriptError String → Prop
  | .error (.functionNotFound _) => True
  | .error (.notCallable _) => True
  | _ => False

variable {machine after : Machine}

theorem answerText_answers (value : Value) (answer : Except ScriptError String)
    (ran : answerText value machine = .ok answer after) : ¬ IsRefusal answer := by
  obtain ⟨told, between, _, rest⟩ := of_bind_ok _ _ _ ran
  cases told with
  | ok text =>
      cases rest
      exact id
  | error thrown =>
      obtain ⟨text, last, _, ended⟩ := of_bind_ok _ _ _ rest
      cases ended
      exact id

theorem callValue_answers (function : Value) (arguments : List Json)
    (answer : Except ScriptError String)
    (ran : callValue function arguments machine = .ok answer after) : ¬ IsRefusal answer := by
  obtain ⟨items, first, _, called⟩ := of_bind_ok _ _ _ ran
  obtain ⟨value, second, _, told⟩ := of_bind_ok _ _ _ called
  exact answerText_answers value answer told

theorem callFound_function (name : String) (function : Value) (arguments : List Json)
    (callable : isFunction function machine = .ok true machine) :
    callFound name function .undefined arguments machine = callValue function arguments machine := by
  cases function with
  | object id =>
      have kept : callFound name (.object id) .undefined arguments machine =
          (if !true then return .error (.notCallable name)
            else callValue (.object id) arguments : Run (Except ScriptError String)) machine :=
        bind_ok _ _ true callable
      exact kept
  | _ => cases callable

end Script

namespace Interpreter

open Script Run

variable (interpreter : Interpreter)

theorem perform_congr {α : Type} (other : Interpreter) (lead : String)
    (run next : Run (Except ScriptError α)) (same : run interpreter.machine = next other.machine) :
    interpreter.perform lead run = other.perform lead next := by
  unfold perform
  rw [same]

theorem perform_callValue (function : Value) (arguments : List Json) :
    ¬ IsRefusal (interpreter.perform "" (callValue function arguments)).answer := by
  unfold perform
  cases ran : callValue function arguments interpreter.machine with
  | ok answer machine => exact callValue_answers function arguments answer ran
  | error thrown machine =>
      dsimp only
      split <;> exact id

/-- A name that stands for a function outside every function, in any state of an engine. If no
variable of `let`, `const` or `class` has the name, a call of it is a call of that function. If one
has, the call is one of what the global object has under the name, and not found where that is
undefined, whatever the variable holds. -/
theorem callFunction_resolved (name : String) (arguments : List Json) (value : Value)
    (after : Script.Machine) (resolved : resolve name interpreter.machine = .ok value after)
    (callable : isFunction value after = .ok true after) :
    ∃ found, lexical? name interpreter.machine = .ok found interpreter.machine ∧
      match found with
      | none =>
          interpreter.callFunction name arguments =
              (Interpreter.mk after).perform "" (callValue value arguments) ∧
            ¬ IsRefusal (interpreter.callFunction name arguments).answer
      | some (_, entry) =>
          entry.value = some value ∧
            ∀ held last,
              getOf topRunner.call globalObject (.ofString name) interpreter.machine =
                .ok held last →
              (held.isUndefined = true →
                (interpreter.callFunction name arguments).answer =
                  .error (.functionNotFound name)) ∧
              (isFunction held last = .ok true last →
                interpreter.callFunction name arguments =
                  (Interpreter.mk last).perform "" (callValue held arguments)) := by
  obtain ⟨found, told⟩ :=
    findVariable?_ok interpreter.machine globalScope (Units.ofString name)
  refine ⟨found, told, ?_⟩
  cases found with
  | none =>
      have got := resolve_property resolved told
      have called : interpreter.callFunction name arguments =
          (Interpreter.mk after).perform "" (callValue value arguments) :=
        interpreter.perform_congr _ "" _ _
          ((bind_ok _ _ value got).trans (callFound_function name value arguments callable))
      refine ⟨called, ?_⟩
      rw [called]
      exact perform_callValue _ value arguments
  | some place =>
      obtain ⟨own, entry⟩ := place
      refine ⟨(resolve_variable resolved own entry told).1, ?_⟩
      intro held last got
      refine ⟨?_, ?_⟩
      · intro undefined
        have refused : callGlobal name arguments interpreter.machine =
            .ok (.error (.functionNotFound name)) last := by
          cases held with
          | undefined => exact bind_ok _ _ _ got
          | _ => cases undefined
        unfold callFunction perform
        rw [refused]
      · intro function
        exact interpreter.perform_congr _ "" _ _
          ((bind_ok _ _ held got).trans (callFound_function name held arguments function))

/-- Whether a name stands for a function outside every function. -/
def knows (name : String) : Bool :=
  match resolve name interpreter.machine with
  | .ok value after =>
      match isFunction value after with
      | .ok answer _ => answer
      | .error _ _ => false
  | .error _ _ => false

/-- Whether a name stands for a variable of `let`, `const` or `class` outside every function. -/
def declares (name : String) : Bool :=
  match lexical? name interpreter.machine with
  | .ok found _ => found.isSome
  | .error _ _ => false

theorem resolve_of_knows (name : String) (known : interpreter.knows name = true) :
    ∃ value after, resolve name interpreter.machine = .ok value after ∧
      isFunction value after = .ok true after := by
  unfold knows at known
  cases resolved : resolve name interpreter.machine with
  | error thrown after => simp [resolved] at known
  | ok value after =>
      obtain ⟨answer, same, _⟩ := (Alike.refl after).isFunction value
      simp only [resolved, same] at known
      rw [known] at same
      exact ⟨value, after, rfl, same⟩

def greeter : Interpreter :=
  (({} : Interpreter).eval ("function greet(name) \x7b return 'Hello ' + name; \x7d " ++
    "const render = function (t) \x7b return 'hi ' + t; \x7d;") none).engine

theorem greeter_answers :
    (greeter.knows "greet" = true ∧ greeter.declares "greet" = false ∧
      (greeter.callFunction "greet" [.string "World"]).answer = .ok "Hello World") ∧
    greeter.knows "render" = true ∧
      (greeter.callMethod "(\x7b call: render \x7d)" "call" [.string "x"]).answer = .ok "hi x" ∧
      (greeter.callFunction "render" [.string "x"]).answer =
        .error (.functionNotFound "render") := by
  decide +kernel

theorem callFunction_resolved_greet :
    ∃ value after, resolve "greet" greeter.machine = .ok value after ∧
      greeter.callFunction "greet" [.string "World"] =
        (Interpreter.mk after).perform "" (callValue value [.string "World"]) ∧
      (greeter.callFunction "greet" [.string "World"]).answer = .ok "Hello World" := by
  obtain ⟨⟨known, undeclared, answered⟩, _⟩ := greeter_answers
  obtain ⟨value, after, resolved, callable⟩ := greeter.resolve_of_knows "greet" known
  obtain ⟨found, told, called⟩ :=
    greeter.callFunction_resolved "greet" [.string "World"] value after resolved callable
  unfold declares at undeclared
  rw [told] at undeclared
  cases found with
  | none => exact ⟨value, after, resolved, called.1, answered⟩
  | some place => cases undeclared

/-- A function that is the value of a constant is found by code, and not by a call of its name. -/
theorem callFunction_constant :
    greeter.knows "render" = true ∧
      (greeter.callMethod "(\x7b call: render \x7d)" "call" [.string "x"]).answer = .ok "hi x" ∧
      (greeter.callFunction "render" [.string "x"]).answer =
        .error (.functionNotFound "render") :=
  greeter_answers.2

end Interpreter

end Stencil
