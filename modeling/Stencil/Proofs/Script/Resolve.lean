import Stencil.Script.Interpreter

/-!
What names stand for outside every function. Variables and properties are looked up without a change
to the machine, so a name that is no variable of `let`, `const` or `class` is read as a property of the
global object is (`resolve_property`). A script that is the name alone has what it stands for as its
value (`runSource_name`).
-/

namespace Stencil.Script

namespace Run

variable {α β : Type} {machine after : Machine}

/-! ### Steps of a run -/

theorem bind_ok (run : Run α) (next : α → Run β) (value : α)
    (ran : run machine = .ok value after) : (run >>= next) machine = next value after := by
  change EStateM.bind run next machine = _
  unfold EStateM.bind
  rw [ran]

theorem bind_error (run : Run α) (next : α → Run β) (thrown : Thrown)
    (ran : run machine = .error thrown after) :
    (run >>= next) machine = .error thrown after := by
  change EStateM.bind run next machine = _
  unfold EStateM.bind
  rw [ran]

theorem of_bind_ok (run : Run α) (next : α → Run β) (value : β)
    (ran : (run >>= next) machine = .ok value after) :
    ∃ held between, run machine = .ok held between ∧ next held between = .ok value after := by
  cases first : run machine with
  | ok held between =>
      rw [bind_ok run next held first] at ran
      exact ⟨held, between, rfl, ran⟩
  | error thrown between =>
      rw [bind_error run next thrown first] at ran
      cases ran

theorem deeper_ok (run : Run α) (value : α) (shallow : machine.depth < depthLimit)
    (ran : run { machine with depth := machine.depth + 1 } = .ok value after) :
    deeper run machine = .ok value { after with depth := machine.depth } := by
  unfold deeper
  dsimp only
  rw [if_neg (Nat.not_le.mpr shallow), ran]

/-! ### Runs that only look -/

/-- A run that answers alike on two machines, and changes neither. -/
def Agree (machine other : Machine) (run : Run α) : Prop :=
  ∃ value, run machine = .ok value machine ∧ run other = .ok value other

theorem agree_pure (machine other : Machine) (value : α) : Agree machine other (pure value) :=
  ⟨value, rfl, rfl⟩

theorem Agree.bind {other : Machine} {run : Run α} {next : α → Run β}
    (agree : Agree machine other run) (later : ∀ value, Agree machine other (next value)) :
    Agree machine other (run >>= next) := by
  obtain ⟨held, here, there⟩ := agree
  obtain ⟨value, first, second⟩ := later held
  exact ⟨value, (bind_ok run next held here).trans first, (bind_ok run next held there).trans second⟩

theorem agree_scope (machine : Machine) (id : Nat) : Agree machine machine (scope id) :=
  ⟨_, rfl, rfl⟩

theorem agree_findVariableLoop (machine : Machine) (id : Units) (fuel : Nat) (known : Option Nat)
    (current : Nat) : Agree machine machine (findVariableLoop id fuel known current) := by
  induction fuel generalizing known current with
  | zero => exact agree_pure machine machine none
  | succ fuel ih =>
      unfold findVariableLoop
      refine (agree_scope machine current).bind fun held => ?_
      cases held.find? id known with
      | some entry => exact agree_pure machine machine _
      | none =>
          cases held.parent with
          | some parent => exact ih held.known parent
          | none => exact agree_pure machine machine _

theorem findVariable?_ok (machine : Machine) (current : Nat) (id : Units) :
    ∃ found, findVariable? current id machine = .ok found machine := by
  obtain ⟨found, same, _⟩ :=
    agree_findVariableLoop machine id (machine.scopes.size + 1) none current
  exact ⟨found, same⟩

/-- Machines with the same objects, on which linked arguments have the same values. -/
structure Alike (machine other : Machine) : Prop where
  objects : other.objects = machine.objects
  contents : ∀ (scope : Nat) (id : Units),
    (other.scopes[scope]?.bind (Scope.find? · id none)).bind Variable.value =
      (machine.scopes[scope]?.bind (Scope.find? · id none)).bind Variable.value

namespace Alike

theorem refl (machine : Machine) : Alike machine machine :=
  ⟨rfl, fun _ _ => rfl⟩

variable {other : Machine} (alike : Alike machine other)

include alike

theorem object (id : Nat) : Agree machine other (Run.object id) := by
  refine ⟨(machine.objects[id]?).getD { prototype := none }, rfl, ?_⟩
  rw [← alike.objects]
  rfl

theorem isFunction (value : Value) : Agree machine other (Run.isFunction value) := by
  cases value with
  | object id =>
      refine (alike.object id).bind fun held => ?_
      cases held.kind <;> exact agree_pure machine other _
  | _ => exact agree_pure machine other _

theorem linkedProperty? (held : Object) (key : Key) :
    Agree machine other (Run.linkedProperty? held key) := by
  unfold Run.linkedProperty?
  cases link? held key with
  | none => exact agree_pure machine other _
  | some link =>
      obtain ⟨scope, id⟩ := link
      have linked : Agree machine other (variableIn? scope id) := by
        refine ⟨_, rfl, ?_⟩
        rw [← alike.contents]
        rfl
      refine linked.bind fun value => ?_
      cases value <;> exact agree_pure machine other _

theorem ownProperty? (id : Nat) (key : Key) : Agree machine other (Run.ownProperty? id key) := by
  unfold Run.ownProperty?
  refine (alike.object id).bind fun held => ?_
  split
  · split <;> exact agree_pure machine other _
  · exact agree_pure machine other _
  · exact alike.linkedProperty? held key
  · exact agree_pure machine other _

theorem findLoop (key : Key) (fuel id : Nat) : Agree machine other (Run.findLoop key fuel id) := by
  induction fuel generalizing id with
  | zero => exact agree_pure machine other none
  | succ fuel ih =>
      unfold Run.findLoop
      refine (alike.ownProperty? id key).bind fun property => ?_
      cases property with
      | some property => exact agree_pure machine other _
      | none =>
          refine (alike.object id).bind fun held => ?_
          cases held.prototype with
          | some next => exact ih next
          | none => exact agree_pure machine other _

theorem find? (id : Nat) (key : Key) : Agree machine other (Run.find? id key) := by
  obtain ⟨found, here, there⟩ := alike.findLoop key (machine.objects.size + 1) id
  refine ⟨found, here, ?_⟩
  rw [← alike.objects] at there
  exact there

end Alike

end Run

open Run

/-! ### Names of global code -/

/-- The variable of `let`, `const` or `class` that a name stands for outside every function. -/
def lexical? (name : String) : Run (Option (Nat × Variable)) :=
  findVariable? globalScope (Units.ofString name)

/-- What a name stands for outside every function. -/
def resolve (name : String) : Run Value :=
  readVariable topRunner.call globalScope (Units.ofString name)

variable {name : String} {machine after : Machine} {value : Value}

theorem resolve_variable (resolved : resolve name machine = .ok value after) (own : Nat)
    (entry : Variable) (bound : lexical? name machine = .ok (some (own, entry)) machine) :
    entry.value = some value ∧ after = machine := by
  obtain ⟨held, between, told, rest⟩ := of_bind_ok _ _ _ resolved
  have read := (bind_ok _ _ _ bound).symm.trans told
  obtain ⟨id, content, change, escapes⟩ := entry
  cases content with
  | some content =>
      cases read
      cases rest
      exact ⟨rfl, rfl⟩
  | none => cases escapes <;> cases read

/-- A name of no variable is read as a property of the global object is. -/
theorem resolve_property (resolved : resolve name machine = .ok value after)
    (unbound : lexical? name machine = .ok none machine) :
    getOf topRunner.call globalObject (.ofString name) machine = .ok value after := by
  obtain ⟨held, between, told, rest⟩ := of_bind_ok _ _ _ resolved
  have read := (bind_ok _ _ _ unbound).symm.trans told
  obtain ⟨found, same, _⟩ := (Alike.refl machine).find? globalObject (.ofString name)
  have reached := (bind_ok _ _ _ same).symm.trans read
  cases found with
  | none =>
      cases reached
      cases rest
  | some place =>
      obtain ⟨owner, property⟩ := place
      obtain ⟨got, last, gave, ended⟩ := of_bind_ok _ _ _ reached
      cases ended
      cases rest
      exact (bind_ok _ _ _ same).trans gave

/-! ### Scripts that are a name -/

/-- What a name stands for without a getter: the value of a variable, or else of a property. -/
inductive Binds (machine : Machine) (name : String) (value : Value) : Prop where
  | lexical (own : Nat) (entry : Variable)
      (bound : lexical? name machine = .ok (some (own, entry)) machine)
      (content : entry.value = some value)
  | global (owner : Nat) (property : Property) (writable : Bool)
      (unbound : lexical? name machine = .ok none machine)
      (found : find? globalObject (.ofString name) machine = .ok (some (owner, property)) machine)
      (content : property.slot = .value value writable)

theorem readVariable_variable (call : Caller) (current : Nat) (id : Units) (own : Nat)
    (entry : Variable) (found : findVariable? current id machine = .ok (some (own, entry)) machine)
    (content : entry.value = some value) :
    readVariable call current id machine = .ok value machine := by
  obtain ⟨name, held, change, escapes⟩ := entry
  cases content
  have told : valueOf? call current id machine = .ok (some value) machine := bind_ok _ _ _ found
  exact bind_ok _ _ _ told

theorem readVariable_property (call : Caller) (current : Nat) (id : Units) (owner : Nat)
    (property : Property) (writable : Bool)
    (unbound : findVariable? current id machine = .ok none machine)
    (found : find? globalObject (.ofUnits id) machine = .ok (some (owner, property)) machine)
    (content : property.slot = .value value writable) :
    readVariable call current id machine = .ok value machine := by
  obtain ⟨slot, enumerable, configurable⟩ := property
  cases content
  have told : valueOf? call current id machine = .ok (some value) machine :=
    (bind_ok _ _ _ unbound).trans (bind_ok _ _ _ found)
  exact bind_ok _ _ _ told

theorem Binds.resolve (binds : Binds machine name value) :
    resolve name machine = .ok value machine := by
  cases binds with
  | lexical own entry bound content => exact readVariable_variable _ _ _ own entry bound content
  | global owner property writable unbound found content =>
      exact readVariable_property _ _ _ owner property writable unbound found content

/-! The scope of a script that declares nothing sees what the global scope holds. -/

/-- The statements of a script that is a name and nothing else. -/
def nameAlone (id : Units) : List Stmt :=
  [.expression (.target (.name id))]

/-- The global scope is there, and no scope is around it. -/
def Rooted (machine : Machine) : Prop :=
  ∃ held, machine.scopes[globalScope]? = some held ∧ held.parent = none

/-- The machine with a scope for a script that declares nothing. -/
def opened (machine : Machine) : Machine :=
  { machine with
    scopes := machine.scopes.push
      { parent := some globalScope
        known := some ((machine.scopes[globalScope]?).getD { parent := none }).bindings.size } }

def inScript (machine : Machine) : Machine :=
  { opened machine with depth := machine.depth + 1, result := .undefined }

theorem find?_empty (parent known : Option Nat) (id : Units) :
    ({ parent := parent, known := known } : Scope).find? id none = none := by
  simp [Scope.find?, Scope.placeOf?]

theorem alike_inScript (machine : Machine) : Alike machine (inScript machine) where
  objects := rfl
  contents := by
    intro own id
    unfold inScript opened
    dsimp only
    rw [Array.getElem?_push]
    split
    · next newest =>
        rw [newest, Array.getElem?_eq_none (Nat.le_refl _), Option.bind_some, find?_empty]
        rfl
    · rfl

theorem openScript_name (machine : Machine) (strict : Bool) (captured : Captured) (id : Units) :
    Runner.openScript ⟨strict, nameAlone id, captured⟩ machine =
      .ok ⟨machine.scopes.size, captured, strict, true⟩ (opened machine) :=
  rfl

theorem scope_ok (machine : Machine) (id : Nat) (held : Scope)
    (there : machine.scopes[id]? = some held) : scope id machine = .ok held machine := by
  change EStateM.Result.ok ((machine.scopes[id]?).getD { parent := none }) machine = _
  rw [there]
  rfl

theorem find?_known (held : Scope) (id : Units) :
    held.find? id (some held.bindings.size) = held.find? id none := by
  unfold Scope.find?
  cases placed : held.placeOf? id with
  | none => rfl
  | some place =>
      have inside : place < held.bindings.size := by
        unfold Scope.placeOf? at placed
        exact (Array.findIdx?_eq_some_iff_getElem.mp placed).1
      simp [inside]

theorem findVariableLoop_root (machine : Machine) (held : Scope)
    (there : machine.scopes[globalScope]? = some held) (root : held.parent = none) (id : Units)
    (fuel : Nat) (known : Option Nat) :
    findVariableLoop id (fuel + 1) known globalScope machine =
      .ok ((held.find? id known).map (fun entry => (globalScope, entry))) machine := by
  have entered := scope_ok machine globalScope held there
  refine (bind_ok _ _ held entered).trans ?_
  rw [root]
  cases held.find? id known <;> rfl

theorem findVariable?_inScript (rooted : Rooted machine) (id : Units)
    (found : Option (Nat × Variable))
    (told : findVariable? globalScope id machine = .ok found machine) :
    findVariable? machine.scopes.size id (inScript machine) = .ok found (inScript machine) := by
  obtain ⟨held, there, root⟩ := rooted
  have outside : findVariable? globalScope id machine =
      .ok ((held.find? id none).map (fun entry => (globalScope, entry))) machine :=
    findVariableLoop_root machine held there root id machine.scopes.size none
  rw [outside] at told
  have newest : (inScript machine).scopes[machine.scopes.size]? =
      some { parent := some globalScope, known := some held.bindings.size } := by
    unfold inScript opened
    dsimp only
    rw [there, Array.getElem?_push_size]
    rfl
  have same : (inScript machine).scopes[globalScope]? = some held := by
    have inside := (Array.getElem?_eq_some_iff.mp there).1
    unfold inScript opened
    dsimp only
    rw [Array.getElem?_push, if_neg (Nat.ne_of_lt inside), there]
  have size : (inScript machine).scopes.size = machine.scopes.size + 1 := Array.size_push _
  -- The scope of the script has no variable itself, and knows all that the global scope has by now.
  have looped : findVariableLoop id (machine.scopes.size + 2) none machine.scopes.size
      (inScript machine) =
        .ok ((held.find? id none).map (fun entry => (globalScope, entry))) (inScript machine) := by
    rw [← find?_known]
    refine (bind_ok _ _ _ (scope_ok _ _ _ newest)).trans ?_
    rw [find?_empty]
    exact findVariableLoop_root _ held same root id machine.scopes.size (some held.bindings.size)
  cases told
  exact (congrArg (fun count => findVariableLoop id (count + 1) none machine.scopes.size
    (inScript machine)) size).trans looped

theorem runStatements_name (depth : Nat) (frame : Frame) (id : Units)
    (records : frame.records = true) (shallow : machine.depth < depthLimit)
    (read : readVariable (runner depth).call frame.scope id (inScript machine) =
      .ok value (inScript machine)) :
    (runner (depth + 2)).runStatements frame (nameAlone id) (opened machine) =
      .ok value { opened machine with result := .undefined } := by
  obtain ⟨own, captured, strict, _⟩ := frame
  cases records
  have executed : (runner (depth + 2)).exec ⟨own, captured, strict, true⟩
      (.expression (.target (.name id))) (inScript machine) =
        .ok .normal { inScript machine with result := value } :=
    bind_ok _ _ value read
  have listed : Runner.execList (runner (depth + 2)) ⟨own, captured, strict, true⟩ (nameAlone id)
      (inScript machine) = .ok .normal { inScript machine with result := value } :=
    bind_ok _ _ _ executed
  have body : (do
      setResult .undefined
      let _ ← Runner.execList (runner (depth + 2)) ⟨own, captured, strict, true⟩ (nameAlone id)
      let value ← result
      setResult .undefined
      return value : Run Value) { opened machine with depth := machine.depth + 1 } =
        .ok value (inScript machine) :=
    bind_ok _ _ _ listed
  have room : (opened machine).depth < depthLimit := shallow
  exact deeper_ok _ value room body

/-- A script that is a name has as its value what the name stands for outside every function. -/
theorem runSource_name (rooted : Rooted machine) (shallow : machine.depth < depthLimit)
    (source : Source) (parsed : Source.ofText? name = some source)
    (alone : source.body = nameAlone (Units.ofString name)) (binds : Binds machine name value) :
    resolve name machine = .ok value machine ∧
      ∃ last, topRunner.runSource name machine = .ok value last := by
  refine ⟨binds.resolve, ?_⟩
  obtain ⟨strict, body, captured⟩ := source
  cases alone
  have read : readVariable (runner (nesting - 2)).call machine.scopes.size (Units.ofString name)
      (inScript machine) = .ok value (inScript machine) := by
    cases binds with
    | lexical own entry bound content =>
        exact readVariable_variable _ _ _ own entry
          (findVariable?_inScript rooted _ _ bound) content
    | global owner property writable unbound found content =>
        obtain ⟨place, here, there⟩ :=
          (alike_inScript machine).find? globalObject (.ofString name)
        rw [found] at here
        cases here
        exact readVariable_property _ _ _ owner property writable
          (findVariable?_inScript rooted _ _ unbound) there content
  have ran := runStatements_name (nesting - 2) ⟨machine.scopes.size, captured, strict, true⟩ _ rfl
    shallow read
  refine ⟨{ opened machine with result := .undefined }, ?_⟩
  unfold Runner.runSource
  simp only [parsed]
  exact (bind_ok _ _ _ (openScript_name machine strict captured _)).trans ran

end Stencil.Script
