import Stencil.Script.Evaluate

/-!
What statements do. A statement ends normally or leaves what surrounds it. Where it is run for its
value, the expression statement that decides it leaves its value with the machine.
-/

namespace Stencil.Script.Runner

open Run

/-! ### Declarations -/

def declareNames (frame : Frame) (scope : Nat) (names : List (Units × Bool)) : Run Unit :=
  declareUnset scope frame.captured.holds names

/-- Declares what a block declares: names without a value yet, and its functions. -/
def openBlock (frame : Frame) (body : List Stmt) : Run Frame := do
  let lexical := lexicalNames body
  let functions := declaredFunctions body
  if lexical.isEmpty && functions.isEmpty then return frame
  let scope ← newScope frame.scope none
  let inner := { frame with scope := scope }
  declareNames frame scope lexical
  for code in functions do
    declare scope ⟨code.id, some (← functionValue inner code), .free, true⟩
  return inner

def giveFirst (r : Runner) (frame : Frame) (kind : BindingKind) (id : Units) (value : Value) :
    Run Unit :=
  match kind with
  | .var => writeVariable r.call frame.scope frame.strict id value
  | _ => settleNearest frame.scope id value

def declareAll (r : Runner) (frame : Frame) (kind : BindingKind)
    (bindings : List (Units × Option Expr)) : Run Unit :=
  bindings.forM fun (id, value) => do
    match value with
    | some value => giveFirst r frame kind id (← r.eval frame value)
    | none => if kind = .letKind then settleNearest frame.scope id .undefined

/-! ### Lists of statements -/

/-- Runs statements one after the other; the one at the given place may be run for its value. -/
def execFrom (r : Runner) (frame : Frame) (valued : Nat) : Nat → List Stmt → Run Completion
  | _, [] => return .normal
  | place, statement :: rest => do
      match ← r.exec { frame with records := frame.records && place = valued } statement with
      | .normal => execFrom r frame valued (place + 1) rest
      | completion => return completion

def execList (r : Runner) (frame : Frame) (body : List Stmt) : Run Completion :=
  execFrom r frame (valuePlace body) 0 body

def execBlock (r : Runner) (frame : Frame) (body : List Stmt) : Run Completion := do
  execList r (← openBlock frame body) body

/-- Forgets the value so far at the start of a statement that is run for its value. -/
def startValue (frame : Frame) : Run Unit := do
  if frame.records then setResult .undefined

/-! ### Loops -/

def turnLimit : Nat := Nat.pow 2 62

def afterBody (labels : List Units) : Completion → Option Completion
  | .normal => none
  | .broke none => some .normal
  | .continued none => none
  | .continued (some label) =>
      if labels.contains label then none else some (.continued (some label))
  | completion => some completion

/-- Runs a body while a test holds. The test and the body may change the frame. -/
def turns (labels : List Units) (test : Frame → Run Bool) (body : Frame → Run Completion)
    (next : Frame → Run Frame) : Nat → Frame → Run Completion
  | 0, _ => return .normal
  | fuel + 1, frame => do
      if ← test frame then
        match afterBody labels (← body frame) with
        | none => turns labels test body next fuel (← next frame)
        | some completion => return completion
      else return .normal

def testOf (r : Runner) (condition : Option Expr) (frame : Frame) : Run Bool := do
  match condition with
  | some condition => return toBool (← r.eval frame condition)
  | none => return true

/-- A counting loop. Variables of `let` are new ones in every turn, with the values of the last. -/
def execLoop (r : Runner) (frame : Frame) (labels : List Units) (start : Option Stmt)
    (condition step : Option Expr) (body : Stmt) : Run Completion := do
  let lexical := lexicalNames start.toList
  let inner ←
    if lexical.isEmpty then pure frame
    else
      let scope ← newScope frame.scope none
      declareNames frame scope lexical
      pure { frame with scope := scope }
  let fresh (frame : Frame) : Run Frame := do
    if lexical.isEmpty then return frame
    else return { frame with scope := ← copyScope frame.scope }
  let next (frame : Frame) : Run Frame := do
    let frame ← fresh frame
    if let some step := step then let _ ← r.eval frame step
    return frame
  if let some start := start then let _ ← r.exec { inner with records := false } start
  turns labels (testOf r condition) (fun frame => r.exec frame body) next turnLimit (← fresh inner)

def execUntil (r : Runner) (frame : Frame) (labels : List Units) (body : Stmt)
    (condition : Expr) : Run Completion := do
  match afterBody labels (← r.exec frame body) with
  | some completion => return completion
  | none =>
      turns labels (testOf r (some condition)) (fun frame => r.exec frame body) pure turnLimit frame

/-- The name that each turn of a loop over values declares anew, and whether it stays as it is. -/
def turnName? (kind : Option BindingKind) (target : Target) : Option (Units × Bool) :=
  match kind, target with
  | some .letKind, .name id => some (id, false)
  | some .constKind, .name id => some (id, true)
  | _, _ => none

/-- The object of a loop over values. The names of its turns have no value in it. -/
def loopObject (r : Runner) (frame : Frame) (kind : Option BindingKind) (target : Target)
    (object : Expr) : Run Value := do
  match turnName? kind target with
  | none => r.eval frame object
  | some name =>
      let scope ← newScope frame.scope none
      declareNames frame scope [name]
      r.eval { frame with scope := scope } object

/-- The frame of one turn of a loop over values, with the value assigned. -/
def turnFrame (r : Runner) (frame : Frame) (kind : Option BindingKind) (target : Target)
    (value : Value) : Run Frame := do
  match turnName? kind target with
  | some (id, isConst) =>
      let scope ← newScope frame.scope none
      declare scope ⟨id, some value, if isConst then .never else .free, true⟩
      return { frame with scope := scope }
  | none =>
      writeReference r frame (← reference r frame target) value
      return frame

/-- A loop over values; one that is `gone` by its turn is passed over. -/
def execEach (r : Runner) (frame : Frame) (labels : List Units) (kind : Option BindingKind)
    (target : Target) (body : Stmt) (gone : Value → Run Bool) : List Value → Run Completion
  | [] => return .normal
  | value :: rest => do
      if ← gone value then execEach r frame labels kind target body gone rest
      else
        let inner ← turnFrame r frame kind target value
        match afterBody labels (← r.exec inner body) with
        | none => execEach r frame labels kind target body gone rest
        | some completion => return completion

/-- A loop behind the given labels; nothing for other statements. -/
def execLabelled? (r : Runner) (frame : Frame) (labels : List Units) :
    Stmt → Option (Run Completion)
  | .loop start condition step body => some do
      startValue frame
      execLoop r frame labels start condition step body
  | .whileLoop condition body => some do
      startValue frame
      turns labels (testOf r (some condition)) (fun frame => r.exec frame body) pure turnLimit frame
  | .untilLoop body condition => some do
      startValue frame
      execUntil r frame labels body condition
  | .eachKey kind target object body => some do
      let object ← loopObject r frame kind target object
      startValue frame
      if object.isNothing then return .normal
      let id ← toObject object
      let keys ← loopKeys ((← MonadState.get).objects.size + 1) [] id
      let gone (value : Value) : Run Bool := do
        match value with
        | .text text => return !(← has id (.ofUnits text))
        | _ => return false
      execEach r frame labels kind target body gone (keys.map (fun key => .text key.toUnits))
  | .eachItem kind target object body => some do
      let values ← iterate r.call (← loopObject r frame kind target object)
      startValue frame
      execEach r frame labels kind target body (fun _ => return false) values
  | _ => none

/-! ### Other statements -/

/-- Runs what comes last, and then ends as what came before it, with the same value, unless what
comes last leaves by itself. -/
def execFinish (r : Runner) (frame : Frame) (last : List Stmt)
    (outcome : Except Thrown Completion) : Run Completion := do
  let held ← result
  match ← execBlock r { frame with records := false } last, outcome with
  | .normal, .ok completion =>
      setResult held
      return completion
  | .normal, .error thrown => throw thrown
  | completion, _ =>
      setResult held
      return completion

/-- Runs a body, its handler if it throws, and what comes last in any case. -/
def execAttempt (r : Runner) (frame : Frame) (body : List Stmt)
    (handler : Option (Option Units × List Stmt)) (finish : Option (List Stmt)) :
    Run Completion := do
  if finish.isSome then startValue frame
  let outcome ← attempt (execBlock r frame body)
  let outcome ←
    match outcome, handler with
    | .error .tooDeep, _ => throw .tooDeep
    | .error thrown, some (id, caughtBody) =>
        attempt do
          let value ← caught thrown
          let scope ← newScope frame.scope none
          if let some id := id then declare scope ⟨id, some value, .free, true⟩
          execBlock r { frame with scope := scope } caughtBody
    | outcome, _ => pure outcome
  match outcome, finish with
  | .error .tooDeep, _ => throw .tooDeep
  | outcome, some last => execFinish r frame last outcome
  | .ok completion, none => return completion
  | .error thrown, none => throw thrown

/-- The place of the case that a subject selects: the first with an identical value, else the
default one. -/
def selectCase (r : Runner) (frame : Frame) (subject : Value) :
    Nat → List (Option Expr × List Stmt) → Run (Option Nat)
  | _, [] => return none
  | place, (some test, _) :: rest => do
      if identical subject (← r.eval frame test) then return some place
      else selectCase r frame subject (place + 1) rest
  | place, (none, _) :: rest => selectCase r frame subject (place + 1) rest

def execCases (r : Runner) (frame : Frame) : List (Option Expr × List Stmt) → Run Completion
  | [] => return .normal
  | (_, body) :: rest => do
      match ← execList r frame body with
      | .normal => execCases r frame rest
      | completion => return completion

def execSwitch (r : Runner) (frame : Frame) (subject : Expr)
    (cases : List (Option Expr × List Stmt)) : Run Completion := do
  let subject ← r.eval frame subject
  let inner ← openBlock frame (cases.flatMap Prod.snd)
  startValue frame
  let selected ← selectCase r inner subject 0 cases
  let place := selected.or (cases.findIdx? (fun found => found.1.isNone))
  match place with
  | none => return .normal
  | some place =>
      match ← execCases r inner (cases.drop place) with
      | .broke none => return .normal
      | completion => return completion

/-- A statement behind labels: leaving it by one of them ends it. -/
def execBehind (r : Runner) (frame : Frame) : List Units → Stmt → Run Completion
  | labels, .labelled label body => do
      startValue frame
      execBehind r frame (label :: labels) body
  | labels, body => do
      let completion ← (execLabelled? r frame labels body).getD (r.exec frame body)
      match completion with
      | .broke (some label) =>
          return if labels.contains label then .normal else .broke (some label)
      | completion => return completion

/-- Runs a statement. The branches of a choice are always run for their value. -/
def execute (r : Runner) (frame : Frame) (statement : Stmt) : Run Completion := do
  match statement with
  | .empty => return .normal
  | .expression value =>
      let held ← r.eval frame value
      if frame.records then setResult held
      return .normal
  | .declare kind bindings =>
      declareAll r frame kind bindings
      return .normal
  | .function _ => return .normal
  | .classOf code =>
      settleNearest frame.scope code.id (← classValue r frame code)
      return .normal
  | .block body => execBlock r frame body
  | .choice condition yes no =>
      let inner := { frame with records := true }
      if toBool (← r.eval frame condition) then r.exec inner yes
      else
        match no with
        | some no => r.exec inner no
        | none => return .normal
  | .breakOut label => return .broke label
  | .continueOn label => return .continued label
  | .giveBack value =>
      match value with
      | some value => return .returned (← r.eval frame value)
      | none => return .returned .undefined
  | .throw value => throw (.value (← r.eval frame value))
  | .attempt body handler finish => execAttempt r frame body handler finish
  | .switch subject cases => execSwitch r frame subject cases
  | statement => execBehind r frame [] statement

end Stencil.Script.Runner
