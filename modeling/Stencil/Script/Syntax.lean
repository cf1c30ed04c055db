import Stencil.Text.Units

/-!
The parts of a script: expressions, functions, classes and statements. Assignments are made to
targets, so that no other expression stands on their left.
-/

namespace Stencil.Script

inductive UnaryOp where
  | negate
  | plus
  | not
  | complement
  | typeOf
  | void
  deriving DecidableEq, Repr

inductive BinaryOp where
  | add
  | subtract
  | multiply
  | divide
  | remainder
  | power
  | shiftLeft
  | shiftRight
  | shiftRightUnsigned
  | bitAnd
  | bitOr
  | bitXor
  | less
  | greater
  | lessEqual
  | greaterEqual
  | equal
  | notEqual
  | identical
  | notIdentical
  | instanceOf
  | isIn
  deriving DecidableEq, Repr

inductive LogicalOp where
  | and
  | or
  | coalesce
  deriving DecidableEq, Repr

inductive BindingKind where
  | var
  | letKind
  | constKind
  deriving DecidableEq, Repr

/-- How a function was written. Arrows have no `this` of their own, methods make no objects. -/
inductive FunctionForm where
  | plain
  | arrow
  | method
  | classBase
  | classDerived
  deriving DecidableEq, Repr

/-- Whether code is strict: not, as the code around it is, or because it asks for it itself. -/
inductive Strictness where
  | loose
  | inherited
  | asked
  deriving DecidableEq, Repr

/-- What functions keep of a scope: the names that inner functions use, or all of them where a text
may be run as a script in the scope. -/
structure Captured where
  ids : List Units := []
  all : Bool := false

def Captured.holds (captured : Captured) (id : Units) : Bool :=
  captured.all || captured.ids.contains id

mutual

inductive Expr where
  | this
  | null
  | bool (value : Bool)
  | number (value : Float)
  | text (value : Units)
  /-- A text with expressions in it; each is followed by the text up to the next one. -/
  | template (first : Units) (parts : List (Expr × Units))
  | pattern (body flags : Units)
  | array (items : List (Option Item))
  | object (members : List Member)
  /-- A function; `bound` when it knows itself by its name. -/
  | function (bound : Bool) (code : Code)
  | classOf (code : ClassCode)
  | target (target : Target)
  | superCall (arguments : List Item)
  | superMember (key : PropertyName)
  | call (callee : Expr) (arguments : List Item)
  | make (callee : Expr) (arguments : List Item)
  | unary (op : UnaryOp) (operand : Expr)
  | delete (operand : Expr)
  /-- `++` and `--`; `first` when the operator stands before its operand. -/
  | step (target : Target) (up first : Bool)
  | binary (op : BinaryOp) (left right : Expr)
  | logical (op : LogicalOp) (left right : Expr)
  | choice (condition yes no : Expr)
  | assign (target : Target) (value : Expr)
  | assignWith (op : BinaryOp) (target : Target) (value : Expr)
  | assignUnless (op : LogicalOp) (target : Target) (value : Expr)
  | sequence (first second : Expr)

/-- What can be assigned to. -/
inductive Target where
  | name (id : Units)
  | member (object : Expr) (key : PropertyName)

inductive PropertyName where
  | fixed (text : Units)
  | computed (key : Expr)

/-- An argument or an item of a list; a spread one stands for all items of its value. -/
inductive Item where
  | one (value : Expr)
  | spread (value : Expr)

inductive Member where
  | field (key : PropertyName) (value : Expr)
  /-- A field with the name and the value of a variable. -/
  | shorthand (id : Units)
  | method (key : PropertyName) (code : Code)
  | getter (key : PropertyName) (code : Code)
  | setter (key : PropertyName) (code : Code)
  | spread (value : Expr)

/-- A parameter with what it is when no argument is given. -/
inductive Parameter where
  | mk (id : Units) (default : Option Expr)

/-- A function; `id` is the name that it shows, if it has one. -/
inductive Code where
  | mk (id : Units) (form : FunctionForm) (strictness : Strictness) (parameters : List Parameter)
      (rest : Option Units) (body : List Stmt) (captured : Captured)

inductive ClassCode where
  | mk (id : Units) (base : Option Expr) (constructor : Option Code)
      (members statics : List Member)

inductive Stmt where
  | empty
  | expression (value : Expr)
  | declare (kind : BindingKind) (bindings : List (Units × Option Expr))
  | function (code : Code)
  | classOf (code : ClassCode)
  | block (body : List Stmt)
  | choice (condition : Expr) (yes : Stmt) (no : Option Stmt)
  | loop (start : Option Stmt) (condition step : Option Expr) (body : Stmt)
  | whileLoop (condition : Expr) (body : Stmt)
  | untilLoop (body : Stmt) (condition : Expr)
  /-- Over the keys of an object. -/
  | eachKey (kind : Option BindingKind) (target : Target) (object : Expr) (body : Stmt)
  /-- Over the items of a list or the characters of a text. -/
  | eachItem (kind : Option BindingKind) (target : Target) (object : Expr) (body : Stmt)
  | breakOut (label : Option Units)
  | continueOn (label : Option Units)
  | giveBack (value : Option Expr)
  | throw (value : Expr)
  | attempt (body : List Stmt) (handler : Option (Option Units × List Stmt))
      (finish : Option (List Stmt))
  | switch (subject : Expr) (cases : List (Option Expr × List Stmt))
  | labelled (label : Units) (body : Stmt)

end

instance : Inhabited Expr := ⟨.null⟩

instance : Inhabited Stmt := ⟨.empty⟩

namespace Code

def id : Code → Units
  | .mk id .. => id

def form : Code → FunctionForm
  | .mk _ form .. => form

def strictness : Code → Strictness
  | .mk _ _ strictness .. => strictness

def strict (code : Code) : Bool :=
  code.strictness != .loose

def parameters : Code → List Parameter
  | .mk _ _ _ parameters .. => parameters

def rest : Code → Option Units
  | .mk _ _ _ _ rest .. => rest

def body : Code → List Stmt
  | .mk _ _ _ _ _ body _ => body

def captured : Code → Captured
  | .mk _ _ _ _ _ _ captured => captured

def rename (id : Units) : Code → Code
  | .mk _ form strictness parameters rest body captured =>
      .mk id form strictness parameters rest body captured

/-- The same function with what its inner functions keep of its scopes. -/
def keeping (captured : Captured) : Code → Code
  | .mk id form strictness parameters rest body _ =>
      .mk id form strictness parameters rest body captured

end Code

/-- Whether a property has the given name as it is written. -/
def PropertyName.isText (text : String) : PropertyName → Bool
  | .fixed key => key = Units.ofString text
  | .computed _ => false

/-- Whether a member of a literal gives the object its prototype. -/
def Member.isPrototype : Member → Bool
  | .field key _ => key.isText "__proto__"
  | _ => false

def Parameter.id : Parameter → Units
  | .mk id _ => id

def Parameter.default : Parameter → Option Expr
  | .mk _ default => default

def Code.parameterIds (code : Code) : List Units :=
  code.parameters.map Parameter.id ++ code.rest.toList

def Code.isSimple (code : Code) : Bool :=
  code.rest.isNone && code.parameters.all (fun parameter => parameter.default.isNone)

def ClassCode.id : ClassCode → Units
  | .mk id .. => id

def ClassCode.rename (id : Units) : ClassCode → ClassCode
  | .mk _ base constructor members statics => .mk id base constructor members statics

/-! ### Names that a function or script declares -/

mutual

/-- The names that `var` declares, in order of appearance; inner functions keep theirs. -/
def Stmt.varNames : Stmt → List Units
  | .declare .var bindings => bindings.map Prod.fst
  | .block body => listNames body
  | .choice _ yes no => yes.varNames ++ optionNames no
  | .loop start _ _ body => optionNames start ++ body.varNames
  | .whileLoop _ body => body.varNames
  | .untilLoop body _ => body.varNames
  | .eachKey kind target _ body => loopNames kind target ++ body.varNames
  | .eachItem kind target _ body => loopNames kind target ++ body.varNames
  | .attempt body handler finish =>
      listNames body
        ++ (match handler with
            | some (_, caught) => listNames caught
            | none => [])
        ++ (match finish with
            | some last => listNames last
            | none => [])
  | .switch _ cases => caseNames cases
  | .labelled _ body => body.varNames
  | _ => []

def optionNames : Option Stmt → List Units
  | some statement => statement.varNames
  | none => []

/-- The `var` names of a list of statements. -/
def listNames : List Stmt → List Units
  | [] => []
  | statement :: rest => statement.varNames ++ listNames rest

def caseNames : List (Option Expr × List Stmt) → List Units
  | [] => []
  | (_, body) :: rest => listNames body ++ caseNames rest

def loopNames : Option BindingKind → Target → List Units
  | some .var, .name id => [id]
  | _, _ => []

end

/-- The names that `let`, `const` and `class` declare in a list of statements; true for `const`. -/
def lexicalNames (body : List Stmt) : List (Units × Bool) :=
  body.flatMap fun
    | .declare .letKind bindings => bindings.map (fun binding => (binding.1, false))
    | .declare .constKind bindings => bindings.map (fun binding => (binding.1, true))
    | .classOf code => [(code.id, false)]
    | _ => []

/-- The function that a statement declares, behind labels too. -/
def Stmt.declared? : Stmt → Option Code
  | .function code => some code
  | .labelled _ body => body.declared?
  | _ => none

/-- The functions that stand in a list of statements. -/
def declaredFunctions (body : List Stmt) : List Code :=
  body.filterMap Stmt.declared?

def blockNames (body : List Stmt) : List Units :=
  (lexicalNames body).map Prod.fst ++ (declaredFunctions body).map Code.id

def Code.ownNames (code : Code) : List Units :=
  let bound := if code.form = .arrow then [] else [code.id, Units.ofString "arguments"]
  bound ++ code.parameterIds ++ listNames code.body ++ blockNames code.body

/-! ### Values of lists of statements -/

mutual

/-- Whether a statement can have a value. Declarations have none, nor has a block of nothing else.
-/
def Stmt.hasValue : Stmt → Bool
  | .empty => false
  | .declare _ _ => false
  | .function _ => false
  | .classOf _ => false
  | .block body => anyValue body
  | _ => true

def anyValue : List Stmt → Bool
  | [] => false
  | statement :: rest => statement.hasValue || anyValue rest

end

/-- The place of the statement whose value a list of statements has: the last one with a value of
its own, before the list is left for good. -/
def valuePlaceFrom : (held place : Nat) → List Stmt → Nat
  | held, _, [] => held
  | held, _, .breakOut _ :: _ => held
  | held, _, .continueOn _ :: _ => held
  | held, place, statement :: rest =>
      valuePlaceFrom (if statement.hasValue then place else held) (place + 1) rest

def valuePlace (body : List Stmt) : Nat :=
  valuePlaceFrom 0 0 body

end Stencil.Script
