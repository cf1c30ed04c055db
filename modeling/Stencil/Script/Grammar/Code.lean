import Stencil.Script.Grammar.Basic

/-!
Functions, object literals and classes. What a function's body asks for also binds the names in
front of it, so these are judged when the body has been read.
-/

namespace Stencil.Script.Parse

/-! ### Bodies -/

/-- Statements up to a token that ends them. Those in front that are only texts are directives, and
one of them may ask for strict code, unless an earlier one counts in eights. -/
def directives (g : Grammar) (ends : Lexeme → Bool) :
    Nat → Setting → Strictness → Bool → Parse (Strictness × List Stmt)
  | 0, _, _, _ => failure
  | fuel + 1, setting, strictness, octal => do
      match ← peek with
      | .text value spelling =>
          let first ← g.statement setting
          match first with
          | .expression (.text _) =>
              let octal := octal || spelling = .octal
              let asks := spelling = .plain && value = Units.ofString "use strict"
              if asks && octal then failure
              let strictness := if asks then .asked else strictness
              let setting := { setting with strict := setting.strict || asks }
              let (strictness, rest) ← directives g ends fuel setting strictness octal
              return (strictness, first :: rest)
          | first =>
              return (strictness, first :: (← itemsUntil ends (g.statement setting) (← turns)))
      | _ => return (strictness, ← itemsUntil ends (g.statement setting) (← turns))

/-- Statements, the first of which may be directives. -/
def body (g : Grammar) (ends : Lexeme → Bool) (setting : Setting) :
    Parse (Strictness × List Stmt) := do
  directives g ends (← turns) setting (if setting.strict then .inherited else .loose) false

def functionBody (g : Grammar) (setting : Setting) : Parse (Strictness × List Stmt) := do
  expect "\x7b"
  let read ← body g (isMark "\x7d") setting
  skip
  return read

/-! ### Functions -/

def parameterList (g : Grammar) (setting : Setting) : Nat → Parse (List Parameter × Option Units)
  | 0 => failure
  | fuel + 1 => do
      if ← accept ")" then return ([], none)
      if ← accept "..." then
        let rest ← binding setting
        expect ")"
        return ([], some rest)
      let id ← binding setting
      let default ←
        if ← accept "=" then some <$> named id <$> g.assignment setting else pure none
      if !isMark ")" (← peek) then expect ","
      let (others, rest) ← parameterList g setting fuel
      return (.mk id default :: others, rest)

def inside (setting : Setting) (form : FunctionForm) : Setting :=
  { strict := setting.strict
    inFunction := true
    inMethod :=
      match form with
      | .plain => false
      | .arrow => setting.inMethod
      | _ => true
    inDerived :=
      match form with
      | .arrow => setting.inDerived
      | .classDerived => true
      | _ => false }

/-- Judges a function as a whole: only simple parameters stand before a body that asks for strict
code, and in strict code, arrows and methods no parameter comes twice. -/
def checkFunction (code : Code) : Parse Unit := do
  let ids := code.parameterIds
  if code.strictness = .asked && !code.isSimple then failure
  if code.strict && !((code.id :: ids).all mayDeclareStrictly) then failure
  if (code.strict || !code.isSimple || code.form != .plain) && !allDistinct ids then failure
  checkBody ids code.body

/-- A function whose head and body are read by the given productions. -/
def functionOf (form : FunctionForm) (id : Units)
    (head : Parse (List Parameter × Option Units)) (body : Parse (Strictness × List Stmt)) :
    Parse Code := do
  let whole : Parse Code := do
    let (parameters, rest) ← head
    let (strictness, body) ← body
    return .mk id form strictness parameters rest body {}
  let (code, captured) ← withNames true Code.ownNames whole
  checkFunction code
  return code.keeping captured

def functionRest (g : Grammar) (setting : Setting) (form : FunctionForm) (id : Units) :
    Parse Code := do
  let inner := inside setting form
  let head : Parse (List Parameter × Option Units) := do
    expect "("
    parameterList g inner (← turns)
  functionOf form id head (functionBody g inner)

def arrowHead (g : Grammar) (setting : Setting) : Parse (List Parameter × Option Units) := do
  let head ←
    if ← accept "(" then parameterList g setting (← turns)
    else
      let id ← binding setting
      pure ([.mk id none], none)
  if ← atLineStart then failure
  expect "=>"
  return head

/-- An arrow: its body stands in braces, or is the value that it gives back. -/
def arrow (g : Grammar) (setting : Setting) : Parse Expr := do
  let inner := inside setting .arrow
  let body : Parse (Strictness × List Stmt) := do
    if isMark "\x7b" (← peek) then functionBody g inner
    else
      let value ← g.assignment { inner with noIn := setting.noIn }
      return (if setting.strict then .inherited else .loose, [.giveBack (some value)])
  return .function false (← functionOf .arrow [] (arrowHead g inner) body)

/-! ### Members -/

/-- The name of a property in a literal. Only names and texts give functions their names. -/
def propertyName (g : Grammar) (setting : Setting) : Parse PropertyName := do
  match ← peek with
  | .word text _ =>
      skip
      return .fixed (Units.ofString text)
  | .text value spelling =>
      if setting.strict && spelling = .octal then failure
      skip
      return .fixed value
  | .number value legacy =>
      if setting.strict && legacy then failure
      skip
      return .computed (.number value)
  | .mark "[" =>
      skip
      let key ← g.assignment { setting with noIn := false }
      expect "]"
      return .computed key
  | _ => failure

/-- A getter or setter, if `get` or `set` is not itself the name of a property. -/
def accessor? (g : Grammar) (setting : Setting) : Parse (Option Member) := do
  let first ← peek
  if !(isWord "get" first || isWord "set" first) then return none
  match ← second with
  | .mark symbol => if symbol != "[" then return none
  | .finish => return none
  | _ => pure ()
  skip
  let key ← propertyName g setting
  let code ← functionRest g setting .method []
  let count := code.parameterIds.length
  if isWord "get" first then
    if count != 0 then failure
    return some (.getter key code)
  else
    if count != 1 || code.rest.isSome then failure
    return some (.setter key code)

def member (g : Grammar) (setting : Setting) : Parse Member := do
  if ← accept "..." then return .spread (← g.assignment setting)
  if let some found ← accessor? g setting then return found
  let first ← peek
  let key ← propertyName g setting
  if ← accept ":" then
    let value ← g.assignment setting
    match key with
    | .fixed text => return .field key (named text value)
    | .computed _ => return .field key value
  if isMark "(" (← peek) then return .method key (← functionRest g setting .method [])
  match first with
  | .word text _ =>
      if !isName setting text then failure
      note (Units.ofString text)
      return .shorthand (Units.ofString text)
  | _ => failure

/-- An object literal after its brace. At most one member gives it its prototype. -/
def objectRest (g : Grammar) (setting : Setting) : Parse Expr := do
  let members ← separated "\x7d" (member g setting) (← turns)
  if 1 < (members.filter Member.isPrototype).length then failure
  return .object members

/-! ### Classes -/

/-- A part of a class as it is read: its constructor, or a member of its own or of its objects. -/
inductive ClassPart where
  | maker (code : Code)
  | shared (member : Member)
  | own (member : Member)

def ClassPart.maker? : ClassPart → Option Code
  | .maker code => some code
  | _ => none

def ClassPart.shared? : ClassPart → Option Member
  | .shared member => some member
  | _ => none

def ClassPart.own? : ClassPart → Option Member
  | .own member => some member
  | _ => none

/-- One part of a class, or a semicolon between them. No accessor stands for the constructor, and
no member for the prototype. -/
def classPart? (g : Grammar) (setting : Setting) (derived : Bool) : Parse (Option ClassPart) := do
  if ← accept ";" then return none
  let isStatic ←
    if isWord "static" (← peek) && !isMark "(" (← second) then
      skip
      pure true
    else pure false
  let refused := if isStatic then "prototype" else "constructor"
  let part (member : Member) : ClassPart := if isStatic then .own member else .shared member
  match ← accessor? g setting with
  | some found =>
      let key :=
        match found with
        | .getter key _ => key
        | .setter key _ => key
        | _ => .fixed []
      if key.isText refused then failure
      return some (part found)
  | none =>
      let key ← propertyName g setting
      if key.isText refused then
        if isStatic then failure
        let form := if derived then FunctionForm.classDerived else .classBase
        return some (.maker (← functionRest g setting form []))
      return some (part (.method key (← functionRest g setting .method [])))

def classRest (g : Grammar) (setting : Setting) (id : Units) : Parse ClassCode := do
  let setting := { setting with strict := true, noIn := false }
  let whole : Parse ClassCode := do
    let base ← if ← acceptWord "extends" then some <$> g.operand setting else pure none
    expect "\x7b"
    let parts := (← enclosed "\x7d" (classPart? g setting base.isSome)).filterMap fun part => part
    let makers := parts.filterMap ClassPart.maker?
    if 1 < makers.length then failure
    return .mk id base makers.head? (parts.filterMap ClassPart.shared?)
      (parts.filterMap ClassPart.own?)
  locally (fun _ => [id]) whole

end Stencil.Script.Parse
