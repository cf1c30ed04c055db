import Stencil.Script.Grammar.Expression

/-!
Statements. Declarations stand in lists of statements only; what stands alone, as the body of a loop
or a branch, is no declaration.
-/

namespace Stencil.Script.Parse

/-! ### Blocks and declarations -/

def block (g : Grammar) (setting : Setting) (taken : List Units) : Parse (List Stmt) :=
  locally blockNames do
    expect "\x7b"
    let body ← enclosed "\x7d" (g.statement { setting with standing := .list })
    checkBlock setting taken body
    return body

/-- Names with their values after `var`, `let` or `const`. -/
def bindings (g : Grammar) (setting : Setting) (kind : BindingKind) :
    Nat → Parse (List (Units × Option Expr))
  | 0 => failure
  | fuel + 1 => do
      let id ← binding setting
      if kind != .var && id = Units.ofString "let" then failure
      let value ←
        if ← accept "=" then some <$> named id <$> g.assignment setting
        else if kind = .constKind then failure
        else pure none
      if ← accept "," then return (id, value) :: (← bindings g setting kind fuel)
      return [(id, value)]

/-- Which word begins a declaration here; `let` needs a name after it. -/
def bindingKind? : Parse (Option BindingKind) := do
  match ← peek with
  | .word "var" true => return some .var
  | .word "const" true => return some .constKind
  | .word "let" true =>
      match ← second with
      | .word text _ => return if reservedWords.contains text then none else some .letKind
      | _ => return none
  | _ => return none

def parenthesised (g : Grammar) (setting : Setting) : Parse Expr := do
  expect "("
  let value ← expression g setting
  expect ")"
  return value

def part (g : Grammar) (setting : Setting) : Parse Stmt :=
  g.statement { setting with standing := .alone }

/-! ### Loops -/

def loopBody (g : Grammar) (setting : Setting) : Parse Stmt :=
  part g { setting with inLoop := true, noIn := false }

/-- What follows the part of a loop that names what it runs over. -/
def eachRest (g : Grammar) (setting : Setting) (kind : Option BindingKind) (target : Target) :
    Parse Stmt := do
  let inner := { setting with noIn := false }
  if ← acceptWord "in" then
    let object ← expression g inner
    expect ")"
    return .eachKey kind target object (← loopBody g setting)
  expectWord "of"
  let object ← g.assignment inner
  expect ")"
  return .eachItem kind target object (← loopBody g setting)

/-- What follows the first part of a counting loop. -/
def loopRest (g : Grammar) (setting : Setting) (start : Option Stmt) : Parse Stmt := do
  let setting := { setting with noIn := false }
  expect ";"
  let condition ←
    if isMark ";" (← peek) then pure none else some <$> expression g setting
  expect ";"
  let step ← if isMark ")" (← peek) then pure none else some <$> expression g setting
  expect ")"
  return .loop start condition step (← loopBody g setting)

def isEachWord (next : Lexeme) : Bool :=
  isWord "in" next || isWord "of" next

/-- A loop whose head declares names, once their kind is taken. -/
def declaringLoop (g : Grammar) (setting : Setting) (kind : BindingKind) : Parse Stmt := do
  if isEachWord (← second) then
    let id ← binding setting
    if kind != .var && id = Units.ofString "let" then failure
    eachRest g setting (some kind) (.name id)
  else
    let declared ← bindings g { setting with noIn := true } kind (← turns)
    loopRest g setting (some (.declare kind declared))

/-- The names that the head of a loop declares for each of its turns. -/
def turnNames : Stmt → List Units
  | .loop start _ _ _ => (lexicalNames start.toList).map Prod.fst
  | .eachKey (some .letKind) (.name id) _ _ => [id]
  | .eachKey (some .constKind) (.name id) _ _ => [id]
  | .eachItem (some .letKind) (.name id) _ _ => [id]
  | .eachItem (some .constKind) (.name id) _ _ => [id]
  | _ => []

/-- A loop after its word. The names of its turns are declared once, and not by `var` as well. -/
def forStatement (g : Grammar) (setting : Setting) : Parse Stmt := do
  expect "("
  match ← bindingKind? with
  | some kind =>
      skip
      let statement ← locally turnNames (declaringLoop g setting kind)
      let ids := turnNames statement
      if !(allDistinct ids && apart ids statement.varNames) then failure
      return statement
  | none =>
      if isMark ";" (← peek) then loopRest g setting none
      else
        let first ← expression g { setting with noIn := true }
        if isEachWord (← peek) then eachRest g setting none (← asTarget setting first)
        else loopRest g setting (some (.expression first))

/-! ### Other statements -/

/-- The label after `break` or `continue`, if one stands on its line, and whether a loop bears it.
-/
def label? (setting : Setting) : Parse (Option (Units × Bool)) := do
  if ← atLineStart then return none
  match ← peek with
  | .word .. =>
      let id ← name setting
      match setting.labels.find? (fun label => label.1 = id) with
      | some label => return some label
      | none => failure
  | _ => return none

def handler? (g : Grammar) (setting : Setting) : Parse (Option (Option Units × List Stmt)) := do
  if ← acceptWord "catch" then
    if ← accept "(" then
      let id ← binding setting
      expect ")"
      let body ← locally (fun _ => [id]) (block g setting [id])
      return some (some id, body)
    return some (none, ← block g setting [])
  return none

/-- One case of a selection: its test and the statements up to the next one. -/
def oneCase (g : Grammar) (setting : Setting) : Parse (Option Expr × List Stmt) := do
  let test ←
    if ← acceptWord "default" then pure none
    else
      expectWord "case"
      some <$> expression g setting
  expect ":"
  let ends (next : Lexeme) : Bool :=
    isWord "case" next || isWord "default" next || isMark "\x7d" next
  return (test, ← itemsUntil ends (g.statement { setting with standing := .list }) (← turns))

def switchRest (g : Grammar) (setting : Setting) : Parse Stmt := do
  let subject ← parenthesised g setting
  let cases : Parse (List (Option Expr × List Stmt)) := do
    expect "\x7b"
    let cases ← enclosed "\x7d" (oneCase g { setting with inSwitch := true })
    if 1 < (cases.filter (fun found => found.1.isNone)).length then failure
    checkBlock setting [] (cases.flatMap Prod.snd)
    return cases
  return .switch subject (← locally (fun cases => blockNames (cases.flatMap Prod.snd)) cases)

def functionStatement (g : Grammar) (setting : Setting) : Parse Stmt := do
  let id ← binding setting
  return .function (← functionRest g setting .plain id)

/-- A statement that starts with the given word, once the word is taken. -/
def wordStatement (g : Grammar) (setting : Setting) (word : String) : Parse Stmt := do
  match word with
  | "function" =>
      if setting.standing = .alone || (setting.standing = .label && setting.strict) then failure
      functionStatement g setting
  | "class" =>
      if setting.standing != .list then failure
      let id ← binding { setting with strict := true }
      return .classOf (← classRest g setting id)
  | "if" =>
      let condition ← parenthesised g setting
      let yes ← part g setting
      if ← acceptWord "else" then return .choice condition yes (some (← part g setting))
      return .choice condition yes none
  | "for" => forStatement g setting
  | "while" =>
      let condition ← parenthesised g setting
      return .whileLoop condition (← loopBody g setting)
  | "do" =>
      let body ← loopBody g setting
      expectWord "while"
      let condition ← parenthesised g setting
      let _ ← accept ";"
      return .untilLoop body condition
  | "break" =>
      let label ← label? setting
      if label.isNone && !setting.inLoop && !setting.inSwitch then failure
      terminator
      return .breakOut (label.map Prod.fst)
  | "continue" =>
      let label ← label? setting
      if !setting.inLoop || label.any (fun label => !label.2) then failure
      terminator
      return .continueOn (label.map Prod.fst)
  | "return" =>
      if !setting.inFunction then failure
      let next ← peek
      if isMark ";" next || isMark "\x7d" next || (← atLineStart) then
        terminator
        return .giveBack none
      let value ← expression g setting
      terminator
      return .giveBack (some value)
  | "throw" =>
      if ← atLineStart then failure
      let value ← expression g setting
      terminator
      return .throw value
  | "try" =>
      let body ← block g setting []
      let handler ← handler? g setting
      let finish ← if ← acceptWord "finally" then some <$> block g setting [] else pure none
      if handler.isNone && finish.isNone then failure
      return .attempt body handler finish
  | "switch" => switchRest g setting
  | "debugger" =>
      terminator
      return .empty
  | _ => failure

def statementWords : List String :=
  ["function", "class", "if", "for", "while", "do", "break", "continue", "return", "throw", "try",
    "switch", "debugger"]

def labelLoop (setting : Setting) : Nat → List Units → Parse (List Units)
  | 0, _ => failure
  | fuel + 1, held => do
      match ← peek with
      | .word text _ =>
          if isName setting text && isMark ":" (← second) then
            let id ← name setting
            skip
            labelLoop setting fuel (id :: held)
          else return held
      | _ => return held

/-- A statement behind its labels, which are new ones. -/
def labelled (g : Grammar) (setting : Setting) (ids : List Units) : Parse Stmt := do
  if !(allDistinct ids && apart ids (setting.labels.map Prod.fst)) then failure
  let next ← peek
  let isLoop := isWord "for" next || isWord "while" next || isWord "do" next
  let inner :=
    { setting with
      labels := ids.map (fun id => (id, isLoop)) ++ setting.labels
      standing := if setting.standing = .list then .label else setting.standing }
  return ids.foldl (fun statement id => .labelled id statement) (← g.statement inner)

def unlabelled (g : Grammar) (setting : Setting) : Parse Stmt := do
  if let some kind ← bindingKind? then
    if kind = .var || setting.standing = .list then
      skip
      let declared ← bindings g setting kind (← turns)
      terminator
      return .declare kind declared
  match ← peek with
  | .mark "\x7b" => return .block (← block g setting [])
  | .mark ";" =>
      skip
      return .empty
  | .word word true =>
      if statementWords.contains word then
        skip
        return ← wordStatement g setting word
  | _ => pure ()
  let value ← expression g setting
  terminator
  return .expression value

def stated (g : Grammar) (setting : Setting) : Parse Stmt := do
  match ← labelLoop setting (← turns) [] with
  | [] => unlabelled g setting
  | ids => labelled g setting ids

end Stencil.Script.Parse
