import Stencil.Script.Pattern
import Stencil.Script.Syntax
import Stencil.Script.Token

/-!
What the productions of the grammar share: the state they pass on, what a place in a script allows,
and the small steps that take single tokens. Every production takes its tokens from the front of the
script or fails. Beside the tokens it gathers the names that are used, so that a function knows
which of its names the functions inside it keep.
-/

namespace Stencil.Script

/-- Where the reading of a script stands. -/
structure ReadState where
  next : Token
  /-- More turns than any loop over the tokens takes. -/
  turns : Nat
  /-- The names used so far that are not declared where they are used. -/
  used : List Units := []
  /-- Those of them that are used in inner functions. -/
  inner : List Units := []
  /-- What the inner functions keep of the scopes that are closed already. -/
  captured : Captured := {}

abbrev Parse := StateT ReadState Option

/-- How a statement stands: in a list, behind a label in a list, or alone as a part of another one.
-/
inductive Standing where
  | list
  | label
  | alone
  deriving DecidableEq, Repr

/-- What a place in a script allows. -/
structure Setting where
  strict : Bool := false
  inFunction : Bool := false
  /-- Members of the parent class can be named. -/
  inMethod : Bool := false
  /-- The constructor of the parent class can be called. -/
  inDerived : Bool := false
  inLoop : Bool := false
  inSwitch : Bool := false
  /-- The labels around the place, and whether they stand before loops. -/
  labels : List (Units × Bool) := []
  /-- `in` is no operator at the start of a loop. -/
  noIn : Bool := false
  standing : Standing := .list

/-- The productions that contain each other. -/
structure Grammar where
  assignment : Setting → Parse Expr
  /-- Operators that bind at least as tightly as the given number. -/
  operators : Setting → Nat → Parse Expr
  operand : Setting → Parse Expr
  statement : Setting → Parse Stmt

namespace Parse

/-! ### Tokens -/

def peek : Parse Lexeme := do
  return (← get).next.lexeme

def second : Parse Lexeme := do
  return (Token.first (← get).next.rest).lexeme

def resume (text : List Char) : Parse Unit :=
  modify fun state => { state with next := Token.first text }

def skip : Parse Unit := do
  resume (← get).next.rest

def turns : Parse Nat := do
  return (← get).turns

def isMark (symbol : String) : Lexeme → Bool
  | .mark other => other = symbol
  | _ => false

/-- Whether a token is a word of the grammar; one that is spelled with escapes never is. -/
def isWord (text : String) : Lexeme → Bool
  | .word other true => other = text
  | _ => false

def accept (symbol : String) : Parse Bool := do
  if isMark symbol (← peek) then
    skip
    return true
  else return false

def acceptWord (text : String) : Parse Bool := do
  if isWord text (← peek) then
    skip
    return true
  else return false

def expect (symbol : String) : Parse Unit := do
  if !(← accept symbol) then failure

def expectWord (text : String) : Parse Unit := do
  if !(← acceptWord text) then failure

/-- Whether the next token starts a line; the end of the script counts. -/
def atLineStart : Parse Bool := do
  match (← get).next with
  | ⟨.finish, _, _⟩ => return true
  | token => return token.newline

/-- The end of a statement. Where a semicolon is left out, the end of a line, of a block or of the
script stands for it. -/
def terminator : Parse Unit := do
  if ← accept ";" then return ()
  if isMark "\x7d" (← peek) || (← atLineStart) then return ()
  failure

/-- Items between commas up to a closing mark; a comma may stand before it. -/
def separated {α : Type} (close : String) (item : Parse α) : Nat → Parse (List α)
  | 0 => failure
  | fuel + 1 => do
      if ← accept close then return []
      let first ← item
      if ← accept "," then return first :: (← separated close item fuel)
      expect close
      return [first]

/-- Items up to a token that ends them, which is left. -/
def itemsUntil {α : Type} (ends : Lexeme → Bool) (item : Parse α) : Nat → Parse (List α)
  | 0 => failure
  | fuel + 1 => do
      if ends (← peek) then return []
      let first ← item
      return first :: (← itemsUntil ends item fuel)

def enclosed {α : Type} (close : String) (item : Parse α) : Parse (List α) := do
  let items ← itemsUntil (isMark close) item (← turns)
  skip
  return items

/-! ### Names -/

def reservedWords : List String :=
  ["break", "case", "catch", "class", "const", "continue", "debugger", "default", "delete", "do",
    "else", "enum", "export", "extends", "false", "finally", "for", "function", "if", "import",
    "in", "instanceof", "new", "null", "return", "super", "switch", "this", "throw", "true", "try",
    "typeof", "var", "void", "while", "with"]

def strictWords : List String :=
  ["implements", "interface", "let", "package", "private", "protected", "public", "static", "yield"]

def isName (setting : Setting) (text : String) : Bool :=
  !reservedWords.contains text && !(setting.strict && strictWords.contains text)

def mayDeclareStrictly (id : Units) : Bool :=
  !("eval" :: "arguments" :: strictWords).any (fun text => Units.ofString text = id)

def name (setting : Setting) : Parse Units := do
  match ← peek with
  | .word text _ =>
      if isName setting text then
        skip
        return Units.ofString text
      else failure
  | _ => failure

def binding (setting : Setting) : Parse Units := do
  let id ← name setting
  if setting.strict && !mayDeclareStrictly id then failure
  return id

def addName (ids : List Units) (id : Units) : List Units :=
  if ids.contains id then ids else id :: ids

def note (id : Units) : Parse Unit :=
  modify fun state => { state with used := addName state.used id }

def reference (setting : Setting) : Parse Expr := do
  let id ← name setting
  note id
  return .target (.name id)

def asTarget (setting : Setting) : Expr → Parse Target
  | .target (.name id) =>
      if setting.strict && !mayDeclareStrictly id then failure else return .name id
  | .target target => return target
  | _ => failure

/-- A function or class without a name takes that of what it is assigned to. -/
def named (id : Units) : Expr → Expr
  | .function bound code => .function bound (if code.id.isEmpty then code.rename id else code)
  | .classOf code => .classOf (if code.id.isEmpty then code.rename id else code)
  | value => value

/-! ### Scopes -/

/-- Reads a part of a script that has names of its own. These are not used around it; around a
function, all others that are used in it are used in an inner function. With it comes what the
inner functions keep of its names and of the scopes inside it. -/
def withNames {α : Type} (isFunction : Bool) (own : α → List Units) (part : Parse α) :
    Parse (α × Captured) := do
  let before ← get
  set { before with
    used := [], inner := [], captured := if isFunction then {} else before.captured }
  let value ← part
  let after ← get
  let ids := own value
  let isOther (id : Units) : Bool := !ids.contains id
  let captured : Captured :=
    { after.captured with
      ids := (after.inner.filter ids.contains).foldl addName after.captured.ids }
  let used := after.used.filter isOther
  let inner := if isFunction then used else after.inner.filter isOther
  let kept : Captured :=
    if isFunction then { before.captured with all := before.captured.all || captured.all }
    else captured
  set { after with
    used := used.foldl addName before.used
    inner := inner.foldl addName before.inner
    captured := kept }
  return (value, captured)

/-- A part with names of its own that is no function. -/
def locally {α : Type} (own : α → List Units) (part : Parse α) : Parse α :=
  Prod.fst <$> withNames false own part

def allDistinct : List Units → Bool
  | [] => true
  | id :: rest => !rest.contains id && allDistinct rest

def apart (left right : List Units) : Bool :=
  left.all (fun id => !right.contains id)

/-- In the body of a function or script no name is declared twice, but by `var`, functions and
parameters. -/
def checkBody (parameters : List Units) (body : List Stmt) : Parse Unit := do
  let lexical := (lexicalNames body).map Prod.fst
  if !(allDistinct lexical && apart lexical parameters && apart lexical (listNames body)
      && apart lexical ((declaredFunctions body).map Code.id)) then
    failure

/-- In a block no name is declared twice, but by functions outside strict code. -/
def checkBlock (setting : Setting) (taken : List Units) (body : List Stmt) : Parse Unit := do
  let lexical := (lexicalNames body).map Prod.fst
  let functions := (declaredFunctions body).map Code.id
  if !(allDistinct lexical && apart lexical functions
      && apart (lexical ++ functions) (listNames body)
      && apart (lexical ++ functions) taken && (!setting.strict || allDistinct functions)) then
    failure

end Parse

end Stencil.Script
