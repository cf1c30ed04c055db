import Stencil.Script.Grammar.Code

/-!
Expressions, from operands with their members and calls up to assignments.
-/

namespace Stencil.Script.Parse

/-! ### Parts -/

def item (g : Grammar) (setting : Setting) : Parse Item := do
  let setting := { setting with noIn := false }
  if ← accept "..." then return .spread (← g.assignment setting)
  return .one (← g.assignment setting)

def arguments (g : Grammar) (setting : Setting) : Parse (List Item) := do
  separated ")" (item g setting) (← turns)

/-- Items of a list literal; a place may be left empty. -/
def listItems (g : Grammar) (setting : Setting) : Nat → Parse (List (Option Item))
  | 0 => failure
  | fuel + 1 => do
      if ← accept "]" then return []
      if ← accept "," then return none :: (← listItems g setting fuel)
      let first ← item g setting
      if ← accept "," then return some first :: (← listItems g setting fuel)
      expect "]"
      return [some first]

def sequenceLoop (g : Grammar) (setting : Setting) : Nat → Expr → Parse Expr
  | 0, _ => failure
  | fuel + 1, first => do
      if ← accept "," then sequenceLoop g setting fuel (.sequence first (← g.assignment setting))
      else return first

def expression (g : Grammar) (setting : Setting) : Parse Expr := do
  sequenceLoop g setting (← turns) (← g.assignment setting)

/-- The expressions of a template and the texts after them, from the text that is given on. -/
def templateParts (g : Grammar) (setting : Setting) :
    Nat → List Char → Parse (Units × List (Expr × Units))
  | 0, _ => failure
  | fuel + 1, text => do
      let some (units, more, rest) := Token.chunk text | failure
      resume rest
      if !more then return (units, [])
      let value ← expression g setting
      if !isMark "\x7d" (← peek) then failure
      let (after, others) ← templateParts g setting fuel (← get).next.rest
      return (units, (value, after) :: others)

def template (g : Grammar) (setting : Setting) : Parse Expr := do
  let (first, parts) ← templateParts g setting (← turns) (← get).next.rest
  return if parts.isEmpty then .text first else .template first parts

/-- A pattern, whose first slash is the next token; the text starts behind it. -/
def patternLiteral (text : List Char) : Parse Expr := do
  let some (body, flags, rest) := Token.pattern text | failure
  let body := Units.ofChars body
  let flags := Units.ofChars flags
  if (Pattern.ofText? body flags).isNone then failure
  resume rest
  return .pattern body flags

def functionLiteral (g : Grammar) (setting : Setting) : Parse Expr := do
  if isMark "(" (← peek) then
    return .function false (← functionRest g setting .plain [])
  let id ← binding setting
  return .function true (← functionRest g setting .plain id)

def classLiteral (g : Grammar) (setting : Setting) : Parse Expr := do
  if isMark "\x7b" (← peek) || isWord "extends" (← peek) then
    return .classOf (← classRest g setting [])
  let id ← binding { setting with strict := true }
  return .classOf (← classRest g setting id)

/-- What follows `super`: a call of the parent's constructor, or a member of the parent. -/
def superRest (g : Grammar) (setting : Setting) : Parse Expr := do
  if ← accept "(" then
    if !setting.inDerived then failure
    return .superCall (← arguments g setting)
  if !setting.inMethod then failure
  if ← accept "." then
    match ← peek with
    | .word text _ =>
        skip
        return .superMember (.fixed (Units.ofString text))
    | _ => failure
  expect "["
  let key ← expression g setting
  expect "]"
  return .superMember (.computed key)

/-! ### Operands -/

def wordOperand (g : Grammar) (setting : Setting) (text : String) : Parse Expr := do
  match text with
  | "this" =>
      skip
      return .this
  | "null" =>
      skip
      return .null
  | "true" =>
      skip
      return .bool true
  | "false" =>
      skip
      return .bool false
  | "function" =>
      skip
      functionLiteral g setting
  | "class" =>
      skip
      classLiteral g setting
  | "super" =>
      skip
      superRest g setting
  | _ => reference setting

/-- An operand without anything after it; `new` is left to `makeLoop`. -/
def primary (g : Grammar) (setting : Setting) : Parse Expr := do
  let inner := { setting with noIn := false }
  let behind := (← get).next.rest
  match ← peek with
  | .number value legacy =>
      if setting.strict && legacy then failure
      skip
      return .number value
  | .text value spelling =>
      if setting.strict && spelling = .octal then failure
      skip
      return .text value
  | .mark "(" =>
      skip
      let value ← expression g inner
      expect ")"
      return value
  | .mark "[" =>
      skip
      return .array (← listItems g inner (← turns))
  | .mark "\x7b" =>
      skip
      objectRest g inner
  | .mark "\x60" => template g inner
  | .mark "/" => patternLiteral behind
  | .mark "/=" => patternLiteral ('=' :: behind)
  | .word text true => wordOperand g inner text
  | .word _ false => reference setting
  | _ => failure

/-- Whether a call may run a text in the scope that it stands in. -/
def isEvaluation : Expr → Bool
  | .target (.name id) => id = Units.ofString "eval"
  | _ => false

/-- Members and, where `calls` allows them, calls after an operand. -/
def suffixLoop (g : Grammar) (setting : Setting) (calls : Bool) : Nat → Expr → Parse Expr
  | 0, _ => failure
  | fuel + 1, held => do
      if ← accept "." then
        match ← peek with
        | .word text _ =>
            skip
            suffixLoop g setting calls fuel
              (.target (.member held (.fixed (Units.ofString text))))
        | _ => failure
      else if ← accept "[" then
        let key ← expression g { setting with noIn := false }
        expect "]"
        suffixLoop g setting calls fuel (.target (.member held (.computed key)))
      else if calls && isMark "(" (← peek) then
        skip
        if isEvaluation held then
          modify fun state => { state with captured := { state.captured with all := true } }
        suffixLoop g setting calls fuel (.call held (← arguments g setting))
      else return held

/-- An operand that may start with `new`, once for each object to make. -/
def makeLoop (g : Grammar) (setting : Setting) : Nat → Parse Expr
  | 0 => failure
  | fuel + 1 => do
      if ← acceptWord "new" then
        let callee ← suffixLoop g setting false (← turns) (← makeLoop g setting fuel)
        if ← accept "(" then return .make callee (← arguments g setting)
        return .make callee []
      else primary g setting

/-- An operand with its members and calls, and `++` or `--` after it. -/
def postfixed (g : Grammar) (setting : Setting) : Parse Expr := do
  let held ← suffixLoop g setting true (← turns) (← makeLoop g setting (← turns))
  if ← atLineStart then return held
  if ← accept "++" then return .step (← asTarget setting held) true false
  if ← accept "--" then return .step (← asTarget setting held) false false
  return held

def unaryOp? : Lexeme → Option UnaryOp
  | .mark "-" => some .negate
  | .mark "+" => some .plus
  | .mark "!" => some .not
  | .mark "~" => some .complement
  | .word "typeof" true => some .typeOf
  | .word "void" true => some .void
  | _ => none

/-- An operand with the operators before it. One with an operator that is no step is not raised to
a power. -/
def prefixed (g : Grammar) (setting : Setting) : Parse Expr := do
  let unraised (value : Expr) : Parse Expr := do
    if isMark "**" (← peek) then failure else return value
  match unaryOp? (← peek) with
  | some op =>
      skip
      unraised (.unary op (← g.operand setting))
  | none =>
      if ← acceptWord "delete" then
        match ← g.operand setting with
        | .target (.name id) =>
            if setting.strict then failure else unraised (.delete (.target (.name id)))
        | operand => unraised (.delete operand)
      else if ← accept "++" then
        return .step (← asTarget setting (← g.operand setting)) true true
      else if ← accept "--" then
        return .step (← asTarget setting (← g.operand setting)) false true
      else postfixed g setting

/-! ### Operators -/

/-- How tightly an operator binds, and what it does. -/
def infixOp? (setting : Setting) : Lexeme → Option (Nat × (BinaryOp ⊕ LogicalOp))
  | .mark symbol =>
      match symbol with
      | "??" => some (1, .inr .coalesce)
      | "||" => some (2, .inr .or)
      | "&&" => some (3, .inr .and)
      | "|" => some (4, .inl .bitOr)
      | "^" => some (5, .inl .bitXor)
      | "&" => some (6, .inl .bitAnd)
      | "==" => some (7, .inl .equal)
      | "!=" => some (7, .inl .notEqual)
      | "===" => some (7, .inl .identical)
      | "!==" => some (7, .inl .notIdentical)
      | "<" => some (8, .inl .less)
      | ">" => some (8, .inl .greater)
      | "<=" => some (8, .inl .lessEqual)
      | ">=" => some (8, .inl .greaterEqual)
      | "<<" => some (9, .inl .shiftLeft)
      | ">>" => some (9, .inl .shiftRight)
      | ">>>" => some (9, .inl .shiftRightUnsigned)
      | "+" => some (10, .inl .add)
      | "-" => some (10, .inl .subtract)
      | "*" => some (11, .inl .multiply)
      | "/" => some (11, .inl .divide)
      | "%" => some (11, .inl .remainder)
      | "**" => some (12, .inl .power)
      | _ => none
  | .word "instanceof" true => some (8, .inl .instanceOf)
  | .word "in" true => if setting.noIn then none else some (8, .inl .isIn)
  | _ => none

/-- How tightly the right operand of an operator has to bind. Powers group to the right, and beside
`??` no other logical operator stands without parentheses. -/
def rightTightness (op : BinaryOp ⊕ LogicalOp) (tightness : Nat) : Nat :=
  match op with
  | .inl .power => tightness
  | .inr .coalesce => 4
  | _ => tightness + 1

/-- Operators after an operand; `last` is the logical operator that made it, if one did. -/
def infixLoop (g : Grammar) (setting : Setting) (least : Nat) :
    Nat → Option LogicalOp → Expr → Parse Expr
  | 0, _, _ => failure
  | fuel + 1, last, held => do
      match infixOp? setting (← peek) with
      | none => return held
      | some (tightness, op) =>
          if tightness < least then return held
          skip
          let right ← g.operators setting (rightTightness op tightness)
          match op with
          | .inl op => infixLoop g setting least fuel none (.binary op held right)
          | .inr op =>
              if last.any (fun other => (other = .coalesce) != (op = .coalesce)) then failure
              infixLoop g setting least fuel (some op) (.logical op held right)

def infixed (g : Grammar) (setting : Setting) (least : Nat) : Parse Expr := do
  infixLoop g setting least (← turns) none (← g.operand setting)

def conditional (g : Grammar) (setting : Setting) : Parse Expr := do
  let held ← g.operators setting 1
  if ← accept "?" then
    let yes ← g.assignment { setting with noIn := false }
    expect ":"
    return .choice held yes (← g.assignment setting)
  return held

def assignOp? : Lexeme → Option (Option (BinaryOp ⊕ LogicalOp))
  | .mark symbol =>
      match symbol with
      | "=" => some none
      | "+=" => some (some (.inl .add))
      | "-=" => some (some (.inl .subtract))
      | "*=" => some (some (.inl .multiply))
      | "/=" => some (some (.inl .divide))
      | "%=" => some (some (.inl .remainder))
      | "**=" => some (some (.inl .power))
      | "<<=" => some (some (.inl .shiftLeft))
      | ">>=" => some (some (.inl .shiftRight))
      | ">>>=" => some (some (.inl .shiftRightUnsigned))
      | "&=" => some (some (.inl .bitAnd))
      | "|=" => some (some (.inl .bitOr))
      | "^=" => some (some (.inl .bitXor))
      | "&&=" => some (some (.inr .and))
      | "||=" => some (some (.inr .or))
      | "??=" => some (some (.inr .coalesce))
      | _ => none
  | _ => none

def namedFor : Target → Expr → Expr
  | .name id, value => named id value
  | _, value => value

def assignedOrNot (g : Grammar) (setting : Setting) : Parse Expr := do
  let held ← conditional g setting
  match assignOp? (← peek) with
  | none => return held
  | some op =>
      let target ← asTarget setting held
      skip
      let value ← g.assignment setting
      match op with
      | none => return .assign target (namedFor target value)
      | some (.inl op) => return .assignWith op target value
      | some (.inr op) => return .assignUnless op target (namedFor target value)

/-- Whether an arrow may begin here: only after a name, or with a parenthesis. -/
def mayBeArrow : Parse Bool := do
  match ← peek with
  | .word .. => return isMark "=>" (← second)
  | .mark symbol => return symbol = "("
  | _ => return false

/-- An arrow if one begins here; else a conditional, or an assignment. -/
def assigned (g : Grammar) (setting : Setting) : Parse Expr := do
  if ← mayBeArrow then arrow g setting <|> assignedOrNot g setting
  else assignedOrNot g setting

end Stencil.Script.Parse
