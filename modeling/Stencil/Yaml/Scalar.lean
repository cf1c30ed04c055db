import Stencil.Yaml.Tag

/-!
Scalars. Between the lines of a plain or quoted scalar a single line break counts as a space, and
each further one as itself; a block scalar keeps its lines, or folds them in the same way.
-/

namespace Stencil.Yaml.Scan

/-- Blanks and line breaks that have been passed since the last character of a scalar. -/
structure Passed where
  blanks : List Char := []
  /-- The first line break, and those after it; blanks count only before the first. -/
  first : Option (List Char) := none
  others : List Char := []

namespace Passed

def isEmpty (passed : Passed) : Bool :=
  passed.blanks.isEmpty && passed.first.isNone

/-- What stands for them between two characters of a scalar. -/
def text (passed : Passed) : List Char :=
  match passed.first with
  | none => passed.blanks
  | some first =>
      if first = ['\n'] then (if passed.others.isEmpty then [' '] else passed.others)
      else first ++ passed.others

end Passed

def passOne (passed : Passed) (c : Char) : Scan Passed := do
  if isBreak c then
    let line ← takeLine
    match passed.first with
    | none => return { passed with blanks := [], first := some line }
    | some _ => return { passed with others := passed.others ++ line }
  else
    skip
    if passed.first.isNone then return { passed with blanks := passed.blanks ++ [c] }
    else return passed

/-! ### Quoted scalars -/

def hexLoop : Nat → Nat → Scan Nat
  | 0, value => return value
  | count + 1, value => do
      match (← peek).bind Hex.value? with
      | some digit =>
          skip
          hexLoop count (value * 16 + digit)
      | none => failure

/-- A character given by its number in hexadecimal digits. -/
def numbered (count : Nat) : Scan Char := do
  let n ← hexLoop count 0
  if (0xD800 ≤ n && n ≤ 0xDFFF) || 0x10FFFF < n then failure
  return Char.ofNat n

/-- What an escape stands for, at the character after its backslash. -/
def escaped : Scan Char := do
  let c ← peek
  skip
  match c with
  | some '0' => return '\u0000'
  | some 'a' => return '\x07'
  | some 'b' => return '\x08'
  | some 't' => return '\t'
  | some '\t' => return '\t'
  | some 'n' => return '\n'
  | some 'v' => return '\x0b'
  | some 'f' => return '\x0c'
  | some 'r' => return '\r'
  | some 'e' => return '\x1b'
  | some ' ' => return ' '
  | some '\x22' => return '\x22'
  | some '/' => return '/'
  | some '\\' => return '\\'
  | some 'N' => return '\u0085'
  | some '_' => return '\u00a0'
  | some 'L' => return '\u2028'
  | some 'P' => return '\u2029'
  | some 'x' => numbered 2
  | some 'u' => numbered 4
  | some 'U' => numbered 8
  | _ => failure

/-- A quoted scalar after its quote. `held` are the characters before, the last one first. -/
def quotedLoop (single : Bool) : Nat → Passed → List Char → Scan (List Char)
  | 0, _, _ => failure
  | fuel + 1, passed, held => do
      if ← atDocumentMark then failure
      let joined := passed.text.reverse ++ held
      match ← peek with
      | none => failure
      | some c =>
          if isBlank c || isBreak c then quotedLoop single fuel (← passOne passed c) held
          else if single && c = '\x27' then
            skip
            if (← peek) = some '\x27' then
              skip
              quotedLoop single fuel {} ('\x27' :: joined)
            else return joined.reverse
          else if !single && c = '\x22' then
            skip
            return joined.reverse
          else if !single && c = '\\' then
            skip
            match ← peek with
            | some next =>
                if isBreak next then
                  skipLine
                  quotedLoop single fuel { first := some [] } joined
                else quotedLoop single fuel {} ((← escaped) :: joined)
            | none => failure
          else
            skip
            quotedLoop single fuel {} (c :: joined)

def quoted (single : Bool) : Scan Token := do
  skip
  let text ← quotedLoop single (2 * (← turns)) {} []
  return .scalar text (if single then .singleQuoted else .doubleQuoted)

/-! ### Plain scalars -/

def isFlowMark (c : Char) : Bool :=
  c = ',' || c = '[' || c = ']' || c = '\x7b' || c = '\x7d'

/-- A plain scalar. `indent` is the least column of its further lines. -/
def plainLoop (flow : Bool) (indent : Int) : Nat → Passed → List Char → Scan (List Char × Passed)
  | 0, _, _ => failure
  | fuel + 1, passed, held => do
      match ← peek with
      | none => return (held, passed)
      | some c =>
          if isBlank c || isBreak c then
            if passed.first.isSome && c = '\t' && (← get).column < indent then failure
            plainLoop flow indent fuel (← passOne passed c) held
          else
            let atStart := !passed.isEmpty || held.isEmpty
            if passed.first.isSome && !flow && (← get).column < indent then return (held, passed)
            if atStart && ((← atDocumentMark) || c = '#') then return (held, passed)
            let next ← look 1
            if flow && c = ':' && next.any (fun n => isFlowMark n || n = '?') then failure
            if (c = ':' && isGap next) || (flow && isFlowMark c) then return (held, passed)
            skip
            plainLoop flow indent fuel {} (c :: passed.text.reverse ++ held)

def plain : Scan Token := do
  let flow ← inFlow
  let (held, passed) ← plainLoop flow ((← get).indent + 1) (2 * (← turns)) {} []
  if passed.first.isSome then allowKey true
  return .scalar held.reverse .plain

/-! ### Block scalars -/

/-- What becomes of the line breaks at the end of a block scalar. -/
inductive Chomping where
  | strip
  | clip
  | keep
  deriving DecidableEq

def chomping? : Scan (Option Chomping) := do
  match ← peek with
  | some '+' =>
      skip
      return some .keep
  | some '-' =>
      skip
      return some .strip
  | _ => return none

def increment? : Scan (Option Nat) := do
  match ← peek with
  | some c =>
      if c = '0' then failure
      if c.isDigit then
        skip
        return some (c.toNat - 48)
      else return none
  | none => return none

/-- Empty lines: their breaks, and the widest of their indentations. With no `indent` yet, every
blank counts as indentation. -/
def emptyLines (indent : Option Nat) : Nat → Nat → List Char → Scan (List Char × Nat)
  | 0, widest, breaks => return (breaks, widest)
  | fuel + 1, widest, breaks => do
      let cursor ← get
      let within := indent.all (fun indent => cursor.column < indent)
      match ← peek with
      | some c =>
          if within && c = ' ' then
            skip
            emptyLines indent fuel widest breaks
          else if within && c = '\t' then failure
          else
            let widest := max widest cursor.column
            if isBreak c then emptyLines indent fuel widest (breaks ++ (← takeLine))
            else return (breaks, widest)
      | none => return (breaks, max widest cursor.column)

/-- The lines of a block scalar at an indentation. `held` is what was read, the last character
first; `line` the last line break, `others` those of the empty lines after it, `wasBlank` whether
the last line began with a blank. -/
def blockLoop (folded : Bool) (indent : Nat) :
    Nat → (held line others : List Char) → (wasBlank : Bool) →
      Scan (List Char × List Char × List Char)
  | 0, held, line, others, _ => return (held, line, others)
  | fuel + 1, held, line, others, wasBlank => do
      match ← peek with
      | none => return (held, line, others)
      | some c =>
          if (← get).column != indent then return (held, line, others)
          let isBlankLine := isBlank c
          let glue :=
            if folded && line = ['\n'] && !wasBlank && !isBlankLine then
              (if others.isEmpty then [' '] else others)
            else line ++ others
          let text ← takeWhile (fun c => !isBreak c)
          let held := text.reverse ++ glue.reverse ++ held
          let line ← if (← peek).isSome then takeLine else pure []
          let (others, _) ← emptyLines (some indent) (← turns) 0 []
          blockLoop folded indent fuel held line others isBlankLine

def block (folded : Bool) : Scan Token := do
  skip
  let (chomping, increment) ← do
    match ← chomping? with
    | some chomping => pure (chomping, ← increment?)
    | none =>
        let increment ← increment?
        pure ((← chomping?).getD .clip, increment)
  restOfLine
  let outer := (← get).indent
  let given := increment.map fun increment =>
    if 0 ≤ outer then outer.toNat + increment else increment
  let (breaks, widest) ← emptyLines given (← turns) 0 []
  let indent := given.getD (max widest (max 1 (outer + 1).toNat))
  let (held, line, others) ← blockLoop folded indent (← turns) [] [] breaks false
  let text := held.reverse
  let text :=
    match chomping with
    | .strip => text
    | .clip => text ++ line
    | .keep => text ++ line ++ others
  return .scalar text (if folded then .folded else .literal)

end Stencil.Yaml.Scan
