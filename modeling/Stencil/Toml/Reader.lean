import Stencil.Text.Hex
import Stencil.Toml.Number
import Stencil.Toml.Value

/-!
Readers of TOML: blanks and comments, texts, keys and values. A reader takes what it reads from the
front of the input.
-/

namespace Stencil.Toml

abbrev Reader := StateT (List Char) (Except Fault)

namespace Reader

def malformed {α : Type} : Reader α := throw .malformed

def peek : Reader (Option Char) := do
  return (← get).head?

def drop (count : Nat) : Reader Unit :=
  modify (fun input => input.drop count)

def takeWhile (suits : Char → Bool) : Reader (List Char) := do
  let (taken, rest) := (← get).span suits
  set rest
  return taken

/-- Takes a given text from the front, if it stands there. -/
def accept (text : String) : Reader Bool := do
  if text.toList.isPrefixOf (← get) then
    drop text.toList.length
    return true
  else return false

def expect (text : String) : Reader Unit := do
  if !(← accept text) then malformed

/-! ### Blanks -/

def isBlank (c : Char) : Bool :=
  c = ' ' || c = '\t'

/-- What may stand in comments and texts: all but control characters. -/
def isVisible (c : Char) : Bool :=
  c = '\t' || (0x20 ≤ c.toNat && c.toNat != 0x7F)

def blanks : Reader Unit := do
  let _ ← takeWhile isBlank

def newline : Reader Bool := do
  if ← accept "\n" then return true
  else accept "\r\n"

def comment : Reader Unit := do
  if (← peek) = some '#' then
    let _ ← takeWhile isVisible

/-- Blanks and perhaps a comment up to the end of the line. -/
def restOfLine : Reader Unit := do
  blanks
  comment
  if !(← newline) && !(← get).isEmpty then malformed

def turns : Reader Nat := do
  return (← get).length + 1

def blankLinesLoop : Nat → Reader Unit
  | 0 => return ()
  | fuel + 1 => do
      blanks
      let commented := (← peek) = some '#'
      comment
      if ← newline then blankLinesLoop fuel
      else if commented then malformed

/-- Blanks, comments and line breaks, as between the items of an array. -/
def blankLines : Reader Unit := do
  blankLinesLoop (← turns)

/-! ### Texts -/

def numbered (count : Nat) : Reader Char := do
  let digits := (← get).take count
  drop count
  match digits.mapM Hex.value? with
  | some values =>
      let n := values.foldl (fun n value => n * 16 + value) 0
      if values.length = count && n.isValidChar then return Char.ofNat n else malformed
  | none => malformed

/-- What an escape stands for, after its backslash. -/
def escaped : Reader Char := do
  let c ← peek
  drop 1
  match c with
  | some 'b' => return '\x08'
  | some 't' => return '\t'
  | some 'n' => return '\n'
  | some 'f' => return '\x0c'
  | some 'r' => return '\r'
  | some '\x22' => return '\x22'
  | some '\\' => return '\\'
  | some 'u' => numbered 4
  | some 'U' => numbered 8
  | _ => malformed

/-- A text on one line up to its quote. `held` are its characters so far, the last one first. -/
def lineLoop (quote : Char) : Nat → List Char → Reader (List Char)
  | 0, _ => malformed
  | fuel + 1, held => do
      match ← peek with
      | none => malformed
      | some c =>
          drop 1
          if c = quote then return held.reverse
          else if c = '\\' && quote = '\x22' then lineLoop quote fuel ((← escaped) :: held)
          else if isVisible c then lineLoop quote fuel (c :: held)
          else malformed

/-- A backslash at the end of a line takes the white space up to the next word with it. -/
def joinsLines : Reader Bool := do
  let rest := (← get).dropWhile isBlank
  match rest with
  | '\n' :: _ => return true
  | '\r' :: '\n' :: _ => return true
  | _ => return false

def skipSpaceLoop : Nat → Reader Unit
  | 0 => return ()
  | fuel + 1 => do
      blanks
      if ← newline then skipSpaceLoop fuel

/-- A text up to its three quotes. One or two more quotes before them belong to it. -/
def linesLoop (quote : Char) : Nat → List Char → Reader (List Char)
  | 0, _ => malformed
  | fuel + 1, held => do
      match ← peek with
      | none => malformed
      | some c =>
          if c = quote then
            let count := (← takeWhile (fun c => c = quote)).length
            if count < 3 then linesLoop quote fuel (List.replicate count quote ++ held)
            else if count < 6 then return (List.replicate (count - 3) quote ++ held).reverse
            else malformed
          else if c = '\\' && quote = '\x22' then
            drop 1
            if ← joinsLines then
              skipSpaceLoop (← turns)
              linesLoop quote fuel held
            else linesLoop quote fuel ((← escaped) :: held)
          else if ← newline then linesLoop quote fuel ('\n' :: held)
          else if isVisible c then
            drop 1
            linesLoop quote fuel (c :: held)
          else malformed

/-- A text on one line, after the quote it starts with. -/
def line (quote : Char) : Reader String := do
  return String.ofList (← lineLoop quote (← turns) [])

/-- A text, after the quote it starts with. A line break right after three quotes is left out. -/
def text (quote : Char) : Reader String := do
  if [quote, quote].isPrefixOf (← get) then
    drop 2
    let _ ← newline
    return String.ofList (← linesLoop quote (← turns) [])
  else line quote

/-! ### Keys -/

/-- A part of a key: a word, or a text on one line. -/
def keyPart : Reader String := do
  match ← peek with
  | some '\x22' =>
      drop 1
      line '\x22'
  | some '\x27' =>
      drop 1
      line '\x27'
  | _ =>
      let word ← takeWhile (fun c => c.isAlphanum || c = '-' || c = '_')
      if word.isEmpty then malformed
      return String.ofList word

def keyLoop : Nat → List String → Reader (List String)
  | 0, _ => malformed
  | fuel + 1, held => do
      blanks
      let part ← keyPart
      blanks
      if ← accept "." then keyLoop fuel (part :: held)
      else return (part :: held).reverse

def depthLimit : Nat := 79

def key : Reader (String × List String) := do
  match ← keyLoop (← turns) [] with
  | [] => malformed
  | first :: rest => if rest.length < depthLimit then return (first, rest) else malformed

/-! ### Values -/

def word : Reader Value := do
  let isPart := fun c => isWordChar c
  let first ← takeWhile isPart
  let whole ←
    match isDate first, ← get with
    | true, ' ' :: c :: _ =>
        if c.isDigit then
          drop 1
          pure (first ++ 'T' :: (← takeWhile isPart))
        else pure first
    | _, _ => pure first
  if isMoment whole then return .moment
  else if isInteger whole || isDecimal whole then return .number
  else malformed

def itemLoop (item : Reader Value) : Nat → List Value → Reader (List Value)
  | 0, _ => malformed
  | fuel + 1, held => do
      blankLines
      if ← accept "]" then return held.reverse
      let value ← item
      blankLines
      if ← accept "," then itemLoop item fuel (value :: held)
      else
        expect "]"
        return (value :: held).reverse

/-- The pairs between braces, up to where no further one stands. -/
def pairLoop (item : Reader Value) :
    Nat → List (String × List String × Value) → Reader (List (String × List String × Value))
  | 0, _ => malformed
  | fuel + 1, held => do
      let (first, rest) ← key
      expect "="
      blanks
      let value ← item
      blanks
      let held := (first, rest, value) :: held
      match ← get with
      | ',' :: tail =>
          match tail.dropWhile isBlank with
          | c :: _ =>
              if c.isAlphanum || c = '-' || c = '_' || c = '\x22' || c = '\x27' then
                drop 1
                pairLoop item fuel held
              else return held.reverse
          | [] => return held.reverse
      | _ => return held.reverse

def braces (item : Reader Value) : Reader Value := do
  blanks
  if ← accept "\x7d" then return .table .inline []
  let pairs ← pairLoop item (← turns) []
  let entries ← pairs.foldlM (fun entries (first, rest, value) =>
    Entries.assign true value false false entries first rest) ([] : Entries)
  expect "\x7d"
  return .table .inline entries

/-- A value. `item` reads what stands in a collection, if one may stand here. -/
def node (item : Option (Reader Value)) : Reader Value := do
  match ← peek with
  | some '\x22' =>
      drop 1
      return .text (← text '\x22')
  | some '\x27' =>
      drop 1
      return .text (← text '\x27')
  | some '[' =>
      drop 1
      match item with
      | some item => return .array (← itemLoop item (← turns) [])
      | none => malformed
  | some '\x7b' =>
      drop 1
      match item with
      | some item => braces item
      | none => malformed
  | some 't' =>
      expect "true"
      return .boolean true
  | some 'f' =>
      expect "false"
      return .boolean false
  | _ => word

def value : Nat → Reader Value
  | 0 => node none
  | depth + 1 => node (some (value depth))

end Reader

end Stencil.Toml
