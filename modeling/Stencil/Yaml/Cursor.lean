import Stencil.Yaml.Token

/-!
Where a YAML text is being read. Indentation opens and closes blocks. A scalar, an alias, an anchor,
a tag or a flow collection may turn out to be a key when a colon follows on its line; until then its
place is pending, and the tokens from there on are not settled.
-/

namespace Stencil.Yaml

/-- A place among the tokens where a key may have started. A required one stands at the indentation
of its block, where nothing but a key can stand. -/
structure PendingKey where
  place : Nat
  required : Bool
  index : Nat
  line : Nat
  column : Nat
  deriving DecidableEq, Repr

structure Cursor where
  input : List Char
  index : Nat := 0
  line : Nat := 0
  column : Nat := 0
  indent : Int := -1
  /-- The indentations of the blocks around the innermost one. -/
  indents : List Int := []
  keyAllowed : Bool := true
  /-- What is pending in each flow collection, the innermost first, and at last in the block. -/
  pending : List (Option PendingKey) := [none]
  tokens : Array Token := #[]

/-- Reads on from a cursor, or fails; the cursor is where the reading stopped in either case. -/
abbrev Scan := EStateM Unit Cursor

namespace Scan

def failure {α : Type} : Scan α := throw ()

/-- The character that stands `ahead` places further on. -/
def look (ahead : Nat) : Scan (Option Char) := do
  return (← get).input[ahead]?

def peek : Scan (Option Char) := do
  return (← get).input.head?

def skip : Scan Unit :=
  modify fun cursor =>
    { cursor with
      input := cursor.input.tail
      index := cursor.index + 1
      column := cursor.column + 1 }

def skipMany : Nat → Scan Unit
  | 0 => return ()
  | count + 1 => do
      skip
      skipMany count

/-- Passes over a line break; a carriage return with a line feed is one. -/
def skipLine : Scan Unit :=
  modify fun cursor =>
    let next (count : Nat) : Cursor :=
      { cursor with
        input := cursor.input.drop count
        index := cursor.index + count
        line := cursor.line + 1
        column := 0 }
    match cursor.input with
    | '\r' :: '\n' :: _ => next 2
    | _ => next 1

/-- Takes a line break: a line feed for all but the separators of Unicode, which stay. -/
def takeLine : Scan (List Char) := do
  let c ← peek
  skipLine
  match c with
  | some c => return [if c.toNat = 0x2028 || c.toNat = 0x2029 then c else '\n']
  | none => return []

/-- How many turns a loop over the characters can take. -/
def turns : Scan Nat := do
  return (← get).input.length + 1

def takeWhile (suits : Char → Bool) : Scan (List Char) := do
  let taken := (← get).input.takeWhile suits
  modify fun cursor =>
    { cursor with
      input := cursor.input.drop taken.length
      index := cursor.index + taken.length
      column := cursor.column + taken.length }
  return taken

def push (token : Token) : Scan Unit :=
  modify fun cursor => { cursor with tokens := cursor.tokens.push token }

def allowKey (allowed : Bool) : Scan Unit :=
  modify fun cursor => { cursor with keyAllowed := allowed }

def inFlow : Scan Bool := do
  return 1 < (← get).pending.length

/-- Whether the markers that part documents stand here. -/
def atDocumentMark : Scan Bool := do
  if (← get).column != 0 then return false
  match (← get).input with
  | a :: b :: c :: rest =>
      return ((a = '-' && b = '-' && c = '-') || (a = '.' && b = '.' && c = '.'))
        && isGap rest.head?
  | _ => return false

/-! ### Pending keys -/

/-- Gives up what is pending in the innermost collection. A required key may not be given up. -/
def dropPending : Scan Unit := do
  if ((← get).pending.head?.join).any PendingKey.required then failure
  modify fun cursor => { cursor with pending := none :: cursor.pending.tail }

def savePending : Scan Unit := do
  let cursor ← get
  let flow ← inFlow
  if cursor.keyAllowed then
    dropPending
    let key : PendingKey :=
      { place := cursor.tokens.size
        required := !flow && cursor.indent = cursor.column
        index := cursor.index
        line := cursor.line
        column := cursor.column }
    modify fun cursor => { cursor with pending := some key :: cursor.pending.tail }

/-- Gives up the keys that started on an earlier line, or more than 1024 characters ago. -/
def dropStale : Scan Unit := do
  let cursor ← get
  let isStale (key : PendingKey) : Bool :=
    key.line < cursor.line || key.index + 1024 < cursor.index
  if cursor.pending.any (fun held => held.any fun key => isStale key && key.required) then failure
  modify fun cursor =>
    { cursor with
      pending := cursor.pending.map fun held =>
        held.filter (fun key => !isStale key) }

/-! ### Blocks -/

/-- Opens a block if this column lies further in than the innermost one. Its start goes to a place
among the tokens, or to their end. -/
def openBlock (column : Nat) (place : Option Nat) (start : Token) : Scan Unit := do
  if !(← inFlow) && (← get).indent < column then
    modify fun cursor =>
      { cursor with
        indents := cursor.indent :: cursor.indents
        indent := column
        tokens := cursor.tokens.insertIdx! (place.getD cursor.tokens.size) start }

def closeLoop (column : Int) : Nat → Scan Unit
  | 0 => return ()
  | fuel + 1 => do
      let cursor ← get
      if column < cursor.indent then
        set { cursor with
          indent := cursor.indents.headD (-1)
          indents := cursor.indents.tail
          tokens := cursor.tokens.push .blockEnd }
        closeLoop column fuel

/-- Closes the blocks that lie further in than a column. -/
def closeBlocks (column : Int) : Scan Unit := do
  if !(← inFlow) then closeLoop column ((← get).indents.length + 1)

end Scan

/-- The tokens that are settled: those before the first pending key. -/
def Cursor.settled (cursor : Cursor) : List Token :=
  let places := cursor.pending.filterMap fun held => held.map PendingKey.place
  cursor.tokens.toList.take (places.foldl min cursor.tokens.size)

end Stencil.Yaml
