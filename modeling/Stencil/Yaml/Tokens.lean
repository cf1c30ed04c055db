import Stencil.Yaml.Scalar

/-!
The tokens of a text. They end with the stream's end, or, where the text is at fault, with the last
token that is settled before the fault.
-/

namespace Stencil.Yaml

namespace Scan

/-- Passes over blanks, comments and empty lines. At the start of a line of a block a tab is no
blank, and a key may start after a line break. -/
def toNext : Nat → Scan Unit
  | 0 => return ()
  | fuel + 1 => do
      let tabs := (← inFlow) || !(← get).keyAllowed
      let _ ← takeWhile (fun c => c = ' ' || (tabs && c = '\t'))
      if (← peek) = some '#' then
        let _ ← takeWhile (fun c => !isBreak c)
      if (← peek).any isBreak then
        skipLine
        if !(← inFlow) then allowKey true
        toNext fuel

def mark (token : Token) : Scan Unit := do
  skip
  push token

def openFlow (start : Token) : Scan Unit := do
  savePending
  modify fun cursor => { cursor with pending := none :: cursor.pending }
  allowKey true
  mark start

def closeFlow (token : Token) : Scan Unit := do
  dropPending
  if ← inFlow then modify fun cursor => { cursor with pending := cursor.pending.tail }
  allowKey false
  mark token

/-- A mark after which a new entry, key or value begins. In a block it opens a block where it lies
further in. -/
def entry (start token : Token) (allowedInFlow : Bool) : Scan Unit := do
  let flow ← inFlow
  if !flow then
    if !(← get).keyAllowed then failure
    openBlock (← get).column none start
  dropPending
  allowKey (!flow || allowedInFlow)
  mark token

/-- A colon. What is pending becomes a key, and the block that it stands in starts before it. -/
def colon : Scan Unit := do
  match (← get).pending.head?.join with
  | some key =>
      modify fun cursor =>
        { cursor with
          tokens := cursor.tokens.insertIdx! key.place .key
          pending := none :: cursor.pending.tail }
      openBlock key.column (some key.place) .blockMappingStart
      allowKey false
  | none =>
      let flow ← inFlow
      if !flow then
        if !(← get).keyAllowed then failure
        openBlock (← get).column none .blockMappingStart
      allowKey (!flow)
  mark .value

/-- Ends all blocks, as the marks between documents, the directives and the end of the text do. -/
def endDocument : Scan Unit := do
  closeBlocks (-1)
  dropPending
  allowKey false

def documentMark (token : Token) : Scan Unit := do
  endDocument
  skipMany 3
  push token

def keyLike (token : Scan Token) : Scan Unit := do
  savePending
  allowKey false
  push (← token)

def blockScalar (folded : Bool) : Scan Unit := do
  dropPending
  allowKey true
  push (← block folded)

def isIndicator (c : Char) : Bool :=
  isFlowMark c || c = '-' || c = '?' || c = ':' || c = '#' || c = '&' || c = '*' || c = '!'
    || c = '|' || c = '>' || c = '\x27' || c = '\x22' || c = '%' || c = '@' || c = '\x60'

/-- Whether a plain scalar may start with a character, before another. -/
def startsPlain (flow : Bool) (c : Char) (next : Option Char) : Bool :=
  !(isGap (some c) || isIndicator c)
    || (c = '-' && !next.any isBlank)
    || (!flow && (c = '?' || c = ':') && !isGap next)

def streamEnd : Scan Unit := do
  modify fun cursor =>
    if cursor.column = 0 then cursor else { cursor with column := 0, line := cursor.line + 1 }
  endDocument
  push .streamEnd

/-- The next token, with those that its place brings about; whether the text goes on. -/
def step : Scan Bool := do
  toNext (← turns)
  dropStale
  closeBlocks (← get).column
  let flow ← inFlow
  let next ← look 1
  match ← peek with
  | none =>
      streamEnd
      return false
  | some c =>
      if (← get).column = 0 && c = '%' then
        endDocument
        push (← directive)
      else if ← atDocumentMark then
        documentMark (if c = '-' then .documentStart else .documentEnd)
      else if c = '[' then openFlow .flowSequenceStart
      else if c = '\x7b' then openFlow .flowMappingStart
      else if c = ']' then closeFlow .flowSequenceEnd
      else if c = '\x7d' then closeFlow .flowMappingEnd
      else if c = ',' then
        dropPending
        allowKey true
        mark .flowEntry
      else if c = '-' && isGap next then entry .blockSequenceStart .blockEntry true
      else if c = '?' && (flow || isGap next) then entry .blockMappingStart .key false
      else if c = ':' && (flow || isGap next) then colon
      else if c = '*' then keyLike (return .alias (← name))
      else if c = '&' then keyLike (return .anchor (← name))
      else if c = '!' then keyLike tag
      else if c = '|' && !flow then blockScalar false
      else if c = '>' && !flow then blockScalar true
      else if c = '\x27' then keyLike (quoted true)
      else if c = '\x22' then keyLike (quoted false)
      else if startsPlain flow c next then keyLike plain
      else failure
      return true

/-- Scans on to the end or to a fault. What a step brings counts only if no key that has to be one
is given up after it; otherwise the tokens that were settled at `before` are all. -/
def loop : Nat → (before cursor : Cursor) → List Token
  | 0, _, cursor => cursor.settled
  | fuel + 1, before, cursor =>
      match dropStale cursor with
      | .error () _ => before.settled
      | .ok () fresh =>
          match step fresh with
          | .error () _ => fresh.settled
          | .ok true next => loop fuel fresh next
          | .ok false last =>
              match dropStale last with
              | .error () _ => fresh.settled
              | .ok () last => last.settled

end Scan

/-- The tokens of a text. A character that no text may hold spoils all of it. -/
def tokens (text : String) : List Token :=
  let input := text.toList
  if input.all isPrintable then Scan.loop (2 * input.length + 2) { input } { input } else []

end Stencil.Yaml
