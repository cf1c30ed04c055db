import Stencil.Yaml.Tokens

/-!
The first document of a text as a list of events: its scalars, and where its sequences and mappings
start and end. Collections without an end of their own get one, and what is left out is an empty
scalar. A fault in the text leaves the events that come before it.
-/

namespace Stencil.Yaml

inductive Event where
  /-- A text that holds nothing at all. -/
  | void
  | alias (number : Nat)
  | scalar (text : List Char) (style : Style) (tag : Option (List Char))
  | sequenceStart
  | sequenceEnd
  | mappingStart
  | mappingEnd
  deriving DecidableEq, Repr

structure Document where
  events : List Event := []
  /-- For each number of an anchor the place of the event it marks, the latest one first. -/
  targets : List (Nat × Nat) := []
  /-- Whether the text ends without a fault, and with this document. -/
  single : Bool := false

/-- The events from the one that an alias leads to. -/
def Document.target (document : Document) (number : Nat) : List Event :=
  document.events.drop ((document.targets.lookup number).getD document.events.length)

namespace Document

/-- What the reader of a document is about to read. -/
inductive Stage where
  /-- A scalar or a collection. In a flow collection no block may start; where a sequence may lie at
  the indentation of its key, its entries need no start. -/
  | node (block indentless : Bool)
  | blockEntry
  | indentlessEntry
  | blockKey
  | blockValue
  | flowEntry (first : Bool)
  | pairKey
  | pairValue
  | pairEnd
  | flowKey (first : Bool)
  | flowValue (given : Bool)
  deriving DecidableEq, Repr

structure Reading where
  tokens : List Token
  /-- What comes next, and what comes after it. -/
  stages : List Stage
  /-- What the handles of tags stand for, the first one in force. -/
  handles : List (List Char × List Char)
  /-- The number of each anchor's name. -/
  anchors : List (List Char × Nat) := []
  targets : List (Nat × Nat) := []
  /-- The events so far, the last one first. -/
  events : List Event := []

namespace Reading

def emit (reading : Reading) (event : Event) : Reading :=
  { reading with events := event :: reading.events }

def next (reading : Reading) (stages : List Stage) (tokens : List Token) : Reading :=
  { reading with stages, tokens }

def empty (reading : Reading) (stages : List Stage) (tokens : List Token) : Reading :=
  (reading.next stages tokens).emit (.scalar [] .plain none)

/-- Marks the next event with an anchor. Its number is how many names have had one before. -/
def mark (reading : Reading) (anchor : Option (List Char)) : Reading :=
  match anchor with
  | none => reading
  | some name =>
      let number := reading.anchors.length
      { reading with
        anchors := (name, number) :: reading.anchors.filter (fun entry => entry.1 != name)
        targets := (number, reading.events.length) :: reading.targets }

/-- An anchor and a tag in either order, and the tokens after them. -/
def properties : List Token → Option (List Char) × Option (List Char × List Char) × List Token
  | .anchor name :: .tag handle suffix :: rest => (some name, some (handle, suffix), rest)
  | .tag handle suffix :: .anchor name :: rest => (some name, some (handle, suffix), rest)
  | .anchor name :: rest => (some name, none, rest)
  | .tag handle suffix :: rest => (none, some (handle, suffix), rest)
  | rest => (none, none, rest)

/-- The whole text of a tag. Its handle has to stand for something. -/
def resolve (reading : Reading) : Option (List Char × List Char) → Option (Option (List Char))
  | none => some none
  | some ([], suffix) => some (some suffix)
  | some (handle, suffix) =>
      (reading.handles.lookup handle).map fun lead => some (lead ++ suffix)

def node (reading : Reading) (block indentless : Bool) (after : List Stage) : Option Reading :=
  match reading.tokens with
  | .alias name :: rest => do
      let number ← reading.anchors.lookup name
      return (reading.next after rest).emit (.alias number)
  | tokens => do
      let (anchor, given, rest) := properties tokens
      let tag ← reading.resolve given
      let marked := reading.mark anchor
      match rest with
      | [] => none
      | token :: tail =>
          match token with
          | .scalar text style =>
              return (marked.next after tail).emit (.scalar text style tag)
          | .flowSequenceStart =>
              return (marked.next (.flowEntry true :: after) tail).emit .sequenceStart
          | .flowMappingStart =>
              return (marked.next (.flowKey true :: after) tail).emit .mappingStart
          | _ =>
              if indentless && token = .blockEntry then
                return (marked.next (.indentlessEntry :: after) rest).emit .sequenceStart
              else if block && token = .blockSequenceStart then
                return (marked.next (.blockEntry :: after) tail).emit .sequenceStart
              else if block && token = .blockMappingStart then
                return (marked.next (.blockKey :: after) tail).emit .mappingStart
              else if anchor.isSome || tag.isSome then
                return (marked.next after rest).emit (.scalar [] .plain tag)
              else none

/-- Reads a node unless one of the given tokens stands there instead. -/
def nodeUnless (reading : Reading) (absent : List Token) (node : Stage) (after : List Stage)
    (tokens : List Token) : Option Reading :=
  match tokens with
  | [] => none
  | token :: _ =>
      if token ∈ absent then some (reading.empty after tokens)
      else some (reading.next (node :: after) tokens)

/-- Passes over the comma between two entries of a flow collection. -/
def separated (first : Bool) (stop : Token) (tokens : List Token) : Option (List Token) :=
  match first, tokens with
  | true, tokens => some tokens
  | false, .flowEntry :: rest => some rest
  | false, token :: rest => if token = stop then some (token :: rest) else none
  | false, [] => none

/-- Reads on by a stage; nothing if the text is at fault there. -/
def step (reading : Reading) : Option Reading :=
  match reading.stages with
  | [] => none
  | stage :: after =>
      match stage, reading.tokens with
      | _, [] => none
      | .node block indentless, _ => reading.node block indentless after
      | .blockEntry, .blockEntry :: rest =>
          reading.nodeUnless [.blockEntry, .blockEnd] (.node true false) (.blockEntry :: after) rest
      | .blockEntry, .blockEnd :: rest => some ((reading.next after rest).emit .sequenceEnd)
      | .blockEntry, _ => none
      | .indentlessEntry, .blockEntry :: rest =>
          reading.nodeUnless [.blockEntry, .key, .value, .blockEnd] (.node true false)
            (.indentlessEntry :: after) rest
      | .indentlessEntry, rest => some ((reading.next after rest).emit .sequenceEnd)
      | .blockKey, .key :: rest =>
          reading.nodeUnless [.key, .value, .blockEnd] (.node true true) (.blockValue :: after) rest
      | .blockKey, .blockEnd :: rest => some ((reading.next after rest).emit .mappingEnd)
      | .blockKey, _ => none
      | .blockValue, .value :: rest =>
          reading.nodeUnless [.key, .value, .blockEnd] (.node true true) (.blockKey :: after) rest
      | .blockValue, rest => some (reading.empty (.blockKey :: after) rest)
      | .flowEntry first, tokens => do
          match ← separated first .flowSequenceEnd tokens with
          | [] => none
          | .flowSequenceEnd :: rest => return (reading.next after rest).emit .sequenceEnd
          | .key :: rest =>
              return (reading.next (.pairKey :: .flowEntry false :: after) rest).emit .mappingStart
          | rest => return reading.next (.node false false :: .flowEntry false :: after) rest
      | .pairKey, token :: rest =>
          if token ∈ [.value, .flowEntry, .flowSequenceEnd] then
            some (reading.empty (.pairValue :: after) rest)
          else some (reading.next (.node false false :: .pairValue :: after) (token :: rest))
      | .pairValue, .value :: rest =>
          reading.nodeUnless [.flowEntry, .flowSequenceEnd] (.node false false) (.pairEnd :: after)
            rest
      | .pairValue, rest => some (reading.empty (.pairEnd :: after) rest)
      | .pairEnd, rest => some ((reading.next after rest).emit .mappingEnd)
      | .flowKey first, tokens => do
          match ← separated first .flowMappingEnd tokens with
          | [] => none
          | .flowMappingEnd :: rest => return (reading.next after rest).emit .mappingEnd
          | .key :: rest =>
              reading.nodeUnless [.value, .flowEntry, .flowMappingEnd] (.node false false)
                (.flowValue true :: after) rest
          | rest => return reading.next (.node false false :: .flowValue false :: after) rest
      | .flowValue true, .value :: rest =>
          reading.nodeUnless [.flowEntry, .flowMappingEnd] (.node false false)
            (.flowKey false :: after) rest
      | .flowValue _, rest => some (reading.empty (.flowKey false :: after) rest)

/-- Whether nothing but the end of the text comes after a document. -/
def isLast (tokens : List Token) : Bool :=
  match tokens.dropWhile (fun token => token = .documentEnd) with
  | .streamEnd :: _ => true
  | _ => false

/-- Reads on to the end of the document, or as far as a fault. -/
def run : Nat → Reading → Document
  | 0, reading => { events := reading.events.reverse, targets := reading.targets }
  | fuel + 1, reading =>
      if reading.stages.isEmpty then
        { events := reading.events.reverse
          targets := reading.targets
          single := isLast reading.tokens }
      else
        match reading.step with
        | some further => run fuel further
        | none => { events := reading.events.reverse, targets := reading.targets }

end Reading

/-- What the directives of a document say, and the tokens after them. The version may be given once,
each handle once. -/
def directives (version : Bool) (handles : List (List Char × List Char)) :
    List Token → Option (List (List Char × List Char) × List Token)
  | .version major minor :: rest =>
      if version || major != 1 || !(minor = 1 || minor = 2) then none
      else directives true handles rest
  | .tagDirective handle lead :: rest =>
      if (handles.lookup handle).isSome then none
      else directives version ((handle, lead) :: handles) rest
  | rest => some (handles, rest)

/-- What the handles of tags stand for where no directive says otherwise. -/
def standardHandles : List (List Char × List Char) :=
  [(['!'], ['!']), (['!', '!'], "tag:yaml.org,2002:".toList)]

def ofTokens (tokens : List Token) : Document :=
  let read (handles : List (List Char × List Char)) (tokens : List Token) : Document :=
    Reading.run (8 * tokens.length + 8)
      { tokens, stages := [.node true false], handles := handles ++ standardHandles }
  match tokens with
  | [.streamEnd] => { events := [.void], single := true }
  | _ =>
      match directives false [] tokens with
      | none => {}
      | some (handles, .documentStart :: rest) =>
          match rest with
          | token :: _ =>
              if token ∈ [.documentStart, .documentEnd, .streamEnd] then
                { events := [.scalar [] .plain none], single := Reading.isLast rest }
              else
                match token with
                | .version _ _ | .tagDirective _ _ =>
                    { events := [.scalar [] .plain none] }
                | _ => read handles rest
          | [] => {}
      | some (handles, rest) => if rest.length = tokens.length then read handles rest else {}

def ofText (text : String) : Document :=
  ofTokens (tokens text)

end Document

end Stencil.Yaml
