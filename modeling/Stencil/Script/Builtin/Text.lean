import Stencil.Script.Builtin.Pattern
import Stencil.Text.Case

/-!
The functions on texts. Positions count code units.
-/

namespace Stencil.Script.Run

/-! ### Units -/

/-- The first place from `position` on where a text stands in another one. -/
def findUnits (wanted : Units) : Nat → Units → Option Nat
  | position, [] => if wanted.isEmpty then some position else none
  | position, unit :: rest =>
      if wanted.isPrefixOf (unit :: rest) then some position
      else findUnits wanted (position + 1) rest

def findFrom (wanted text : Units) (position : Nat) : Option Nat :=
  if text.length < position then none else findUnits wanted position (text.drop position)

/-- Every place where a text stands in another one, without overlaps. -/
def findEvery (wanted text : Units) : Nat → Nat → List Nat
  | 0, _ => []
  | fuel + 1, position =>
      match findFrom wanted text position with
      | none => []
      | some place => place :: findEvery wanted text fuel (place + max 1 wanted.length)

/-- The last place, no later than `limit`, where a text stands in another one. -/
def findLast (wanted text : Units) (limit : Nat) : Option Nat :=
  (List.range (min limit (text.length - wanted.length) + 1)).reverse.find? fun place =>
    wanted.isPrefixOf (text.drop place)

/-- A text with every character changed; an unpaired half stays. -/
def mapChars (change : Char → List Char) (text : Units) : Units :=
  (Units.scan text).flatMap fun
    | .ok c => Units.ofChars (change c)
    | .error unit => [unit]

def isSpaceUnit (unit : UInt16) : Bool :=
  Pattern.inRanges Pattern.spaces unit

def trimLeft (text : Units) : Units :=
  text.dropWhile isSpaceUnit

def trimRight (text : Units) : Units :=
  (text.reverse.dropWhile isSpaceUnit).reverse

def between (text : Units) (start finish : Nat) : Units :=
  (text.take finish).drop start

/-! ### Replacing -/

/-- What to put for a match, by a template: `$$` is a dollar sign, `$&` the match, the backquote and
the apostrophe after a dollar sign stand for what is before and after it, and digits for a group. -/
def expand (text : Units) (found : Pattern.Found) : Nat → Units → Units
  | 0, template => template
  | fuel + 1, template =>
      match template with
      | [] => []
      | 36 :: 36 :: rest => 36 :: expand text found fuel rest
      | 36 :: 38 :: rest => between text found.start found.finish ++ expand text found fuel rest
      | 36 :: 96 :: rest => text.take found.start ++ expand text found fuel rest
      | 36 :: 39 :: rest => text.drop found.finish ++ expand text found fuel rest
      | 36 :: rest =>
          let digits := (rest.take 2).takeWhile Key.isDigit
          let number (count : Nat) : Nat :=
            (digits.take count).foldl (fun value unit => value * 10 + (unit.toNat - 48)) 0
          let group (count : Nat) : Option (Option (Nat × Nat)) :=
            if digits.length < count || number count = 0 then none
            else found.groups[number count - 1]?
          let show? (taken : Option (Nat × Nat)) : Units :=
            (taken.map (fun range => between text range.1 range.2)).getD []
          match group 2 with
          | some taken => show? taken ++ expand text found fuel (rest.drop 2)
          | none =>
              match group 1 with
              | some taken => show? taken ++ expand text found fuel (rest.drop 1)
              | none => 36 :: expand text found fuel rest
      | unit :: rest => unit :: expand text found fuel rest

/-- What to put for a match: what a function answers, or a template filled in. -/
def replacement (call : Caller) (text : Units) (change : Value ⊕ Units) (found : Pattern.Found) :
    Run Units := do
  match change with
  | .inr template => return expand text found (template.length + 1) template
  | .inl function =>
      let groups := found.groups.map (groupText text)
      let answer ← call function .undefined
        (groupText text (some (found.start, found.finish)) :: groups
          ++ [.ofNat found.start, .text text])
      toText call answer

def replaceMatches (call : Caller) (text : Units) (change : Value ⊕ Units)
    (matched : List Pattern.Found) : Run Units := do
  let parts ← matched.mapM fun found => return (found, ← replacement call text change found)
  let (pieces, last) := parts.foldl (fun (held : List Units × Nat) part =>
    (part.2 :: between text held.2 part.1.start :: held.1, part.1.finish)) ([], 0)
  return (text.drop last :: pieces).reverse.flatten

/-- Replaces the first match or, if `all` or the pattern says so, every one. -/
def replaceIn (call : Caller) (text : Units) (pattern change : Value) (all : Bool) :
    Run Value := do
  let held ← pattern? pattern
  let wanted ← if held.isSome then pure [] else toText call pattern
  let change ←
    if ← isFunction change then pure (Sum.inl change) else Sum.inr <$> toText call change
  match held with
  | some held =>
      if all && !held.has 'g' then wrongType "replaceAll must be called with a global pattern"
      let matched ←
        if held.has 'g' then
          put call true (.object held.id) lastIndex (.ofNat 0)
          let units := text.toArray
          pure (allMatches held.compiled units (units.size + 2) 0)
        else pure (← nextMatch call held text.toArray).toList
      return .text (← replaceMatches call text change matched)
  | none =>
      let places :=
        if all then findEvery wanted text (text.length + 2) 0 else (findFrom wanted text 0).toList
      let matched := places.map fun place =>
        Pattern.Found.mk place (place + wanted.length) []
      return .text (← replaceMatches call text change matched)

/-! ### Splitting -/

/-- The parts of a text between the places where a text stands in it. -/
def splitByText (text separator : Units) : List Units :=
  if separator.isEmpty then text.map (fun unit => [unit])
  else
    let places := findEvery separator text (text.length + 2) 0
    let (pieces, last) := places.foldl (fun (held : List Units × Nat) place =>
      (between text held.2 place :: held.1, place + separator.length)) ([], 0)
    (text.drop last :: pieces).reverse

/-- The parts of a text between the matches of a pattern, with what the groups took between them. -/
def splitByPattern (text : Units) (units : Array UInt16) (pattern : Pattern) :
    Nat → (last place : Nat) → List Value
  | 0, last, _ => [.text (text.drop last)]
  | fuel + 1, last, place =>
      if units.size ≤ place then [.text (text.drop last)]
      else
        match pattern.matchAt units place with
        | none => splitByPattern text units pattern fuel last (place + 1)
        | some found =>
            if found.finish = last then splitByPattern text units pattern fuel last (place + 1)
            else
              .text (between text last place) :: found.groups.map (groupText text)
                ++ splitByPattern text units pattern fuel found.finish found.finish

def split (call : Caller) (text : Units) (separator limit : Value) : Run Value := do
  let held ← pattern? separator
  let wanted ← if held.isSome then pure [] else toText call separator
  let limit ←
    if limit.isUndefined then pure 0xFFFFFFFF else Number.toUnsigned <$> toNumber call limit
  let parts : List Value :=
    if separator.isUndefined then [.text text]
    else
      match held with
      | none => (splitByText text wanted).map .text
      | some held =>
          if text.isEmpty then
            if (held.compiled.matchAt #[] 0).isSome then [] else [.text []]
          else splitByPattern text text.toArray held.compiled (text.length + 1) 0 0
  newList (parts.take limit)

/-! ### The functions -/

def thisText (call : Caller) (this : Value) : Run Units := do
  if this.isNothing then wrongType "cannot convert 'null' or 'undefined' to object"
  toText call this

/-- A text made longer with copies of another one, to a length. -/
def padding (call : Caller) (text : Units) (length filler : Value) : Run Units := do
  let wanted := (← toInteger call length).toNat
  let filler ← if filler.isUndefined then pure [32] else toText call filler
  if wanted ≤ text.length || filler.isEmpty then return []
  let count := wanted - text.length
  return ((List.replicate (count / filler.length + 1) filler).flatten).take count

def ofPoint (x : Float) : Run Units := do
  match lengthOf? (.number x) with
  | some n =>
      if n < 0x10000 then return [UInt16.ofNat n]
      else if n ≤ 0x10FFFF then return Units.ofChar (Char.ofNat n)
      else fail .rangeError "invalid code point"
  | none => fail .rangeError "invalid code point"

/-- Methods that ask for a text as their argument refuse a pattern. -/
def plainText (call : Caller) (value : Value) : Run Units := do
  if (← pattern? value).isSome then wrongType "argument must not be a regular expression"
  toText call value

def matchIn (call : Caller) (text : Units) (pattern : Value) : Run Value := do
  let pattern ←
    match ← pattern? pattern with
    | some _ => pure pattern
    | none =>
        newPattern (← if pattern.isUndefined then pure [] else toText call pattern) []
          patternPrototype
  match ← pattern? pattern with
  | none => return .null
  | some held =>
      if held.has 'g' then
        put call true (.object held.id) lastIndex (.ofNat 0)
        let units := text.toArray
        match allMatches held.compiled units (units.size + 2) 0 with
        | [] => return .null
        | matched =>
            newList (matched.map fun found => groupText text (some (found.start, found.finish)))
      else execPattern call held text

def runText (call : Caller) (function : TextFunction) (this : Value) (arguments : List Value)
    (maker : Option Nat) : Run Value := do
  let first := argument arguments 0
  let second := argument arguments 1
  let number (value : Value) : Run Float := toNumber call value
  match function with
  | .make =>
      let text ←
        match arguments, first, maker with
        | [], _, _ => pure []
        | _, .symbol id, none =>
            let description := ((← MonadState.get).symbols[id]?).join.getD []
            pure (Units.ofString "Symbol(" ++ description ++ Units.ofString ")")
        | _, value, _ => toText call value
      match maker with
      | none => return .text text
      | some _ =>
          return .object (← allocate
            { prototype := some (← prototypeFor call maker textPrototype)
              kind := .wrapper (.text text) })
  | .ofCodes =>
      return .text (← arguments.mapM fun value => do
        return UInt16.ofNat (Number.toUnsigned (← number value)))
  | .ofPoints => return .text (← arguments.mapM fun value => do ofPoint (← number value)).flatten
  | .itself =>
      match this with
      | .text _ => return this
      | .object id =>
          match (← object id).kind with
          | .wrapper (.text text) => return .text text
          | _ => wrongType "receiver is no string"
      | _ => wrongType "receiver is no string"
  | function =>
      let text ← thisText call this
      let position (value : Value) (usual : Nat) : Run Nat := do
        if value.isUndefined then return usual
        else return Number.clamp (← number value) text.length
      let relative (value : Value) (usual : Nat) : Run Nat := do
        if value.isUndefined then return usual
        else return Number.clampRelative (← number value) text.length
      let placeOut (place : Option Nat) : Value :=
        match place with
        | some place => .ofNat place
        | none => .number (-1.0)
      match function with
      | .charAt =>
          let place ← toInteger call first
          return .text (if place < 0 then [] else (text[place.toNat]?).toList)
      | .codeAt =>
          let place ← toInteger call first
          match if place < 0 then none else text[place.toNat]? with
          | some unit => return .ofNat unit.toNat
          | none => return .number Number.nan
      | .pointAt =>
          let place ← toInteger call first
          if place < 0 then return .undefined
          match text.drop place.toNat with
          | [] => return .undefined
          | [unit] => return .ofNat unit.toNat
          | unit :: next :: _ =>
              if Units.isHigh unit && Units.isLow next then
                return .ofNat (Units.pair unit next).toNat
              else return .ofNat unit.toNat
      | .at =>
          let place ← toInteger call first
          let place := if place < 0 then place + text.length else place
          match if place < 0 then none else text[place.toNat]? with
          | some unit => return .text [unit]
          | none => return .undefined
      | .indexOf =>
          let wanted ← toText call first
          return placeOut (findFrom wanted text (← position second 0))
      | .lastIndexOf =>
          let wanted ← toText call first
          let limit ← number second
          if text.length < wanted.length then return .number (-1.0)
          let limit := if limit.isNaN then text.length else Number.clamp limit text.length
          return placeOut (findLast wanted text limit)
      | .includes =>
          let wanted ← plainText call first
          return .bool (findFrom wanted text (← position second 0)).isSome
      | .startsWith =>
          let wanted ← plainText call first
          return .bool (wanted.isPrefixOf (text.drop (← position second 0)))
      | .endsWith =>
          let wanted ← plainText call first
          return .bool (wanted.isSuffixOf (text.take (← position second text.length)))
      | .substring =>
          let start ← position first 0
          let finish ← position second text.length
          return .text (between text (min start finish) (max start finish))
      | .slice =>
          let start ← relative first 0
          return .text (between text start (← relative second text.length))
      | .upper => return .text (mapChars Text.capital text)
      | .lower => return .text (mapChars Text.small text)
      | .trim => return .text (trimLeft (trimRight text))
      | .trimStart => return .text (trimLeft text)
      | .trimEnd => return .text (trimRight text)
      | .concat => return .text (text ++ (← arguments.mapM (toText call)).flatten)
      | .times =>
          let count ← number first
          if count < 0 || count.isInf then fail .rangeError "invalid count"
          return .text ((List.replicate (Number.toInteger count).toNat text).flatten)
      | .padStart => return .text ((← padding call text first second) ++ text)
      | .padEnd => return .text (text ++ (← padding call text first second))
      | .split => split call text first second
      | .replace => replaceIn call text first second false
      | .replaceAll => replaceIn call text first second true
      | .findAll => matchIn call text first
      | .search =>
          let pattern ←
            match ← pattern? first with
            | some held => pure (some held)
            | none => pattern? (← newPattern (← toText call first) [] patternPrototype)
          return placeOut
            ((pattern.bind fun held => held.compiled.find text.toArray 0).map Pattern.Found.start)
      | _ => return .text text

end Stencil.Script.Run
