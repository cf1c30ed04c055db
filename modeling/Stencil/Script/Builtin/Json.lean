import Stencil.Script.Function
import Stencil.Script.Operator

/-!
Values as JSON text and back. Functions, symbols and `undefined` have no text; numbers that are none
are written as `null`.
-/

namespace Stencil.Script.Run

/-! ### Writing -/

/-- One code unit inside quotes; `alone` for half of a surrogate pair without the other. -/
def quoteUnit (alone : Bool) (unit : UInt16) : Units :=
  let hex : Units :=
    let n := unit.toNat
    [92, 117] ++ Units.ofChars [Hex.digit (n / 0x1000), Hex.digit (n / 0x100 % 0x10),
      Hex.digit (n / 0x10 % 0x10), Hex.digit (n % 0x10)]
  match unit.toNat with
  | 8 => [92, 98]
  | 9 => [92, 116]
  | 10 => [92, 110]
  | 12 => [92, 102]
  | 13 => [92, 114]
  | 34 => [92, 34]
  | 92 => [92, 92]
  | n => if n < 0x20 || alone then hex else [unit]

def quoteText (text : Units) : Units :=
  34 :: ((Units.scan text).flatMap fun
    | .ok c =>
        if c.toNat < 0x10000 then quoteUnit false (UInt16.ofNat c.toNat) else Units.ofChar c
    | .error unit => quoteUnit true unit) ++ [34]

/-- How a value is written: what is asked about each member, which members are kept, and what stands
before each member for every level. -/
structure Layout where
  replacer : Option Value := none
  kept : Option (List Key) := none
  gap : Units := []

/-- Parts between brackets, on lines of their own if there is a gap. -/
def enclose (layout : Layout) (indent : Units) (left right : UInt16) (parts : List Units) :
    Units :=
  if parts.isEmpty then [left, right]
  else if layout.gap.isEmpty then left :: List.intercalate [44] parts ++ [right]
  else
    let inner := indent ++ layout.gap
    left :: 10 :: inner ++ List.intercalate (44 :: 10 :: inner) parts ++ 10 :: indent ++ [right]

/-- The value that is written for a member of `holder`. -/
def prepared (call : Caller) (layout : Layout) (holder : Value) (key : Key) (value : Value) :
    Run Value := do
  let value ←
    if value.isObject then
      let method ← get call value (.ofString "toJSON")
      if ← isFunction method then call method value [.text key.toUnits] else pure value
    else pure value
  let value ←
    match layout.replacer with
    | some replacer => call replacer holder [.text key.toUnits, value]
    | none => pure value
  match value with
  | .object id =>
      match (← object id).kind with
      | .wrapper (.number _) => return .number (← toNumber call value)
      | .wrapper (.text _) => return .text (← toText call value)
      | .wrapper (.bool held) => return .bool held
      | _ => return value
  | _ => return value

/-- The text of a member; nothing for what has none. `above` are the objects it lies in. -/
def writeMember (call : Caller) (layout : Layout) :
    Nat → List Nat → Units → Value → Key → Value → Run (Option Units)
  | 0, _, _, _, _, _ => throw .tooDeep
  | fuel + 1, above, indent, holder, key, value => do
      match ← prepared call layout holder key value with
      | .null => return some (Units.ofString "null")
      | .bool value => return some (Units.ofString (Text.showBool value))
      | .number x =>
          return some (if x.isFinite then Number.toUnits x else Units.ofString "null")
      | .text text => return some (quoteText text)
      | .object id =>
          if ← isFunction (.object id) then return none
          if above.contains id then wrongType "cyclic object value"
          let above := id :: above
          let inner := indent ++ layout.gap
          let part (key : Key) : Run (Option Units) := do
            writeMember call layout fuel above inner (.object id) key (← getOf call id key)
          match (← object id).kind with
          | .list length _ =>
              let parts ← (List.range length).mapM fun index => do
                return (← part (.index index)).getD (Units.ofString "null")
              return some (enclose layout indent 91 93 parts)
          | _ =>
              let keys ←
                match layout.kept with
                | some keys => pure keys
                | none => ownEnumerable id
              let colon : Units := if layout.gap.isEmpty then [58] else [58, 32]
              let parts ← keys.filterMapM fun key => do
                return (← part key).map fun text => quoteText key.toUnits ++ colon ++ text
              return some (enclose layout indent 123 125 parts)
      | _ => return none

/-- The gap that an argument asks for: at most ten spaces or units. -/
def gapOf (call : Caller) (value : Value) : Run Units := do
  let value ←
    match value with
    | .object id =>
        match (← object id).kind with
        | .wrapper (.number _) => Value.number <$> toNumber call value
        | .wrapper (.text _) => Value.text <$> toText call value
        | _ => pure value
    | _ => pure value
  match value with
  | .number x => return List.replicate (min (Number.toInteger x).toNat 10) 32
  | .text text => return text.take 10
  | _ => return []

def stringify (call : Caller) (value replacer gap : Value) : Run Value := do
  let isReplacer ← isFunction replacer
  let kept ←
    match replacer with
    | .object id =>
        match (← object id).kind with
        | .list .. =>
            let names ← (← itemsOf call id).filterMapM fun item => do
              match item with
              | .text text => return some (Key.ofUnits text)
              | .number x => return some (Key.ofUnits (Number.toUnits x))
              | _ => return none
            pure (some names.eraseDups)
        | _ => pure none
    | _ => pure none
  let layout : Layout :=
    { replacer := if isReplacer then some replacer else none
      kept := kept
      gap := ← gapOf call gap }
  let holder ← newRecord [(.name [], value)]
  match ← writeMember call layout 4096 [] [] holder (.name []) value with
  | some text => return .text text
  | none => return .undefined

/-! ### Reading -/

def skipBlank (input : Units) : Units :=
  input.dropWhile fun unit => unit = 32 || unit = 9 || unit = 10 || unit = 13

def badJson {α : Type} : Run α :=
  fail .syntaxError "invalid JSON"

/-- A quoted text after its quote; `held` is what was read, the last unit first. -/
def readQuoted : Nat → Units → Units → Run (Units × Units)
  | 0, _, _ => badJson
  | fuel + 1, held, input =>
      match input with
      | [] => badJson
      | 34 :: rest => return (held.reverse, rest)
      | 92 :: unit :: rest =>
          let simple (unit : UInt16) : Run (Units × Units) := readQuoted fuel (unit :: held) rest
          match unit.toNat with
          | 34 => simple 34
          | 92 => simple 92
          | 47 => simple 47
          | 98 => simple 8
          | 102 => simple 12
          | 110 => simple 10
          | 114 => simple 13
          | 116 => simple 9
          | 117 =>
              let digits := Units.toCharsLossy (rest.take 4)
              if digits.length = 4 && digits.all (Number.isDigit 16) then
                readQuoted fuel (UInt16.ofNat (Number.ofDigits 16 digits) :: held) (rest.drop 4)
              else badJson
          | _ => badJson
      | unit :: rest =>
          if unit.toNat < 0x20 then badJson else readQuoted fuel (unit :: held) rest

def isNumberUnit (unit : UInt16) : Bool :=
  Key.isDigit unit || unit = 43 || unit = 45 || unit = 46 || unit = 69 || unit = 101

def isJsonNumber (text : List Char) : Bool :=
  let text := if text.head? = some '-' then text.drop 1 else text
  let (whole, rest) := text.span Char.isDigit
  let (fraction, exponent) :=
    match rest with
    | '.' :: tail => (some (tail.takeWhile Char.isDigit), tail.dropWhile Char.isDigit)
    | _ => (none, rest)
  let exponentFits :=
    match exponent with
    | [] => true
    | c :: tail =>
        let digits :=
          match tail with
          | '+' :: digits => digits
          | '-' :: digits => digits
          | digits => digits
        (c = 'e' || c = 'E') && !digits.isEmpty && digits.all Char.isDigit
  !whole.isEmpty && (whole.length = 1 || whole.head? != some '0')
    && (fraction.map (fun digits => !digits.isEmpty)).getD true && exponentFits

mutual

def readValue : Nat → Units → Run (Value × Units)
  | 0, _ => badJson
  | fuel + 1, input => do
      let input := skipBlank input
      let word (text : String) (value : Value) : Run (Value × Units) :=
        let units := Units.ofString text
        if units.isPrefixOf input then return (value, input.drop units.length) else badJson
      match input with
      | 34 :: rest =>
          let (text, rest) ← readQuoted (rest.length + 1) [] rest
          return (.text text, rest)
      | 91 :: rest =>
          match skipBlank rest with
          | 93 :: rest => return (← newList [], rest)
          | rest =>
              let (items, rest) ← readItems fuel rest
              return (← newList items, rest)
      | 123 :: rest =>
          match skipBlank rest with
          | 125 :: rest => return (← newRecord [], rest)
          | rest =>
              let (members, rest) ← readMembers fuel rest
              return (← newRecord members, rest)
      | 110 :: _ => word "null" .null
      | 116 :: _ => word "true" (.bool true)
      | 102 :: _ => word "false" (.bool false)
      | input =>
          let text := Units.toCharsLossy (input.takeWhile isNumberUnit)
          if isJsonNumber text then
            return (.number (Number.ofText text), input.dropWhile isNumberUnit)
          else badJson

def readItems : Nat → Units → Run (List Value × Units)
  | 0, _ => badJson
  | fuel + 1, input => do
      let (item, rest) ← readValue fuel input
      match skipBlank rest with
      | 44 :: rest =>
          let (items, rest) ← readItems fuel rest
          return (item :: items, rest)
      | 93 :: rest => return ([item], rest)
      | _ => badJson

def readMembers : Nat → Units → Run (List (Key × Value) × Units)
  | 0, _ => badJson
  | fuel + 1, input => do
      let 34 :: rest := skipBlank input | badJson
      let (name, rest) ← readQuoted (rest.length + 1) [] rest
      let 58 :: rest := skipBlank rest | badJson
      let (value, rest) ← readValue fuel rest
      match skipBlank rest with
      | 44 :: rest =>
          let (members, rest) ← readMembers fuel rest
          return ((Key.ofUnits name, value) :: members, rest)
      | 125 :: rest => return ([(Key.ofUnits name, value)], rest)
      | _ => badJson

end

def parseJson (text : Units) : Run Value := do
  let (value, rest) ← readValue (2 * text.length + 4) text
  if (skipBlank rest).isEmpty then return value else badJson

def runJson (call : Caller) (function : JsonFunction) (arguments : List Value) : Run Value := do
  match function with
  | .stringify =>
      stringify call (argument arguments 0) (argument arguments 1) (argument arguments 2)
  | .parse => parseJson (← toText call (argument arguments 0))

end Stencil.Script.Run
