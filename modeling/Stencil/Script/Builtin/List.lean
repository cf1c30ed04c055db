import Stencil.Script.Builtin.Object

/-!
The functions on lists. They work on every object that has a length and indices.
-/

namespace Stencil.Script.Run

def joinedItem (call : Caller) (value : Value) : Run Units := do
  if value.isNothing then return [] else toText call value

/-- The items of a list as one text. A list that is met again inside itself adds nothing. -/
def join (call : Caller) (id : Nat) (separator : Units) : Run Value := do
  if (← MonadState.get).joining.contains id then return .text []
  modify fun machine => { machine with joining := id :: machine.joining }
  let outcome ← attempt do
    (← itemsOf call id).mapM (joinedItem call)
  modify fun machine => { machine with joining := machine.joining.tail }
  match outcome with
  | .ok texts => return .text (List.intercalate separator texts)
  | .error thrown => throw thrown

/-- A position that an argument gives, or the usual one. -/
def positionOf (call : Caller) (value : Value) (length usual : Nat) : Run Nat := do
  if value.isUndefined then return usual
  else return Number.clampRelative (← toNumber call value) length

/-- Gives an object the items of a list, and their number as its length. -/
def refill (call : Caller) (id : Nat) (items : List Value) : Run Unit := do
  let before ← lengthOf call id
  for (item, index) in items.zipIdx do
    put call true (.object id) (.index index) item
  for index in List.range' items.length (before - items.length) do
    let _ ← remove id (.index index)
  put call true (.object id) .length (.ofNat items.length)

def present (call : Caller) (id : Nat) : Run (List (Nat × Value)) := do
  let indices ← (List.range (← lengthOf call id)).filterM fun index => has id (.index index)
  indices.mapM fun index => return (index, ← getOf call id (.index index))

/-- Runs through the items that are there; each is looked up when its turn comes. -/
def visit {α : Type} (call : Caller) (id : Nat) (turn : Value → Nat → Run (Option α)) :
    List Nat → Run (Option α)
  | [] => return none
  | index :: rest => do
      if ← has id (.index index) then
        match ← turn (← getOf call id (.index index)) index with
        | some answer => return some answer
        | none => visit call id turn rest
      else visit call id turn rest

/-- The order in which a list is sorted, `undefined` last. -/
def inOrder (call : Caller) (compare : Value) (a b : Value) : Run Bool := do
  if a.isUndefined then return b.isUndefined
  else if b.isUndefined then return true
  else if compare.isUndefined then
    let left ← toText call a
    let right ← toText call b
    return !decide (right < left)
  else
    let x ← toNumber call (← call compare .undefined [a, b])
    return !(0.0 < x)

/-- Puts an item behind those that stand before it in the order. The items are held back to front.
-/
def insertSorted (ordered : Value → Value → Run Bool) (value : Value) :
    List Value → Run (List Value)
  | [] => return [value]
  | last :: rest => do
      if ← ordered last value then return value :: last :: rest
      else return last :: (← insertSorted ordered value rest)

def sortItems (ordered : Value → Value → Run Bool) (items : List Value) : Run (List Value) := do
  let sorted ← items.foldlM (fun held value => insertSorted ordered value held) []
  return sorted.reverse

/-- The items of lists among the items, to a depth. -/
def flatten (call : Caller) : Nat → List Value → Run (List Value)
  | 0, items => return items
  | depth + 1, items => do
      let parts ← items.mapM fun item => do
        match item with
        | .object id =>
            match (← object id).kind with
            | .list .. => flatten call depth (← itemsOf call id)
            | _ => return [item]
        | _ => return [item]
      return parts.flatten

/-- The place of the first value that equals a wanted one. -/
def findPlace (wanted : Value) (same : Value → Value → Bool) (items : List (Nat × Value)) : Value :=
  match items.find? (fun item => same item.2 wanted) with
  | some (index, _) => .ofNat index
  | none => .number (-1.0)

/-- The functions that give every item to a function. -/
def runVisitor (call : Caller) (function : ListFunction) (id : Nat) (arguments : List Value) :
    Run Value := do
  let action := argument arguments 0
  let receiver := argument arguments 1
  let length ← lengthOf call id
  if !(← isFunction action) then wrongType "callback is not a function"
  let ask (value : Value) (index : Nat) : Run Value :=
    call action receiver [value, .ofNat index, .object id]
  let indices := List.range length
  match function with
  | .map =>
      let result ← newList []
      let .object made := result | return result
      let _ ← setLength made length
      let _ ← visit (α := Unit) call id (fun value index => do
        place made (.index index) (.plain (← ask value index))
        return none) indices
      return result
  | .filter =>
      let kept ← indices.filterMapM fun index => do
        if !(← has id (.index index)) then return none
        let value ← getOf call id (.index index)
        return if toBool (← ask value index) then some value else none
      newList kept
  | .some =>
      let found ← visit call id (fun value index => do
        return if toBool (← ask value index) then some () else none) indices
      return .bool found.isSome
  | .every =>
      let found ← visit call id (fun value index => do
        return if toBool (← ask value index) then none else some ()) indices
      return .bool found.isNone
  | .find =>
      for index in indices do
        let value ← getOf call id (.index index)
        if toBool (← ask value index) then return value
      return .undefined
  | .findIndex =>
      for index in indices do
        let value ← getOf call id (.index index)
        if toBool (← ask value index) then return .ofNat index
      return .number (-1.0)
  | _ =>
      let _ ← visit (α := Unit) call id (fun value index => do
        let _ ← ask value index
        return none) indices
      return .undefined

/-- Folds the items into one value, from the left or from the right. -/
def reduce (call : Caller) (id : Nat) (arguments : List Value) (right : Bool) : Run Value := do
  let action := argument arguments 0
  if !(← isFunction action) then wrongType "callback is not a function"
  let items ← present call id
  let items := if right then items.reverse else items
  let (start, items) ←
    match arguments with
    | _ :: start :: _ => pure (start, items)
    | _ =>
        match items with
        | (_, first) :: rest => pure (first, rest)
        | [] => wrongType "reduce of an empty list with no initial value"
  items.foldlM (fun held item => call action .undefined [held, item.2, .ofNat item.1, .object id])
    start

/-- A list without a `join` describes itself as every object does. -/
def describeList (call : Caller) (id : Nat) : Run Value := do
  let method ← getOf call id (.ofString "join")
  if ← isFunction method then call method (.object id) []
  else return .text (Units.ofString ("[object " ++ (← tagOf id) ++ "]"))

/-- The functions on an object that has a length and indices. -/
def runOnList (call : Caller) (function : ListFunction) (id : Nat) (arguments : List Value) :
    Run Value := do
  let first := argument arguments 0
  let second := argument arguments 1
  match function with
  | .push =>
      let length ← lengthOf call id
      for (item, index) in arguments.zipIdx do
        put call true (.object id) (.index (length + index)) item
      let length := Value.ofNat (length + arguments.length)
      put call true (.object id) .length length
      return length
  | .pop =>
      let items ← itemsOf call id
      match items.getLast? with
      | none =>
          put call true (.object id) .length (.ofNat 0)
          return .undefined
      | some last =>
          let _ ← remove id (.index (items.length - 1))
          put call true (.object id) .length (.ofNat (items.length - 1))
          return last
  | .shift =>
      match ← itemsOf call id with
      | [] =>
          put call true (.object id) .length (.ofNat 0)
          return .undefined
      | first :: rest =>
          refill call id rest
          return first
  | .unshift =>
      let items ← itemsOf call id
      refill call id (arguments ++ items)
      return .ofNat (arguments.length + items.length)
  | .join =>
      join call id (← if first.isUndefined then pure (Units.ofString ",") else toText call first)
  | .concat =>
      let spread (value : Value) : Run (List Value) := do
        match value with
        | .object held =>
            match (← object held).kind with
            | .list .. => itemsOf call held
            | _ => return [value]
        | _ => return [value]
      newList (← (.object id :: arguments).mapM spread).flatten
  | .slice =>
      let items ← itemsOf call id
      let start ← positionOf call first items.length 0
      let finish ← positionOf call second items.length items.length
      newList ((items.take finish).drop start)
  | .splice =>
      let items ← itemsOf call id
      let start ← positionOf call first items.length 0
      let count ←
        match arguments with
        | [] => pure 0
        | [_] => pure (items.length - start)
        | _ => pure (Number.clamp (← toNumber call second) (items.length - start))
      refill call id (items.take start ++ arguments.drop 2 ++ items.drop (start + count))
      newList ((items.drop start).take count)
  | .reverse =>
      refill call id (← itemsOf call id).reverse
      return .object id
  | .indexOf =>
      let items ← present call id
      let start ← positionOf call second (← lengthOf call id) 0
      return findPlace first identical (items.filter (fun item => start ≤ item.1))
  | .lastIndexOf => return findPlace first identical (← present call id).reverse
  | .includes => return .bool ((← itemsOf call id).any (fun item => alike item first))
  | .reduce => reduce call id arguments false
  | .reduceRight => reduce call id arguments true
  | .sort =>
      if !first.isUndefined && !(← isFunction first) then
        wrongType "comparator is not a function"
      refill call id (← sortItems (inOrder call first) (← itemsOf call id))
      return .object id
  | .fill =>
      let length ← lengthOf call id
      let start ← positionOf call second length 0
      let finish ← positionOf call (argument arguments 2) length length
      for index in List.range' start (finish - start) do
        put call true (.object id) (.index index) first
      return .object id
  | .at =>
      let length ← lengthOf call id
      let place := Number.toInteger (← toNumber call first)
      let place := if place < 0 then place + length else place
      if place < 0 then return .undefined else getOf call id (.index place.toNat)
  | .flat =>
      let depth ← if first.isUndefined then pure 1 else toInteger call first
      newList (← flatten call (min depth.toNat 64) (← itemsOf call id))
  | function => runVisitor call function id arguments

def runList (call : Caller) (function : ListFunction) (this : Value) (arguments : List Value)
    (maker : Option Nat) : Run Value := do
  let first := argument arguments 0
  let second := argument arguments 1
  match function with
  | .make =>
      let prototype ← prototypeFor call maker listPrototype
      let result ←
        match arguments with
        | [.number x] =>
            match lengthOf? (.number x) with
            | some length => allocate { prototype := none, kind := .list length false }
            | none => fail .rangeError "invalid array length"
        | items =>
            match ← newList items with
            | .object id => pure id
            | _ => allocate { prototype := none, kind := .list 0 false }
      update result fun held => { held with prototype := some prototype }
      return .object result
  | .isList =>
      match first with
      | .object id =>
          match (← object id).kind with
          | .list .. => return .bool true
          | _ => return .bool false
      | _ => return .bool false
  | .ofItems => newList arguments
  | .copyOf =>
      let items ←
        match first with
        | .object id => itemsOf call id
        | .text _ => iterate call first
        | _ => if first.isNothing then wrongType "value is not iterable" else pure []
      if second.isUndefined then newList items
      else
        newList (← items.zipIdx.mapM fun (item, index) =>
          call second (argument arguments 2) [item, .ofNat index])
  | .describe =>
      describeList call (← toObject this)
  | function => runOnList call function (← toObject this) arguments

end Stencil.Script.Run
