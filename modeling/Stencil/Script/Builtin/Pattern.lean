import Stencil.Script.Function
import Stencil.Script.Operator

/-!
The functions on patterns, and how texts are searched with them. A global pattern remembers where
its last match ended.
-/

namespace Stencil.Script.Run

def lastIndex : Key := .ofString "lastIndex"

def newPattern (body flags : Units) (prototype : Nat) : Run Value := do
  match Pattern.ofText? body flags with
  | none => fail .syntaxError "invalid regular expression"
  | some compiled =>
      return .object (← allocate
        { prototype := some prototype
          kind := .pattern body flags compiled
          properties := .ofList
            [(lastIndex,
              { slot := .value (.ofNat 0) true, enumerable := false, configurable := false })] })

/-- What a pattern object holds. -/
structure HeldPattern where
  id : Nat
  source : Units
  flags : Units
  compiled : Pattern

def pattern? (value : Value) : Run (Option HeldPattern) := do
  match value with
  | .object id =>
      match (← object id).kind with
      | .pattern source flags compiled => return some ⟨id, source, flags, compiled⟩
      | _ => return none
  | _ => return none

def HeldPattern.has (held : HeldPattern) (flag : Char) : Bool :=
  held.flags.contains (UInt16.ofNat flag.toNat)

/-- The next match of a pattern in a text, from where the last one ended if it keeps count. -/
def nextMatch (call : Caller) (held : HeldPattern) (text : Array UInt16) :
    Run (Option Pattern.Found) := do
  let counts := held.has 'g' || held.has 'y'
  let start ← if counts then toInteger call (← getOf call held.id lastIndex) else pure 0
  let setLast (place : Nat) : Run Unit := put call true (.object held.id) lastIndex (.ofNat place)
  let found :=
    if (text.size : Int) < start then none
    else if held.has 'y' then held.compiled.matchAt text start.toNat
    else held.compiled.find text start.toNat
  if counts then setLast ((found.map Pattern.Found.finish).getD 0)
  return found

/-- Every match of a pattern in a text, one after the other. -/
def allMatches (pattern : Pattern) (text : Array UInt16) : Nat → Nat → List Pattern.Found
  | 0, _ => []
  | fuel + 1, position =>
      match pattern.find text position with
      | none => []
      | some found =>
          found :: allMatches pattern text fuel
            (if found.finish = found.start then found.finish + 1 else found.finish)

def groupText (text : Units) : Option (Nat × Nat) → Value
  | some (start, finish) => .text ((text.take finish).drop start)
  | none => .undefined

def matchList (text : Units) (found : Pattern.Found) : Run Value := do
  let result ← newList
    (groupText text (some (found.start, found.finish)) :: found.groups.map (groupText text))
  if let .object id := result then
    place id (.ofString "index") (.plain (.ofNat found.start))
    place id (.ofString "input") (.plain (.text text))
    place id (.ofString "groups") (.plain .undefined)
  return result

/-- The answer of `exec`. -/
def execPattern (call : Caller) (held : HeldPattern) (text : Units) : Run Value := do
  match ← nextMatch call held text.toArray with
  | some found => matchList text found
  | none => return .null

def runPattern (call : Caller) (function : PatternFunction) (this : Value)
    (arguments : List Value) (maker : Option Nat) : Run Value := do
  let first := argument arguments 0
  let second := argument arguments 1
  match function with
  | .make =>
      let given ← pattern? first
      let body ←
        match given with
        | some held => pure held.source
        | none => if first.isUndefined then pure [] else toText call first
      let flags ←
        if second.isUndefined then pure ((given.map HeldPattern.flags).getD [])
        else toText call second
      newPattern body flags (← prototypeFor call maker patternPrototype)
  | function =>
      match ← pattern? this with
      | none => wrongType "receiver is no pattern"
      | some held =>
          match function with
          | .exec => execPattern call held (← toText call first)
          | .test =>
              return .bool (← nextMatch call held (← toText call first).toArray).isSome
          | .source =>
              return .text (if held.source.isEmpty then Units.ofString "(?:)" else held.source)
          | .flags => return .text held.flags
          | .isGlobal => return .bool (held.has 'g')
          | _ =>
              let source := if held.source.isEmpty then Units.ofString "(?:)" else held.source
              return .text (47 :: source ++ 47 :: held.flags)

end Stencil.Script.Run
