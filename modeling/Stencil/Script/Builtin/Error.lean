import Stencil.Script.Function

/-!
Errors: their making, and how they are shown. An error is shown as its name and its message, looked
up along its prototypes; a part that is empty is left out with the colon.
-/

namespace Stencil.Script

/-- A name and a message with a colon between them. -/
def nameAndMessage (name message : Units) : Units :=
  if name.isEmpty then message
  else if message.isEmpty then name
  else name ++ Units.ofString ": " ++ message

namespace Run

def makeError (call : Caller) (kind : ErrorKind) (arguments : List Value) (maker : Option Nat) :
    Run Value := do
  let id ← allocate
    { prototype := some (← prototypeFor call maker (errorPrototype kind)), kind := .error }
  let message := argument arguments 0
  if !message.isUndefined then
    place id (.ofString "message") (.hidden (.text (← toText call message)))
  match argument arguments 1 with
  | .object options =>
      let cause := Key.ofString "cause"
      if ← has options cause then place id cause (.hidden (← getOf call options cause))
  | _ => pure ()
  return .object id

def describeError (call : Caller) (this : Value) : Run Value := do
  let .object id := this | wrongType "receiver is no object"
  let name ← getOf call id (.ofString "name")
  let message ← getOf call id (.ofString "message")
  let name ← if name.isUndefined then pure (Units.ofString "Error") else toText call name
  let message ← if message.isUndefined then pure [] else toText call message
  return .text (nameAndMessage name message)

/-! ### Errors that leave the machine -/

/-- A number as a diagnostic shows it: a zero keeps its sign. -/
def showNumber (x : Float) : String :=
  if x == 0.0 && Decimal.isNegative x then "-0" else String.ofList (Number.write x)

/-- A value that is no object as a diagnostic shows it: a text in quotes, all else plain. -/
def showPlain (value : Value) : Run String := do
  match value with
  | .undefined => return "undefined"
  | .null => return "null"
  | .bool value => return Text.showBool value
  | .number x => return showNumber x
  | .text text => return "\"" ++ Units.toString text ++ "\""
  | .symbol id =>
      let description := ((← MonadState.get).symbols[id]?).join.getD []
      return "Symbol(" ++ Units.toString description ++ ")"
  | .object _ => return "[object]"

def stored (id : Nat) (name : String) : Run (Option Value) := do
  match ← find? id (.ofString name) with
  | some (_, { slot := .value value _, .. }) => return some value
  | _ => return none

def showPart (usual : Units) : Option Value → Run Units
  | none => return usual
  | some (.text text) => return text
  | some value => return Units.ofString (← showPlain value)

/-- An object as a diagnostic shows it, its members one on a line. -/
def showObject (id : Nat) : Run String := do
  let held ← object id
  match held.kind with
  | .error =>
      let name ← showPart (Units.ofString "<error>") (← stored id "name")
      let message ← showPart [] (← stored id "message")
      return Units.toString (nameAndMessage name message)
  | .list length _ =>
      if length = 0 then return "[]"
      let items ← (List.range length).mapM fun index => do
        match ← ownProperty? id (.index index) with
        | some { slot := .value value _, .. } => showPlain value
        | _ => return "<empty>"
      return "[ " ++ String.intercalate ", " items ++ " ]"
  | .closure code _ _ =>
      let name := Units.toString code.id
      return if name.isEmpty then "[Function (anonymous)]" else "[Function: " ++ name ++ "]"
  | _ =>
      let lines ← held.properties.entries.toList.mapM fun (key, property) => do
        match property.slot with
        | .value value _ =>
            return "   " ++ Units.toString key.toUnits ++ ": " ++ (← showPlain value)
        | .accessor .. => return "   " ++ Units.toString key.toUnits ++ ": Accessor"
      if lines.isEmpty then return "\x7b\x7d"
      return "\x7b\n" ++ String.intercalate ",\n" lines ++ "\n\x7d"

def tooDeepMessage : String := "RuntimeLimit: exceeded maximum number of recursive calls"

def showThrown : Thrown → Run String
  | .value (.object id) => showObject id
  | .value value => showPlain value
  | .fault kind message => return kind.name ++ ": " ++ message
  | .tooDeep => return tooDeepMessage

end Run

end Stencil.Script
