import Stencil.Error.Basic
import Stencil.Settings.Slot
import Stencil.Yaml.Document
import Stencil.Yaml.Schema

/-!
Settings in YAML: a mapping with the names of the fields, each at most once, or nothing at all.
Every scalar is a text; only a plain one may stand for an unset field or a truth value. Of two
faults the one that comes first in the document counts, and a fault of the document itself stands
where it ends.
-/

namespace Stencil.Settings

namespace Yaml

open Stencil.Yaml (Style Document)
open Stencil.Yaml.Schema (Kind kindOfTag? isNothing boolean? suits)

/-- What is read from a document at a place among its events. -/
abbrev Reader (α : Type) := Document → List Yaml.Event → Except MarkupFault (α × List Yaml.Event)

/-- The event at a place and the events of its node; aliases are followed. The third part is where
to go on after the node, if not there. -/
def follow (document : Document) :
    List Yaml.Event → Except MarkupFault (Yaml.Event × List Yaml.Event × Option (List Yaml.Event))
  | .alias number :: rest =>
      match document.target number with
      | event :: inner => .ok (event, inner, some rest)
      | [] => .error .other
  | event :: rest => .ok (event, rest, none)
  | [] => .error .other

/-- The fault of a node of the wrong kind. A scalar that fails its own tag has another one. -/
def wrongKind : Yaml.Event → MarkupFault
  | .scalar text _ (some tag) =>
      match kindOfTag? tag with
      | some kind => if suits kind text then .invalidType else .other
      | none => .invalidType
  | .void => .other
  | _ => .invalidType

def string : Reader String := fun document events => do
  match ← follow document events with
  | (.scalar text _ _, rest, after) => return (String.ofList text, after.getD rest)
  | (event, _, _) => throw (wrongKind event)

/-- Whether a scalar may be taken for a truth value. -/
def mayBeFlag : Style → Option (List Char) → Bool
  | .plain, _ => true
  | .literal, some tag => kindOfTag? tag = some .boolean
  | _, _ => false

def flag : Reader Bool := fun document events => do
  match ← follow document events with
  | (.scalar text style tag, rest, after) =>
      match if mayBeFlag style tag then boolean? text else none with
      | some value => return (value, after.getD rest)
      | none => throw (wrongKind (.scalar text style tag))
  | (event, _, _) => throw (wrongKind event)

def stringsLoop (document : Document) :
    Nat → List String → List Yaml.Event → Except MarkupFault (List String × List Yaml.Event)
  | 0, _, _ => .error .other
  | fuel + 1, held, events =>
      match events with
      | .sequenceEnd :: rest => .ok (held.reverse, rest)
      | events => do
          let (text, rest) ← string document events
          stringsLoop document fuel (text :: held) rest

/-- A sequence of strings. An empty plain scalar is an empty one. -/
def strings : Reader (List String) := fun document events => do
  match ← follow document events with
  | (.sequenceStart, inner, after) =>
      let (texts, rest) ← stringsLoop document (inner.length + 1) [] inner
      return (texts, after.getD rest)
  | (.scalar [] .plain _, rest, after) => return ([], after.getD rest)
  | (event, _, _) => throw (wrongKind event)

def isUnset : Yaml.Event → Except MarkupFault Bool
  | .scalar text .plain none => .ok (text.isEmpty || isNothing text)
  | .scalar text .plain (some tag) =>
      if kindOfTag? tag = some .nothing then
        (if isNothing text then .ok true else .error .other)
      else .ok false
  | .void => .ok true
  | _ => .ok false

def optional {α : Type} (read : Reader α) : Reader (Option α) := fun document events => do
  let (event, rest, after) ← follow document events
  if ← isUnset event then return (none, after.getD rest)
  else
    let (value, rest) ← read document events
    return (some value, rest)

def slot : Slot → Reader (Settings → Settings)
  | .text put => fun document events =>
      (optional string document events).map fun (value, rest) => (put value, rest)
  | .texts put => fun document events =>
      (optional strings document events).map fun (value, rest) => (put value, rest)
  | .flag put => fun document events =>
      (optional flag document events).map fun (value, rest) => (put value, rest)

/-- The fields of a mapping; `seen` are those that were given. -/
def fields (document : Document) :
    Nat → (seen : List String) → Settings → List Yaml.Event → Except MarkupFault Settings
  | 0, _, _, _ => .error .other
  | fuel + 1, seen, settings, events =>
      match events with
      | .mappingEnd :: _ => .ok settings
      | events => do
          let (name, rest) ← string document events
          match slots.lookup name with
          | none => throw .unknownField
          | some field =>
              if name ∈ seen then throw .duplicateField
              let (change, rest) ← slot field document rest
              fields document fuel (name :: seen) (change settings) rest

/-- Settings from a document. Nothing may come after it. -/
def ofDocument (document : Document) : Except MarkupFault Settings := do
  let settings ←
    match ← follow document document.events with
    | (.mappingStart, inner, _) => fields document (inner.length + 1) [] {} inner
    | (.void, _, _) => pure {}
    | (.scalar [] .plain _, _, _) => pure {}
    | (event, _, _) => throw (wrongKind event)
  if document.single then return settings else throw .other

end Yaml

def ofYaml (text : String) : Except ConfigFault Settings :=
  (Yaml.ofDocument (Stencil.Yaml.Document.ofText text)).mapError .yaml

end Stencil.Settings
