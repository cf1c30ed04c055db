import Stencil.Error.Basic
import Stencil.Settings.Slot
import Stencil.Toml.Document

/-!
Settings in TOML: a table with the names of the fields. The whole document is read first; then the
first field that has no such name, or holds a value of another kind, is at fault.
-/

namespace Stencil.Settings

namespace Toml

open Stencil.Toml (Value Entries Fault)

def text? : Value → Option String
  | .text text => some text
  | _ => none

def texts? : Value → Option (List String)
  | .array items => items.mapM text?
  | _ => none

def flag? : Value → Option Bool
  | .boolean value => some value
  | _ => none

def change? (slot : Slot) (value : Value) : Option (Settings → Settings) :=
  match slot with
  | .text put => (text? value).map fun text => put (some text)
  | .texts put => (texts? value).map fun texts => put (some texts)
  | .flag put => (flag? value).map fun flag => put (some flag)

def ofEntries (entries : Entries) : Except MarkupFault Settings :=
  entries.foldlM (fun settings (name, value) =>
    match slots.lookup name with
    | none => .error .unknownField
    | some slot =>
        match change? slot value with
        | none => .error .invalidType
        | some change => .ok (change settings)) {}

def faultOf : Fault → MarkupFault
  | .duplicateKey => .duplicateKey
  | .malformed => .other

end Toml

def ofToml (text : String) : Except ConfigFault Settings :=
  match Stencil.Toml.parse text with
  | .error fault => .error (.toml (Toml.faultOf fault))
  | .ok entries => (Toml.ofEntries entries).mapError .toml

end Stencil.Settings
