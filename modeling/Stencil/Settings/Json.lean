import Stencil.Error.Basic
import Stencil.Json.Record
import Stencil.Settings.Slot

/-!
Settings in JSON: an object with the names of the fields, each at most once, or a list of the fields
in their order. `null` leaves a field unset. An engine that exists cannot be given.
-/

namespace Stencil.Settings

/-- An unset field is `null`. -/
def jsonField {α : Type} (write : α → Json) : Option α → Json
  | some value => write value
  | none => .null

/-- The fields by their names; an engine that exists is left out. -/
def toJson (settings : Settings) : List (String × Json) :=
  [("engine_name", jsonField .string settings.engineName),
    ("scripts", jsonField (fun scripts => .array (scripts.map .string)) settings.scripts),
    ("render_object", jsonField .string settings.renderObject),
    ("render_function", jsonField .string settings.renderFunction),
    ("charset", jsonField .string settings.charset),
    ("content_type", jsonField .string settings.contentType),
    ("resource_loader_path", jsonField .string settings.loaderPath),
    ("shared_engine", jsonField .bool settings.shared)]

def jsonRead {α : Type} (read : Json.Reader α) (put : Option α → Settings → Settings) :
    Json.Reader (Settings → Settings) := fun input =>
  match Json.Reader.optional read input with
  | .ok (value, rest) => .ok (put value, rest)
  | .error fault => .error fault

def Slot.json : Slot → Json.Reader (Settings → Settings)
  | .text put => jsonRead Json.Reader.string put
  | .texts put => jsonRead (Json.Reader.list Json.Reader.string) put
  | .flag put => jsonRead Json.Reader.boolean put

def jsonRecord : Json.Record Settings where
  title := "struct ScriptTemplateConfig"
  slots := slots.map fun (name, slot) => ⟨name, slot.json⟩
  start := {}
  mayStop := true

def ofJson (text : String) : Except ConfigFault Settings :=
  let input := text.toList
  match Json.Reader.whole (jsonRecord.read .ok) input with
  | .ok settings => .ok settings
  | .error fault => .error (.json (fault.describe input))

end Stencil.Settings
