import Stencil.Settings.Basic

/-!
The fields that a settings document may hold, by their names. An engine that exists has no field.
-/

namespace Stencil.Settings

/-- What a field holds, and how it becomes part of the settings. -/
inductive Slot where
  | text (put : Option String → Settings → Settings)
  | texts (put : Option (List String) → Settings → Settings)
  | flag (put : Option Bool → Settings → Settings)

def slots : List (String × Slot) :=
  [("engine_name", .text fun value settings => { settings with engineName := value }),
    ("scripts", .texts fun value settings => { settings with scripts := value }),
    ("render_object", .text fun value settings => { settings with renderObject := value }),
    ("render_function", .text fun value settings => { settings with renderFunction := value }),
    ("charset", .text fun value settings => { settings with charset := value }),
    ("content_type", .text fun value settings => { settings with contentType := value }),
    ("resource_loader_path", .text fun value settings => { settings with loaderPath := value }),
    ("shared_engine", .flag fun value settings => { settings with shared := value })]

end Stencil.Settings
