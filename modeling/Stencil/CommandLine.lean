import Stencil.Engine.Bundled
import Stencil.Settings.File
import Stencil.View.Render

/-!
The command line. Without arguments it renders a demonstration; with settings, a template and
perhaps a model it renders that template from the current directory. `CommandLine.run` says what is
printed.
-/

namespace Stencil.CommandLine

structure Outcome where
  code : UInt32
  output : String := ""
  errors : String := ""
  deriving DecidableEq, Repr

def usage : String :=
  "usage: scriptview [<config.(yaml|toml|json)> <template> [<model.json>]]\n"

/-- A view that is to be built, and what makes the model it is rendered with. The model is asked for
only when the view is built. -/
structure Task where
  loader : Loader
  settings : Settings
  template : String
  model : Except ViewError (List (String × Json))

/-! ### The demonstration -/

def demoScript : String :=
  "\nfunction render(template, model) \x7b\n"
    ++ "    return template.replace(/\\\x7b\\\x7b\\s*(\\w+)\\s*\\\x7d\\\x7d/g, "
    ++ "function(_, key) \x7b\n"
    ++ "        return model[key] === undefined ? '' : String(model[key]);\n"
    ++ "    \x7d);\n"
    ++ "\x7d\n"

def demoTemplate : String :=
  "<h1>Hello, \x7b\x7b name \x7d\x7d!</h1>\n<p>Rendered by \x7b\x7b engine \x7d\x7d.</p>"

def demo : Task where
  loader :=
    Loader.ofContents
      [("render.js", Utf8.encodeString demoScript),
        ("templates/hello.html", Utf8.encodeString demoTemplate)]
  settings :=
    { engineName := some "javascript"
      scripts := some ["render.js"]
      renderFunction := some "render" }
  template := "templates/hello.html"
  model := .ok [("name", .string "scriptview"), ("engine", .string "javascript")]

/-! ### Files -/

def readModel (files : FileSystem) (path : String) : Except ViewError (List (String × Json)) :=
  match files.readText path with
  | .error cause => .error (.file cause)
  | .ok text =>
      let input := text.toList
      match Json.Reader.whole Json.Reader.mapping input with
      | .ok members => .ok members
      | .error fault => .error (.configuration (.model path (fault.describe input)))

/-- The directory that templates and scripts are looked up in. -/
def base (files : FileSystem) : String :=
  FileSystem.pathOf files.current

/-- The rendering of a template by the settings of a file. -/
def fromFiles (files : FileSystem) (config template : String) (model : Option String) :
    Except ViewError Task :=
  match Settings.ofFile files config with
  | .error fault => .error (.configuration fault)
  | .ok settings =>
      .ok
        { loader := .classpath [base files]
          settings
          template
          model := (model.map (readModel files)).getD (.ok []) }

/-! ### Running -/

def render (files : FileSystem) (task : Task) : Except ViewError Response := do
  let environment : Environment Bundled := ⟨task.loader, Bundled.registry 0, [task.settings]⟩
  let host : Host Bundled := { files }
  let builder : ViewBuilder := { url := some task.template }
  let (built, host) := builder.build environment host
  let view ← built
  let model ← task.model
  let (context, host) := host.openContext (some "main")
  (view.render context model host).answer

/-- What is printed for a response, or for what went wrong. -/
def report : Except ViewError Response → Outcome
  | .ok response =>
      { code := 0
        output := "Content-Type: " ++ response.contentType ++ "\n\n" ++ response.text ++ "\n" }
  | .error fault => { code := 1, errors := "[ERROR] " ++ fault.message ++ "\n" }

def run (files : FileSystem) (arguments : List String) : Outcome :=
  let start (config template : String) (model : Option String) : Outcome :=
    report ((fromFiles files config template model).bind (render files))
  match arguments with
  | [] => report (render files demo)
  | [config, template] => start config template none
  | [config, template, model] => start config template (some model)
  | _ => { code := 2, errors := usage }

/-! ### What a run looks at -/

def pathUnder (directory location : String) : String :=
  (Location.filePath? location).getD (Path.join directory (Location.relative location))

/-- The paths of a template and of what its settings name. The settings' file has to be known. -/
def lookups (files : FileSystem) (arguments : List String) : List String :=
  match arguments with
  | config :: template :: _ =>
      match Settings.ofFile files config with
      | .error _ => []
      | .ok settings =>
          let roots :=
            (searchEntries (settings.loaderPath.getD "classpath:")).map (pathUnder (base files))
          let locations := template :: settings.scripts.getD []
          roots ++ (base files :: roots).flatMap fun root => locations.map (pathUnder root)
  | _ => []

/-- The paths of the files that the arguments name. -/
def named : List String → List String
  | [config, _] => [config]
  | [config, _, model] => [config, model]
  | _ => []

end Stencil.CommandLine
