import Stencil.Files.System
import Stencil.Settings.Json
import Stencil.Settings.Toml
import Stencil.Settings.Yaml

/-!
Settings in files. The ending of a file's name says in which format it is; a file that cannot be
read is at fault before its name is.
-/

namespace Stencil.Settings

inductive Format where
  | yaml
  | toml
  | json
  deriving DecidableEq, Repr

namespace Format

def ofExtension? (extension : String) : Option Format :=
  [("yaml", Format.yaml), ("yml", .yaml), ("toml", .toml), ("json", .json)].lookup extension

def read : Format → String → Except ConfigFault Settings
  | .yaml => ofYaml
  | .toml => ofToml
  | .json => ofJson

end Format

def ofFile (files : FileSystem) (path : String) : Except ConfigFault Settings :=
  match files.readText path with
  | .error cause => .error (.unreadable path cause)
  | .ok text =>
      let extension := Path.extension? path
      match extension.bind Format.ofExtension? with
      | some format => format.read text
      | none => .error (.unsupportedFormat extension)

end Stencil.Settings
