import Stencil.Json.Fault

/-!
What can go wrong with a view. `ScriptError` is what an engine answers, `FileError` what the file
system answers, `ViewError` what configuring, building and rendering answer. A rendering failure
wraps its cause; `ViewError.rootCause` looks through the wrappers.
-/

namespace Stencil

/-- What an engine answers when it cannot do what it was asked. -/
inductive ScriptError where
  | evaluation (message : String)
  | functionNotFound (name : String)
  | notCallable (name : String)
  | conversion (message : String)
  | unavailable (message : String)
  deriving DecidableEq, Repr

def ScriptError.message : ScriptError → String
  | .evaluation message => "Evaluation error: " ++ message
  | .functionNotFound name => "Function not found: " ++ name
  | .notCallable name => "Value is not callable: " ++ name
  | .conversion message => "Conversion error: " ++ message
  | .unavailable message => "Engine unavailable: " ++ message

inductive FileError where
  | notFound
  | notADirectory
  | isADirectory
  | nameTooLong
  | nulInName
  | notUtf8
  | noResource (location : String)
  | other (message : String)
  deriving DecidableEq, Repr

def FileError.message : FileError → String
  | .notFound => "No such file or directory (os error 2)"
  | .notADirectory => "Not a directory (os error 20)"
  | .isADirectory => "Is a directory (os error 21)"
  | .nameTooLong => "File name too long (os error 36)"
  | .nulInName => "file name contained an unexpected NUL byte"
  | .notUtf8 => "stream did not contain valid UTF-8"
  | .noResource location => "Resource " ++ location ++ " not found"
  | .other message => message

/-- What is wrong with a text in YAML or TOML. -/
inductive MarkupFault where
  | unknownField
  | duplicateField
  | duplicateKey
  | invalidType
  | other
  deriving DecidableEq, Repr

def MarkupFault.message : MarkupFault → String
  | .unknownField => "unknown field"
  | .duplicateField => "duplicate field"
  | .duplicateKey => "duplicate key"
  | .invalidType => "invalid type"
  | .other => "other"

/-- Why settings, or what they ask for, cannot be used. -/
inductive ConfigFault where
  | bothEngines
  | noEngine
  | unsharedInstance
  | noRenderFunction
  | unknownCharset (label : String)
  | noUrl
  | templateConfigs (count : Nat)
  | loader (cause : FileError)
  | unknownEngine (name : String)
  | engine (name : String) (cause : ScriptError)
  | unreadable (path : String) (cause : FileError)
  | unsupportedFormat (extension : Option String)
  | yaml (fault : MarkupFault)
  | toml (fault : MarkupFault)
  | json (message : String)
  | model (path message : String)
  | other (message : String)
  deriving DecidableEq, Repr

def ConfigFault.message : ConfigFault → String
  | .bothEngines => "You should define engine or engine_name properties, not both."
  | .noEngine =>
      "No script engine found, please specify valid engine or engine_name properties."
  | .unsharedInstance =>
      "When shared_engine is set to false, the script engine must be specified with engine_name, "
        ++ "not engine."
  | .noRenderFunction => "render_function property must be defined."
  | .unknownCharset label => "Unknown charset: " ++ label
  | .noUrl => "Property 'url' is required"
  | .templateConfigs count =>
      "Expected a single ScriptTemplateConfig in the view environment, found "
        ++ (if count = 0 then "none" else toString count)
  | .loader cause => "Cannot create resource loader: " ++ cause.message
  | .unknownEngine name => "No engine \"" ++ name ++ "\" found."
  | .engine name cause => "Could not create engine \"" ++ name ++ "\": " ++ cause.message
  | .unreadable path cause => "Cannot read " ++ path ++ ": " ++ cause.message
  | .unsupportedFormat extension =>
      "Unsupported configuration format: " ++ extension.getD "<none>"
  | .yaml fault => "YAML parse error: " ++ fault.message
  | .toml fault => "TOML parse error: " ++ fault.message
  | .json message => "JSON parse error: " ++ message
  | .model path message => "Invalid model " ++ path ++ ": " ++ message
  | .other message => message

/-- Why a bootstrap script that exists could not be loaded. -/
inductive LoadFault where
  | unreadable (cause : FileError)
  | failed (cause : ScriptError)
  | other (message : String)
  deriving DecidableEq, Repr

def LoadFault.message : LoadFault → String
  | .unreadable cause => cause.message
  | .failed cause => cause.message
  | .other message => message

inductive ViewError where
  | configuration (fault : ConfigFault)
  | resourceNotFound (location : String)
  | scriptLoad (location : String) (fault : LoadFault)
  | script (cause : ScriptError)
  | file (cause : FileError)
  | rendering (url : String) (source : ViewError)
  deriving DecidableEq, Repr

namespace ViewError

def message : ViewError → String
  | .configuration fault => "Configuration error: " ++ fault.message
  | .resourceNotFound location => "Resource " ++ location ++ " not found"
  | .scriptLoad location fault => "Could not load script " ++ location ++ ": " ++ fault.message
  | .script cause => "Script error: " ++ cause.message
  | .file cause => "I/O error: " ++ cause.message
  | .rendering url source => "Failed to render template " ++ url ++ ": " ++ source.message

def rootCause : ViewError → ViewError
  | .rendering _ source => source.rootCause
  | error => error

def isResourceNotFound (error : ViewError) : Bool :=
  match error.rootCause with
  | .resourceNotFound _ => true
  | _ => false

/-- The texts of the errors behind this one, the nearest first. -/
def sources : ViewError → List String
  | .script cause => [cause.message]
  | .file cause => [cause.message]
  | .rendering _ source => source.message :: source.sources
  | _ => []

end ViewError

end Stencil
