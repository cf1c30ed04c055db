import Stencil.Error.Basic
import Stencil.Json.Record

/-!
An error reduced to a code, a severity, its text and the code of its cause, as it is sent to other
programs in JSON.
-/

namespace Stencil

inductive Severity where
  | error
  | fatal
  deriving DecidableEq, Repr

inductive ErrorCode where
  | configError
  | resourceNotFound
  | scriptLoadError
  | scriptError
  | functionNotFound
  | ioError
  | renderError
  deriving DecidableEq, Repr

namespace Severity

def variants : List (String × Severity) :=
  [("error", .error), ("fatal", .fatal)]

def name : Severity → String
  | .error => "error"
  | .fatal => "fatal"

def debug : Severity → String
  | .error => "Error"
  | .fatal => "Fatal"

end Severity

namespace ErrorCode

def variants : List (String × ErrorCode) :=
  [("config_error", .configError), ("resource_not_found", .resourceNotFound),
    ("script_load_error", .scriptLoadError), ("script_error", .scriptError),
    ("function_not_found", .functionNotFound), ("io_error", .ioError),
    ("render_error", .renderError)]

def name : ErrorCode → String
  | .configError => "config_error"
  | .resourceNotFound => "resource_not_found"
  | .scriptLoadError => "script_load_error"
  | .scriptError => "script_error"
  | .functionNotFound => "function_not_found"
  | .ioError => "io_error"
  | .renderError => "render_error"

def debug : ErrorCode → String
  | .configError => "ConfigError"
  | .resourceNotFound => "ResourceNotFound"
  | .scriptLoadError => "ScriptLoadError"
  | .scriptError => "ScriptError"
  | .functionNotFound => "FunctionNotFound"
  | .ioError => "IoError"
  | .renderError => "RenderError"

end ErrorCode

structure ErrorContext where
  code : ErrorCode
  severity : Severity
  message : String
  cause : Option ErrorCode
  deriving DecidableEq, Repr

namespace ViewError

def code : ViewError → ErrorCode
  | .configuration _ => .configError
  | .resourceNotFound _ => .resourceNotFound
  | .scriptLoad _ _ => .scriptLoadError
  | .script (.functionNotFound _) => .functionNotFound
  | .script _ => .scriptError
  | .file _ => .ioError
  | .rendering _ _ => .renderError

/-- A view that cannot be configured or bootstrapped never becomes ready; any other error fails only
the request at hand. -/
def severity : ViewError → Severity
  | .configuration _ => .fatal
  | .scriptLoad _ _ => .fatal
  | _ => .error

def cause : ViewError → Option ErrorCode
  | .rendering _ source => some source.rootCause.code
  | _ => none

def context (error : ViewError) : ErrorContext :=
  ⟨error.code, error.severity, error.message, error.cause⟩

end ViewError

namespace ErrorContext

/-- The members that are written: the cause only where there is one. -/
def toJson (context : ErrorContext) : Json :=
  .ofMembers ([("code", .string context.code.name), ("severity", .string context.severity.name),
    ("message", .string context.message)]
    ++ (context.cause.map (fun cause => ("cause", Json.string cause.name))).toList)

/-- The fields read so far. -/
structure Draft where
  code : Option ErrorCode := none
  severity : Option Severity := none
  message : Option String := none
  cause : Option ErrorCode := none

/-- What `read` changes in a record. -/
def slot {α σ : Type} (name : String) (read : Json.Reader α) (put : α → σ → σ) : Json.Slot σ :=
  ⟨name, fun input =>
    match read input with
    | .ok (value, rest) => .ok (put value, rest)
    | .error fault => .error fault⟩

def record : Json.Record Draft where
  title := "struct ErrorContext"
  slots :=
    [slot "code" (Json.choice ErrorCode.variants)
        (fun code draft => { draft with code := some code }),
      slot "severity" (Json.choice Severity.variants)
        (fun severity draft => { draft with severity := some severity }),
      slot "message" Json.Reader.string
        (fun message draft => { draft with message := some message }),
      slot "cause" (Json.Reader.optional (Json.choice ErrorCode.variants))
        (fun cause draft => { draft with cause := cause })]
  start := {}
  mayStop := false

def Draft.finish (draft : Draft) : Except Json.Fault.Kind ErrorContext :=
  match draft.code, draft.severity, draft.message with
  | none, _, _ => .error (.missingField "code")
  | _, none, _ => .error (.missingField "severity")
  | _, _, none => .error (.missingField "message")
  | some code, some severity, some message => .ok ⟨code, severity, message, draft.cause⟩

def parse (input : List Char) : Except Json.Fault ErrorContext :=
  Json.Reader.whole (record.read Draft.finish) input

def debug (context : ErrorContext) : String :=
  Text.showRecord "ErrorContext"
    [("code", context.code.debug), ("severity", context.severity.debug),
      ("message", Text.quote context.message),
      ("cause", Text.showOption ErrorCode.debug context.cause)]

end ErrorContext

end Stencil
