import Stencil.Charset.Basic
import Stencil.Error.Context

/-!
What the library reports while it works. An event is one thing that happened; its level, its text
and its fields follow from it. A journal has the events in their order, and between them the scripts
that were looked up.
-/

namespace Stencil

inductive Level where
  | debug
  | info
  | warn
  deriving DecidableEq, Repr

def Level.name : Level → String
  | .debug => "DEBUG"
  | .info => "INFO"
  | .warn => "WARN"

inductive Event where
  | noSearchRoots (path : String)
  | searchRoots (path : String) (count : Nat)
  | scriptLoaded (location engine : String)
  | engineCreated (engine : String)
  | contextEngineCreated (context : String)
  | enginesReclaimed (count : Nat)
  | unmappable (charset : Charset)
  | viewReady (url engine : String) (shared : Bool) (scripts : Nat)
  | renderFailed (url : String) (error : ViewError)
  /-- A line that a script wrote. -/
  | console (level : Level) (line : String)
  deriving DecidableEq, Repr

namespace Event

def level : Event → Level
  | .viewReady .. => .info
  | .renderFailed .. => .warn
  | .console level _ => level
  | _ => .debug

def message : Event → String
  | .noSearchRoots _ => "No search path roots found, using ambient loader"
  | .searchRoots .. => "Assembled search path loader"
  | .scriptLoaded .. => "Loaded script"
  | .engineCreated _ => "Created script engine"
  | .contextEngineCreated _ => "Created per-context engine"
  | .enginesReclaimed _ => "Reclaimed engines of dropped contexts"
  | .unmappable _ => "Body contains unmappable characters"
  | .viewReady .. => "Initialized script template view"
  | .renderFailed .. => "Failed to render template"
  | .console _ line => line

def fields : Event → List (String × String)
  | .noSearchRoots path => [("search_path", path)]
  | .searchRoots path count => [("search_path", path), ("roots", toString count)]
  | .scriptLoaded location engine => [("script", location), ("engine", engine)]
  | .engineCreated engine => [("engine", engine)]
  | .contextEngineCreated context => [("context_name", context)]
  | .enginesReclaimed count => [("purged", toString count)]
  | .unmappable charset => [("charset", charset.name)]
  | .viewReady url engine shared scripts =>
      [("url", url), ("engine", engine), ("shared_engine", Text.showBool shared),
        ("scripts", toString scripts)]
  | .renderFailed url error =>
      [("url", url), ("code", error.code.debug),
        ("cause", Text.showOption ErrorCode.debug error.cause), ("error", error.message)]
  | .console .. => []

def isConsole : Event → Bool
  | .console .. => true
  | _ => false

end Event

/-- An entry of a journal. -/
inductive Entry where
  | reported (event : Event)
  /-- The location of a script that was looked up to be run. -/
  | lookedUp (location : String)
  deriving DecidableEq, Repr

namespace Entry

def event? : Entry → Option Event
  | .reported event => some event
  | .lookedUp _ => none

def script? : Entry → Option String
  | .reported _ => none
  | .lookedUp location => some location

end Entry

end Stencil
