import Stencil.Charset.Coding
import Stencil.Files.System

/-!
Resources. A resource is asked for by a location and is a file, a content held in memory, or
missing.
-/

namespace Stencil

/-- What a resource was resolved to. -/
inductive Resource.Content where
  | file (path : String)
  | memory (content : Bytes)
  | missing
  deriving DecidableEq, Repr

/-- A resource with the location it was asked for by. -/
structure Resource where
  location : String
  content : Resource.Content
  deriving DecidableEq, Repr

namespace Resource

def file (location path : String) : Resource :=
  ⟨location, .file path⟩

def memory (location : String) (content : Bytes) : Resource :=
  ⟨location, .memory content⟩

def missing (location : String) : Resource :=
  ⟨location, .missing⟩

def exists? (files : FileSystem) (resource : Resource) : Bool :=
  match resource.content with
  | .file path => files.exists? path
  | .memory _ => true
  | .missing => false

def path? (resource : Resource) : Option String :=
  match resource.content with
  | .file path => some path
  | _ => none

def read (files : FileSystem) (resource : Resource) : Except FileError Bytes :=
  match resource.content with
  | .file path => files.read path
  | .memory content => .ok content
  | .missing => .error (.noResource resource.location)

def readText (files : FileSystem) (charset : Charset) (resource : Resource) :
    Except FileError String :=
  match resource.read files with
  | .ok content => .ok (charset.decodeString content)
  | .error fault => .error fault

/-- The address of a file or a directory that is there. -/
def url? (files : FileSystem) (resource : Resource) : Option Url :=
  match resource.content with
  | .file path => files.url? path
  | _ => none

end Resource

end Stencil
