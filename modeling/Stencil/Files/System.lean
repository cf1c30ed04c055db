import Stencil.Error.Basic
import Stencil.Files.Path
import Stencil.Files.Url

/-!
A file system. Every entry is known by the names on its absolute path, and a path is walked name by
name, each of which has to stand in a directory. `FileSystem.find` is the walk, the other questions
are asked about where it ends.
-/

namespace Stencil

inductive FileNode where
  | directory
  | file (content : Bytes)
  deriving DecidableEq, Repr

/-- The entries below the root, and the directory that relative paths start from. There are no
links, so that an entry has one position only, and no permissions: whatever is found can be entered
and read. -/
structure FileSystem where
  entries : List (List String × FileNode)
  current : List String

namespace FileSystem

/-- What stands at an absolute position. The root is a directory. -/
def node? (files : FileSystem) (position : List String) : Option FileNode :=
  if position = [] then some .directory else files.entries.lookup position

def nameLimit : Nat := 255

def pathLimit : Nat := 4096

/-- One name further: `.` stays, `..` goes up, any other name has to be there. -/
def step (files : FileSystem) (position : List String) (name : String) :
    Except FileError (List String) :=
  if files.node? position = some .directory then
    if name = "." then .ok position
    else if name = ".." then .ok position.dropLast
    else if nameLimit < name.utf8ByteSize then .error .nameTooLong
    else if (files.node? (position ++ [name])).isSome then .ok (position ++ [name])
    else .error .notFound
  else .error .notADirectory

def walk (files : FileSystem) : List String → List String → Except FileError (List String)
  | position, [] => .ok position
  | position, name :: names =>
      match files.step position name with
      | .ok next => files.walk next names
      | .error fault => .error fault

def find (files : FileSystem) (path : String) : Except FileError (List String) :=
  let letters := path.toList
  if letters.contains '\u0000' then .error .nulInName
  else if letters.isEmpty then .error .notFound
  else if pathLimit ≤ path.utf8ByteSize then .error .nameTooLong
  else files.walk (if Path.isAbsolute letters then [] else files.current) (Path.parts letters)

def look (files : FileSystem) (path : String) : Except FileError FileNode :=
  match files.find path with
  | .error fault => .error fault
  | .ok position =>
      match files.node? position with
      | some node => .ok node
      | none => .error .notFound

def exists? (files : FileSystem) (path : String) : Bool :=
  match files.look path with
  | .ok _ => true
  | .error _ => false

/-- Whether a path leads to something; a fault other than that nothing is there is reported. -/
def checked (files : FileSystem) (path : String) : Except FileError Bool :=
  match files.look path with
  | .ok _ => .ok true
  | .error .notFound => .ok false
  | .error fault => .error fault

def read (files : FileSystem) (path : String) : Except FileError Bytes :=
  match files.look path with
  | .ok (.file content) => .ok content
  | .ok .directory => .error .isADirectory
  | .error fault => .error fault

/-- The contents of a file as UTF-8 text. -/
def readText (files : FileSystem) (path : String) : Except FileError String :=
  match files.read path with
  | .error fault => .error fault
  | .ok content =>
      match Utf8.decode? content with
      | some text => .ok (String.ofList text)
      | none => .error .notUtf8

def pathOf (position : List String) : String :=
  "/" ++ String.intercalate "/" position

/-- The address of what a path leads to, without `.`, `..` and spare slashes. -/
def url? (files : FileSystem) (path : String) : Option Url :=
  match files.find path with
  | .error _ => none
  | .ok position =>
      match files.node? position with
      | some .directory => some (.file (Path.close (pathOf position)))
      | some (.file _) => some (.file (pathOf position))
      | none => none

/-! ### Changes -/

def put (files : FileSystem) (position : List String) (node : FileNode) : FileSystem :=
  { files with
    entries := (position, node) :: files.entries.filter (fun entry => entry.1 != position) }

/-- Directories one below the other, the first of them below `above`. -/
def makeBelow (files : FileSystem) (above : List String) : List String → FileSystem
  | [] => files
  | name :: names =>
      let next := above ++ [name]
      let held := if files.node? next = none then files.put next .directory else files
      held.makeBelow next names

/-- A directory at a position, and every directory above it. -/
def makeDirectory (files : FileSystem) (position : List String) : FileSystem :=
  files.makeBelow [] position

/-- A file system that holds nothing but its current directory. -/
def empty (current : List String) : FileSystem :=
  makeDirectory ⟨[], current⟩ current

/-- The position that a path names, whether something stands there or not. -/
def target (files : FileSystem) (path : String) : List String :=
  (Path.parts path.toList).foldl
    (fun position name =>
      if name = "." then position else if name = ".." then position.dropLast
      else position ++ [name])
    (if Path.isAbsolute path.toList then [] else files.current)

/-- Writes a file or a directory, with the directories above it. -/
def write (files : FileSystem) (path : String) (node : FileNode) : FileSystem :=
  let position := files.target path
  match node with
  | .directory => files.makeDirectory position
  | .file content => (files.makeDirectory position.dropLast).put position (.file content)

/-- Deletes a file, and tells whether there was one. -/
def remove (files : FileSystem) (path : String) : Bool × FileSystem :=
  match files.find path with
  | .error _ => (false, files)
  | .ok position =>
      match files.node? position with
      | some (.file _) =>
          (true, { files with entries := files.entries.filter (fun entry => entry.1 != position) })
      | _ => (false, files)

end FileSystem

end Stencil
