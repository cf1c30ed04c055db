import Stencil.Resource.Basic

/-!
Loaders. A loader resolves a location to one resource (`get`) or to every resource of that location
(`list`). `file:` locations are paths, all others are names under the roots of the loader.
-/

namespace Stencil

namespace Location

def classpathTag : List Char := "classpath:".toList

def fileTag : List Char := "file:".toList

def untag? (tag text : List Char) : Option (List Char) :=
  if tag.isPrefixOf text then some (text.drop tag.length) else none

/-- The path of a `file:` location. -/
def filePath? (location : String) : Option String :=
  (untag? fileTag location.toList).map String.ofList

/-- The name of a location under a root: without one `classpath:` tag and then without slashes in
front. -/
def relativeChars (location : List Char) : List Char :=
  ((untag? classpathTag location).getD location).dropWhile (fun c => c = '/')

def relative (location : String) : String :=
  String.ofList (relativeChars location.toList)

end Location

/-- What a loader of the caller's answers, among the files that there are: the one resource of a
location, and every resource of it. -/
structure Loader.Answers where
  get : FileSystem → String → Resource
  list : FileSystem → String → Except FileError (List Resource)

/-- Where resources are looked up: among contents in memory, under directories, under the roots of a
search path after another loader, or wherever a loader of the caller's looks. -/
inductive Loader where
  | memory (contents : List (String × Bytes))
  | classpath (roots : List String)
  | search (roots : List Url) (parent : Loader)
  | own (answers : Loader.Answers)

namespace Loader

/-- A resource that is there, and no resource otherwise. -/
def present (files : FileSystem) (resource : Resource) : Option Resource :=
  if resource.exists? files then some resource else none

/-- A loader of the caller's that only looks up, and lists what it finds. -/
def Answers.ofGet (get : FileSystem → String → Resource) : Answers where
  get := get
  list files location := .ok (present files (get files location)).toList

/-- A loader that finds nothing and cannot list. -/
def unavailable (message : String) : Loader :=
  .own ⟨fun _ location => .missing location, fun _ _ => .error (.other message)⟩

/-! ### Contents in memory -/

/-- Keeps a content under the name of its location, in place of an earlier one. -/
def insert (location : String) (content : Bytes) (contents : List (String × Bytes)) :
    List (String × Bytes) :=
  (Location.relative location, content)
    :: contents.filter (fun held => held.1 != Location.relative location)

/-- The loader of contents inserted one after another. -/
def ofContents (contents : List (String × Bytes)) : Loader :=
  .memory (contents.foldl (fun held content => insert content.1 content.2 held) [])

/-! ### Roots -/

def under (roots : List String) (location : String) : List String :=
  roots.map (fun root => Path.join root (Location.relative location))

def directories (roots : List Url) : List String :=
  roots.filterMap Url.path?

/-- Files of a location under search path roots, as far as they exist. -/
def candidates (files : FileSystem) (roots : List Url) (location : String) : List Resource :=
  ((under (directories roots) location).filter files.exists?).map (Resource.file location)

/-- Those paths that lead to something, or the first fault met on the way. -/
def checkedPaths (files : FileSystem) : List String → Except FileError (List String)
  | [] => .ok []
  | path :: paths =>
      match files.checked path with
      | .error fault => .error fault
      | .ok found =>
          match checkedPaths files paths with
          | .error fault => .error fault
          | .ok others => .ok (if found then path :: others else others)

/-! ### Looking up -/

def get (files : FileSystem) : Loader → String → Resource
  | .memory contents, location =>
      match contents.lookup (Location.relative location) with
      | some content => .memory location content
      | none => .missing location
  | .classpath roots, location =>
      match Location.filePath? location with
      | some path => .file location path
      | none =>
          match (under roots location).find? files.exists? with
          | some path => .file location path
          | none => .missing location
  | .search roots parent, location =>
      let resource := parent.get files location
      if resource.exists? files || (Location.filePath? location).isSome then resource
      else ((candidates files roots location).head?).getD resource
  | .own answers, location => answers.get files location

def list (files : FileSystem) : Loader → String → Except FileError (List Resource)
  | .memory contents, location =>
      .ok (present files ((Loader.memory contents).get files location)).toList
  | .classpath roots, location =>
      let paths :=
        match Location.filePath? location with
        | some path => [path]
        | none => under roots location
      match checkedPaths files paths with
      | .ok found => .ok (found.map (Resource.file location))
      | .error fault => .error fault
  | .search roots parent, location =>
      match parent.list files location with
      | .error fault => .error fault
      | .ok resources =>
          if (Location.filePath? location).isSome then .ok resources
          else .ok (resources ++ candidates files roots location)
  | .own answers, location => answers.list files location

end Loader

end Stencil
