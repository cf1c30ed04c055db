import Stencil.Journal
import Stencil.Resource.Loader

/-!
Search paths. The entries of a search path are separated by commas; the resources that a loader
lists for them become further roots of it.
-/

namespace Stencil

/-- The entries of a search path, without spaces around them and without empty ones. -/
def searchEntries (path : String) : List String :=
  (((Text.splitOn ',' path.toList).map Text.trim).filter (fun entry => !entry.isEmpty)).map
    String.ofList

namespace Loader

def entryRoots (files : FileSystem) (parent : Loader) (entry : String) :
    Except ViewError (List Url) :=
  match parent.list files entry with
  | .error cause => .error (.configuration (.loader cause))
  | .ok resources =>
      .ok ((resources.filter (Resource.exists? files)).filterMap (Resource.url? files))

def entriesRoots (files : FileSystem) (parent : Loader) :
    List String → Except ViewError (List Url)
  | [] => .ok []
  | entry :: entries =>
      match parent.entryRoots files entry with
      | .error fault => .error fault
      | .ok roots =>
          match parent.entriesRoots files entries with
          | .error fault => .error fault
          | .ok others => .ok (roots ++ others)

/-- The roots of a search path, or the fault of its first entry that cannot be listed. -/
def searchRoots (files : FileSystem) (parent : Loader) (path : String) :
    Except ViewError (List Url) :=
  parent.entriesRoots files (searchEntries path)

/-- The parent with further roots; the parent itself where there are none. -/
def withRoots (parent : Loader) (roots : List Url) : Loader :=
  if roots.isEmpty then parent else .search roots parent

def assemble (files : FileSystem) (parent : Loader) (path : String) : Except ViewError Loader :=
  match parent.searchRoots files path with
  | .ok roots => .ok (parent.withRoots roots)
  | .error fault => .error fault

/-- What is reported about a search path that was assembled. -/
def searchEvent (path : String) (roots : List Url) : Event :=
  if roots.isEmpty then .noSearchRoots path else .searchRoots path roots.length

end Loader

end Stencil
