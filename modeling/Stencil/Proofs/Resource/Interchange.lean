import Stencil.Proofs.Resource.Assembled

/-!
Directories on the classpath beside the same directories as roots of a search path. A lookup finds the
same file under both. A listing of the classpath ends with the first fault that it meets
(`list_classpath_eq`), a listing of search path roots passes over it (`list_roots`), so the two list
alike exactly where there is no fault to be met (`roots_interchange`).
-/

namespace Stencil

namespace FileSystem

variable (files : FileSystem)

/-- The fault of a path, unless the path leads to something or there is just nothing. -/
def fault? (path : String) : Option FileError :=
  match files.look path with
  | .ok _ => none
  | .error .notFound => none
  | .error fault => some fault

theorem checked_eq (path : String) :
    files.checked path =
      match files.fault? path with
      | some fault => .error fault
      | none => .ok (files.exists? path) := by
  unfold checked fault? exists?
  cases files.look path with
  | ok node => rfl
  | error fault => cases fault <;> rfl

theorem fault?_eq_none_iff (path : String) :
    files.fault? path = none ↔ ∀ fault, files.look path = .error fault → fault = .notFound := by
  unfold fault?
  cases files.look path with
  | ok node => exact iff_of_true rfl nofun
  | error fault => cases fault <;> simp

/-- A directory that is named by its canonical path. -/
def IsCanonical (path : String) : Prop :=
  files.canonical? path = some path ∧ files.look path = .ok .directory

/-- The address of a directory ends in a slash. -/
theorem url?_of_canonical (path : String) (canonical : files.IsCanonical path) :
    files.url? path = some (.file (Path.close path)) := by
  obtain ⟨same, directory⟩ := canonical
  unfold canonical? at same
  unfold look at directory
  unfold url?
  cases found : files.find path with
  | error fault => simp only [found, reduceCtorEq] at directory
  | ok position =>
      rw [found] at same directory
      have own : pathOf position = path := Option.some.inj same
      dsimp only at directory ⊢
      cases held : files.node? position with
      | none => simp only [held, reduceCtorEq] at directory
      | some node =>
          rw [held] at directory
          rw [Except.ok.inj directory, own]

theorem stands_of_canonical (path : String) (canonical : files.IsCanonical path) (url : Url)
    (addressed : files.url? path = some url) : Stands url path := by
  have filled : path ≠ "" := by
    intro blank
    have missing : files.look "" = .error .notFound := rfl
    rw [← blank, canonical.2] at missing
    cases missing
  rw [files.url?_of_canonical path canonical, Option.some.injEq] at addressed
  exact ⟨filled, Or.inr addressed.symm⟩

theorem stands_canonical (paths : List String) (canonical : ∀ path ∈ paths, files.IsCanonical path)
    (urls : List Url) (addressed : paths.map files.url? = urls.map some) :
    List.Forall₂ Stands urls paths := by
  induction paths generalizing urls with
  | nil =>
      rw [List.map_nil, eq_comm, List.map_eq_nil_iff] at addressed
      rw [addressed]
      exact List.Forall₂.nil
  | cons path rest ih =>
      cases urls with
      | nil => cases addressed
      | cons url others =>
          rw [List.map_cons, List.map_cons, List.cons.injEq] at addressed
          refine List.Forall₂.cons ?_ ?_
          · exact files.stands_of_canonical path (canonical path List.mem_cons_self) url addressed.1
          · exact ih (fun other member => canonical other (List.mem_cons_of_mem path member)) others
              addressed.2

end FileSystem

namespace Loader

variable (files : FileSystem)

/-- A check of paths ends with the fault of the first path that has one. -/
theorem checkedPaths_eq (paths : List String) :
    checkedPaths files paths =
      match paths.findSome? files.fault? with
      | some fault => .error fault
      | none => .ok (paths.filter files.exists?) := by
  induction paths with
  | nil => rfl
  | cons path rest ih =>
      unfold checkedPaths
      rw [files.checked_eq, ih, List.findSome?_cons]
      cases files.fault? path with
      | some fault => rfl
      | none =>
          cases rest.findSome? files.fault? with
          | some fault => rfl
          | none =>
              rw [List.filter_cons]

section

variable (directories : List String) (location : String)

theorem findSome?_fault_eq_none_iff :
    (under directories location).findSome? files.fault? = none ↔
      ∀ path ∈ under directories location, ∀ fault, files.look path = .error fault →
        fault = .notFound := by
  rw [List.findSome?_eq_none_iff]
  refine forall_congr' fun path => forall_congr' fun _ => ?_
  rw [files.fault?_eq_none_iff]

variable (named : Location.filePath? location = none)

include named

theorem list_classpath_eq :
    (Loader.classpath directories).list files location =
      match (under directories location).findSome? files.fault? with
      | some fault => .error fault
      | none =>
          .ok (((under directories location).filter files.exists?).map (Resource.file location)) := by
  unfold list
  rw [named]
  dsimp only
  rw [checkedPaths_eq]
  cases (under directories location).findSome? files.fault? with
  | some fault => rfl
  | none => rfl

/-- Roots of a search path are listed without a fault, whatever is met under them. -/
theorem list_roots (urls : List Url) (stand : List.Forall₂ FileSystem.Stands urls directories) :
    (Loader.search urls (.classpath [])).list files location =
      .ok (((under directories location).filter files.exists?).map (Resource.file location)) := by
  have nothing : (Loader.classpath []).list files location = .ok [] :=
    list_classpath_eq files [] location named
  unfold list
  rw [nothing, named]
  unfold candidates
  rw [under_stands stand location]
  rfl

/-- Directories under their canonical paths, and the addresses of these as search path roots over an
empty classpath. A lookup by name finds the same file under both. They list alike exactly if no path has
a fault other than that nothing is there: the roots list the files that are there whatever fault another
path has. Each address still tells its directory when it is read from its written form. -/
theorem roots_interchange (urls : List Url)
    (canonical : ∀ path ∈ directories, files.IsCanonical path)
    (addressed : directories.map files.url? = urls.map some) :
    (Loader.search urls (.classpath [])).get files location =
        (Loader.classpath directories).get files location ∧
      ((Loader.search urls (.classpath [])).list files location =
          (Loader.classpath directories).list files location ↔
        ∀ path ∈ under directories location, ∀ fault, files.look path = .error fault →
          fault = .notFound) ∧
      (Loader.search urls (.classpath [])).list files location =
        .ok (((under directories location).filter files.exists?).map (Resource.file location)) ∧
      ∀ url ∈ urls, url.path? = Url.pathOfText? url.text := by
  have stand := files.stands_canonical directories canonical urls addressed
  have roots := list_roots files directories location named urls stand
  refine ⟨?_, ?_, roots, pathOfText?_stands stand⟩
  · rw [get_search files [] urls location named, get_classpath files directories location named,
      List.nil_append]
    unfold firstUnder
    rw [under_stands stand location]
  · rw [roots, list_classpath_eq files directories location named,
      ← findSome?_fault_eq_none_iff files directories location]
    cases (under directories location).findSome? files.fault? with
    | none => exact iff_of_true rfl rfl
    | some fault => exact iff_of_false nofun nofun

end

/-- Two directories, one with a name that an address cannot hold as it is, and a file in each. -/
def twoDirectories : FileSystem where
  entries := [(["a b"], .directory), (["c"], .directory), (["a b", "page"], .file [104]),
    (["c", "page"], .file [105]), (["c", "notes"], .directory)]
  current := []

theorem roots_interchange_twice :
    (Loader.search [.file "/a b/", .file "/c/"] (.classpath [])).list twoDirectories "/page" =
        (Loader.classpath ["/a b", "/c"]).list twoDirectories "/page" ∧
      (Loader.search [.file "/a b/", .file "/c/"] (.classpath [])).get twoDirectories "notes" =
        .file "notes" "/c/notes" := by
  have canonical : ∀ path ∈ ["/a b", "/c"], twoDirectories.IsCanonical path := by
    unfold FileSystem.IsCanonical
    decide +kernel
  have addressed : ["/a b", "/c"].map twoDirectories.url? =
      [Url.file "/a b/", .file "/c/"].map some := by
    decide +kernel
  have interchange := fun location named =>
    roots_interchange twoDirectories ["/a b", "/c"] location named
      [.file "/a b/", .file "/c/"] canonical addressed
  have faultless : ∀ path ∈ under ["/a b", "/c"] "/page", ∀ fault,
      twoDirectories.look path = .error fault → fault = .notFound :=
    (findSome?_fault_eq_none_iff twoDirectories _ _).mp (by decide +kernel)
  exact ⟨(interchange "/page" rfl).2.1.mpr faultless, (interchange "notes" rfl).1.trans rfl⟩

/-- A regular file stands where the name asks for a directory. The classpath reports it, the roots list
nothing instead. -/
theorem roots_interchange_dropped :
    twoDirectories.url? "/c" = some (.file "/c/") ∧
      (Loader.classpath ["/c"]).list twoDirectories "page/part" = .error .notADirectory ∧
      (Loader.search [.file "/c/"] (.classpath [])).list twoDirectories "page/part" = .ok [] := by
  decide +kernel

end Loader

end Stencil
