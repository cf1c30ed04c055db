import Mathlib.Data.List.Forall2
import Stencil.Proofs.Files.Address
import Stencil.Proofs.Resource.Lookup
import Stencil.Resource.SearchPath

/-!
What a loader finds that was assembled for a search path. The entries of the path come to canonical
paths (`canonicalPaths`), which stand as addresses among the roots of the loader (`searchRoots_eq`). A
name under such an address is the name under the path itself (`under_stands`), so a location is
looked up under the directories of the parent and then under the canonical paths
(`assemble_resolves`).
-/

namespace Stencil

namespace FileSystem

variable (files : FileSystem)

/-- The absolute path, without `.`, `..` and spare slashes, of what a path leads to. -/
def canonical? (path : String) : Option String :=
  (files.find path).toOption.map pathOf

theorem pathOf_ne_empty (position : List String) : pathOf position ≠ "" := by
  intro blank
  have letters := congrArg String.toList blank
  unfold pathOf at letters
  rw [String.toList_append] at letters
  cases letters

/-- The address of a path is the path itself, or the path with a slash at its end. -/
def Stands (url : Url) (place : String) : Prop :=
  place ≠ "" ∧ (url = .file place ∨ url = .file (Path.close place))

theorem exists_address (path : String) (there : files.exists? path = true) :
    ∃ url place, files.url? path = some url ∧ files.canonical? path = some place ∧
      Stands url place := by
  unfold exists? look at there
  unfold canonical? url?
  cases found : files.find path with
  | error fault => simp [found] at there
  | ok position =>
      have filled := pathOf_ne_empty position
      cases held : files.node? position with
      | none => simp [found, held] at there
      | some node =>
          cases node with
          | directory =>
              exact ⟨.file (Path.close (pathOf position)), pathOf position, by simp [held], rfl,
                filled, Or.inr rfl⟩
          | file content =>
              exact ⟨.file (pathOf position), pathOf position, by simp [held], rfl, filled,
                Or.inl rfl⟩

theorem stands_all (paths : List String) (there : ∀ path ∈ paths, files.exists? path = true) :
    List.Forall₂ Stands (paths.filterMap files.url?) (paths.filterMap files.canonical?) := by
  induction paths with
  | nil => exact List.Forall₂.nil
  | cons path rest ih =>
      have later := ih fun other member => there other (List.mem_cons_of_mem path member)
      obtain ⟨url, place, addressed, canonical, stands⟩ :=
        files.exists_address path (there path List.mem_cons_self)
      rw [List.filterMap_cons_some addressed, List.filterMap_cons_some canonical]
      exact List.Forall₂.cons stands later

end FileSystem

namespace Location

/-- A name under a root never starts anew at the root of the file system. -/
theorem relative_not_absolute (location : String) :
    Path.isAbsolute (relative location).toList = false := by
  unfold relative relativeChars Path.isAbsolute
  rw [String.toList_ofList, decide_eq_false_iff_not]
  intro slash
  have kept := List.head?_dropWhile_not (fun c => decide (c = '/'))
    ((untag? classpathTag location.toList).getD location.toList)
  rw [slash] at kept
  exact absurd kept (by decide)

end Location

namespace Loader

variable (files : FileSystem) (roots : List String)

/-! ### Roots of a search path -/

/-- The paths that an entry of a search path names, as far as they lead to something. -/
def entryPaths (entry : String) : List String :=
  (paths roots entry).filter files.exists?

/-- The canonical paths of all that a search path names, entry by entry. -/
def canonicalPaths (path : String) : List String :=
  (searchEntries path).flatMap fun entry =>
    (entryPaths files roots entry).filterMap files.canonical?

theorem entryRoots_eq (entry : String) (urls : List Url)
    (listed : (Loader.classpath roots).entryRoots files entry = .ok urls) :
    urls = (entryPaths files roots entry).filterMap files.url? := by
  unfold entryRoots at listed
  cases own : (Loader.classpath roots).list files entry with
  | error cause => simp only [own, reduceCtorEq] at listed
  | ok resources =>
      simp only [own, Except.ok.injEq] at listed
      -- What is listed exists already, so the second look at each resource drops nothing.
      have kept : ((paths roots entry).filter files.exists?).filter
          (Resource.exists? files ∘ Resource.file entry) =
            (paths roots entry).filter files.exists? := by
        rw [List.filter_filter]
        exact List.filter_congr fun path _ => Bool.and_self (files.exists? path)
      rw [← listed, list_classpath files entry roots resources own, List.filter_map,
        List.filterMap_map, kept]
      rfl

theorem searchRoots_eq (path : String) (urls : List Url)
    (searched : (Loader.classpath roots).searchRoots files path = .ok urls) :
    urls = (searchEntries path).flatMap fun entry =>
      (entryPaths files roots entry).filterMap files.url? := by
  unfold searchRoots at searched
  generalize searchEntries path = entries at searched ⊢
  induction entries generalizing urls with
  | nil =>
      simp only [entriesRoots, Except.ok.injEq] at searched
      exact searched.symm
  | cons entry rest ih =>
      unfold entriesRoots at searched
      cases own : (Loader.classpath roots).entryRoots files entry with
      | error fault => simp only [own, reduceCtorEq] at searched
      | ok first =>
          cases others : (Loader.classpath roots).entriesRoots files rest with
          | error fault => simp only [own, others, reduceCtorEq] at searched
          | ok later =>
              simp only [own, others, Except.ok.injEq] at searched
              rw [List.flatMap_cons, ← searched, ← entryRoots_eq files roots entry first own,
                ← ih later others]

/-- The roots of a search path stand for its canonical paths, one by one. -/
theorem stands_searchRoots (path : String) (urls : List Url)
    (searched : (Loader.classpath roots).searchRoots files path = .ok urls) :
    List.Forall₂ FileSystem.Stands urls (canonicalPaths files roots path) := by
  rw [searchRoots_eq files roots path urls searched]
  unfold canonicalPaths
  apply List.rel_flatMap (List.forall₂_same.mpr fun entry _ => Eq.refl entry)
  rintro entry _ rfl
  apply files.stands_all
  intro found member
  exact (List.mem_filter.mp member).2

/-- A name under the address of a path is the name under the path. -/
theorem under_stands {urls : List Url} {places : List String}
    (stand : List.Forall₂ FileSystem.Stands urls places) (location : String) :
    under (directories urls) location = under places location := by
  induction stand with
  | nil => rfl
  | @cons url place urls places stands _ ih =>
      have told : ∃ address, url.path? = some address ∧
          Path.join address (Location.relative location) =
            Path.join place (Location.relative location) := by
        obtain ⟨filled, own | closed⟩ := stands
        · exact ⟨place, by rw [own, Url.path?], rfl⟩
        · refine ⟨Path.close place, by rw [closed, Url.path?], ?_⟩
          exact Path.join_close place _ filled (Location.relative_not_absolute location)
      obtain ⟨address, read, joined⟩ := told
      unfold under directories at ih ⊢
      rw [List.filterMap_cons_some read, List.map_cons, List.map_cons, joined, ih]

theorem pathOfText?_stands {urls : List Url} {places : List String}
    (stand : List.Forall₂ FileSystem.Stands urls places) (url : Url) (member : url ∈ urls) :
    url.path? = Url.pathOfText? url.text := by
  induction stand with
  | nil => cases member
  | cons stands _ ih =>
      rcases List.mem_cons.mp member with same | later
      · obtain ⟨_, own | closed⟩ := stands
        · rw [same, own, Url.pathOfText?_text, Url.path?]
        · rw [same, closed, Url.pathOfText?_text, Url.path?]
      · exact ih later

/-! ### Lookups -/

/-- The file at the first path under some directories that leads to something. -/
def firstUnder (directories : List String) (location : String) : Resource :=
  match (under directories location).find? files.exists? with
  | some path => .file location path
  | none => .missing location

theorem get_classpath (location : String) (named : Location.filePath? location = none) :
    (Loader.classpath roots).get files location = firstUnder files roots location := by
  unfold get
  rw [named]
  rfl

theorem get_search (urls : List Url) (location : String)
    (named : Location.filePath? location = none) :
    (Loader.search urls (.classpath roots)).get files location =
      firstUnder files (roots ++ directories urls) location := by
  have split : under (roots ++ directories urls) location =
      under roots location ++ under (directories urls) location := List.map_append
  unfold get
  rw [get_classpath files roots location named, named]
  unfold firstUnder candidates
  rw [split, List.find?_append, List.head?_map, List.head?_filter]
  cases found : (under roots location).find? files.exists? with
  | some path =>
      have there := List.find?_some found
      simp [Resource.file, Resource.exists?, there]
  | none =>
      -- The parent finds nothing, so the first candidate counts.
      cases (under (directories urls) location).find? files.exists? with
      | some path => rfl
      | none => rfl

theorem get_search_path (urls : List Url) (location : String)
    (path : (Location.filePath? location).isSome = true) :
    (Loader.search urls (.classpath roots)).get files location =
      (Loader.classpath roots).get files location :=
  get_search_file files location urls (.classpath roots) path

/-- What a loader over directories resolves after a search path was assembled for it. It is the loader
itself exactly if the entries of the path come to nothing. A name is looked for under the directories
and then under the canonical paths that the entries come to, and the first path that leads to something
is taken; a location that is a path is resolved as before. The addresses that stand for the canonical
paths still tell them, whatever characters they have, when they are read from their written form. -/
theorem assemble_resolves (path : String) (loader : Loader)
    (assembled : (Loader.classpath roots).assemble files path = .ok loader) :
    (loader = .classpath roots ↔ canonicalPaths files roots path = []) ∧
      (∀ location, Location.filePath? location = none →
        loader.get files location =
          firstUnder files (roots ++ canonicalPaths files roots path) location) ∧
      (∀ location, (Location.filePath? location).isSome = true →
        loader.get files location = (Loader.classpath roots).get files location) ∧
      ∀ urls, loader = .search urls (.classpath roots) →
        List.Forall₂ FileSystem.Stands urls (canonicalPaths files roots path) ∧
          ∀ url ∈ urls, url.path? = Url.pathOfText? url.text := by
  unfold assemble at assembled
  cases searched : (Loader.classpath roots).searchRoots files path with
  | error fault => simp only [searched, reduceCtorEq] at assembled
  | ok addresses =>
      have stand := stands_searchRoots files roots path addresses searched
      simp only [searched, Except.ok.injEq] at assembled
      rw [← assembled]
      unfold withRoots
      cases addresses with
      | nil =>
          -- No entry came to an address, so none came to a path, and the parent is taken.
          rw [List.forall₂_nil_left_iff.mp stand]
          refine ⟨iff_of_true rfl rfl, ?_, fun location _ => rfl, nofun⟩
          intro location named
          rw [List.append_nil]
          exact get_classpath files roots location named
      | cons first others =>
          have filled : canonicalPaths files roots path ≠ [] := by
            intro empty
            rw [empty] at stand
            cases stand
          refine ⟨iff_of_false nofun filled, ?_, ?_, ?_⟩
          · intro location named
            have same := under_stands stand location
            refine (get_search files roots (first :: others) location named).trans ?_
            unfold firstUnder under at same ⊢
            rw [List.map_append, List.map_append, same]
          · exact get_search_path files roots (first :: others)
          · intro urls same
            cases same
            exact ⟨stand, pathOfText?_stands stand⟩

/-- Two directories whose names have characters that delimit addresses, and a file in each. -/
def delimited : FileSystem where
  entries := [(["r"], .directory), (["r", "a#b"], .directory), (["r", "50% é"], .directory),
    (["r", "a#b", "x?.html"], .file [104]), (["r", "50% é", "y.html"], .file [105])]
  current := ["r"]

/-- Both directories, one by name and one by a path with detours, between blanks and an empty entry. -/
def delimitedPath : String := " classpath:a#b/ ,, file:50% é/../50% é"

theorem assemble_resolves_delimited :
    ∃ loader, (Loader.classpath ["."]).assemble delimited delimitedPath = .ok loader ∧
      loader.get delimited "x?.html" = .file "x?.html" "/r/a#b/x?.html" ∧
      loader.get delimited "classpath:/y.html" = .file "classpath:/y.html" "/r/50% é/y.html" := by
  cases assembled : (Loader.classpath ["."]).assemble delimited delimitedPath with
  | error fault =>
      have succeeds : ((Loader.classpath ["."]).assemble delimited delimitedPath).toBool = true := by
        decide +kernel
      rw [assembled] at succeeds
      cases succeeds
  | ok loader =>
      obtain ⟨_, named, _, _⟩ := assemble_resolves delimited ["."] delimitedPath loader assembled
      refine ⟨loader, rfl, ?_, ?_⟩
      · rw [named "x?.html" (by decide +kernel)]
        decide +kernel
      · rw [named "classpath:/y.html" (by decide +kernel)]
        decide +kernel

end Loader

end Stencil
