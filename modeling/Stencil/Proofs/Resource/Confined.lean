import Stencil.Proofs.Files.Walk
import Stencil.Proofs.Resource.Assembled

/-!
Names stay under the roots. A name that is joined to a root adds its components to those of the root
(`components_join`), as it has no slash in front. Every file that a loader gives for a name is such a
join (`get_confined`, `list_confined`), so no name takes the place of a root (`locations_confined`).
-/

namespace Stencil

/-! ### Components of a path -/

namespace Path

/-- The names of a path, each as it is written, without those that stay where they are. -/
def steps (path : List Char) : List String :=
  (names path).filter (fun name => name != ".")

/-- The root of a path, where it has one, and its names. Spare slashes count for nothing, and `.`
counts only at the start of a path. -/
def components (path : String) : List String :=
  if isAbsolute path.toList then "/" :: steps path.toList
  else if (names path.toList).head? = some "." then "." :: steps path.toList
  else steps path.toList

theorem steps_append (before after : List Char) :
    steps (before ++ '/' :: after) = steps before ++ steps after := by
  unfold steps
  rw [names_append, List.filter_append]

theorem components_absolute (path : String) (absolute : isAbsolute path.toList = true) :
    components path = "/" :: steps path.toList := by
  unfold components
  rw [if_pos absolute]

/-- Within another path a relative one counts without a `.` in front. -/
theorem steps_eq (path : String) (relative : isAbsolute path.toList = false) :
    steps path.toList = (components path).filter (fun name => name != ".") := by
  have whole : (steps path.toList).filter (fun name => name != ".") = steps path.toList :=
    List.filter_eq_self.mpr fun _ member => (List.mem_filter.mp member).2
  unfold components
  rw [relative, if_neg Bool.false_ne_true]
  split
  · rw [List.filter_cons_of_neg (by simp), whole]
  · exact whole.symm

/-- A path that does not start at the root starts with a name. -/
theorem head?_names (c : Char) (rest : List Char) (relative : isAbsolute (c :: rest) = false) :
    ∃ name, (names (c :: rest)).head? = some name := by
  have first : c ≠ '/' := by
    intro slash
    rw [slash] at relative
    cases relative
  cases held : names (c :: rest) with
  | cons name others => exact ⟨name, rfl⟩
  | nil =>
      unfold names at held
      rw [Text.splitOn, if_neg first] at held
      split at held <;> simp at held

/-- A name under a base: the components of the base come first, and then the names. -/
theorem components_join (base name : String) (filled : base ≠ "")
    (relative : isAbsolute name.toList = false) :
    components (join base name) =
      components base ++ (components name).filter (fun part => part != ".") := by
  have letters : (join base name).toList = joinChars base.toList name.toList :=
    String.toList_ofList
  have nonempty : base.toList ≠ [] := by simpa using filled
  have rooted := isAbsolute_joinChars base.toList name.toList nonempty relative
  obtain ⟨front, joined, same⟩ := exists_joinChars base.toList name.toList nonempty relative
  have held : names (joinChars base.toList name.toList) = names base.toList ++ names name.toList := by
    rw [joined, names_append, same]
  have moved : steps (joinChars base.toList name.toList) = steps base.toList ++ steps name.toList := by
    unfold steps
    rw [held, List.filter_append]
  rw [← steps_eq name relative]
  unfold components
  rw [letters, rooted, held, moved]
  cases absolute : isAbsolute base.toList with
  | true => rfl
  | false =>
      -- The base has a first name, and that of the join is the same one.
      have first : (names base.toList ++ names name.toList).head? = (names base.toList).head? := by
        cases own : base.toList with
        | nil => exact absurd own nonempty
        | cons c rest =>
            rw [own] at absolute
            obtain ⟨start, starts⟩ := head?_names c rest absolute
            rw [List.head?_append, starts]
            rfl
      rw [first, if_neg Bool.false_ne_true, if_neg Bool.false_ne_true]
      split <;> rfl

theorem slash_not_mem (path : String) (relative : isAbsolute path.toList = false) :
    "/" ∉ components path := by
  have unnamed : "/" ∉ steps path.toList := by
    intro member
    exact (mem_names _ _ (List.mem_filter.mp member).1).2 (by decide)
  unfold components
  rw [relative, if_neg Bool.false_ne_true]
  split
  · rw [List.mem_cons, not_or]
    exact ⟨by decide, unnamed⟩
  · exact unnamed

theorem join_empty (name : String) : join "" name = name := by
  unfold join joinChars
  rw [show "".toList.isEmpty = true from rfl, Bool.or_true, if_pos rfl, String.ofList_toList]

/-- Slashes in front are no part of the names. -/
theorem names_dropSlashes (path : List Char) :
    names (path.dropWhile (fun c => c = '/')) = names path := by
  induction path with
  | nil => rfl
  | cons c rest ih =>
      by_cases slash : c = '/'
      · have apart : names (c :: rest) = names [] ++ names rest := by
          rw [slash]
          exact names_append [] rest
        rw [List.dropWhile_cons_of_pos (by simpa using slash), ih, apart]
        rfl
      · rw [List.dropWhile_cons_of_neg (by simpa using slash)]

end Path

namespace Location

/-- A location as it is given, without one `classpath:` tag. -/
def given (location : String) : String :=
  String.ofList ((untag? classpathTag location.toList).getD location.toList)

/-- What is looked for under a root has the names that were given. -/
theorem names_relative (location : String) :
    Path.names (relative location).toList = Path.names (given location).toList := by
  unfold relative relativeChars given
  rw [String.toList_ofList, String.toList_ofList, Path.names_dropSlashes]

end Location

namespace Loader

variable (files : FileSystem) (location : String)

/-! ### Files under roots -/

/-- The directories that a loader looks under: those of the classpath, and those of the search path
roots. -/
def bases : Loader → List String
  | .memory _ | .own _ => []
  | .classpath roots => roots
  | .search roots parent => parent.bases ++ directories roots

/-- The answers of a caller that are no files. -/
structure Answers.Fileless (answers : Answers) : Prop where
  get : ∀ files location, (answers.get files location).path? = none
  list : ∀ files location resources, answers.list files location = .ok resources →
    ∀ resource ∈ resources, resource.path? = none

/-- Whether all files come from directories of the classpath and of search path roots. -/
def Rooted : Loader → Prop
  | .memory _ | .classpath _ => True
  | .search _ parent => parent.Rooted
  | .own answers => answers.Fileless

/-- If the resource is a file, it is the name of the location joined to one of the directories. -/
def Confined (directories : List String) (location : String) (resource : Resource) : Prop :=
  ∀ path, resource.path? = some path →
    ∃ root ∈ directories, path = Path.join root (Location.relative location)

theorem Confined.mono {few many : List String} {resource : Resource} (subset : few ⊆ many)
    (confined : Confined few location resource) : Confined many location resource := by
  intro path file
  obtain ⟨root, member, joined⟩ := confined path file
  exact ⟨root, subset member, joined⟩

theorem confined_of_no_path (directories : List String) (resource : Resource)
    (pathless : resource.path? = none) : Confined directories location resource := by
  intro path file
  rw [pathless] at file
  cases file

theorem confined_file (directories : List String) (path : String)
    (member : path ∈ under directories location) :
    Confined directories location (Resource.file location path) := by
  obtain ⟨root, inside, joined⟩ := List.mem_map.mp member
  intro other file
  cases file
  exact ⟨root, inside, joined.symm⟩

theorem confined_candidates (roots : List Url) (resource : Resource)
    (member : resource ∈ candidates files roots location) :
    Confined (directories roots) location resource := by
  obtain ⟨path, kept, same⟩ := List.mem_map.mp member
  rw [← same]
  exact confined_file location (directories roots) path (List.mem_filter.mp kept).1

section Named

variable (named : Location.filePath? location = none) (loader : Loader) (rooted : loader.Rooted)

include named rooted

theorem get_confined :
    Confined loader.bases location (loader.get files location) := by
  induction loader with
  | memory contents =>
      unfold get
      cases contents.lookup (Location.relative location) with
      | none => exact confined_of_no_path location _ _ rfl
      | some content => exact confined_of_no_path location _ _ rfl
  | classpath roots =>
      unfold get
      rw [named]
      dsimp only
      cases found : (under roots location).find? files.exists? with
      | none => exact confined_of_no_path location _ _ rfl
      | some path => exact confined_file location roots path (List.mem_of_find?_eq_some found)
  | search roots parent ih =>
      have inner : Confined (parent.bases ++ directories roots) location (parent.get files location) :=
        (ih rooted).mono location (List.subset_append_left _ _)
      unfold get
      dsimp only
      split
      · exact inner
      · cases first : (candidates files roots location).head? with
        | none => exact inner
        | some resource =>
            have own := confined_candidates files location roots resource (List.mem_of_head? first)
            exact own.mono location (List.subset_append_right _ _)
  | own answers => exact confined_of_no_path location _ _ (rooted.get files location)

theorem list_confined (resources : List Resource)
    (listed : loader.list files location = .ok resources) (resource : Resource)
    (member : resource ∈ resources) : Confined loader.bases location resource := by
  induction loader generalizing resources with
  | memory contents =>
      rw [← Except.ok.inj listed] at member
      rw [(of_mem_present files member).1]
      exact get_confined files location named (.memory contents) trivial
  | classpath roots =>
      have own : paths roots location = under roots location := by
        unfold paths
        rw [named]
      rw [list_classpath files location roots resources listed, own] at member
      obtain ⟨path, kept, same⟩ := List.mem_map.mp member
      rw [← same]
      exact confined_file location roots path (List.mem_filter.mp kept).1
  | search roots parent ih =>
      obtain ⟨inner, own, joined⟩ := list_search files location roots parent resources listed
      rw [joined] at member
      rcases List.mem_append.mp member with inside | added
      · exact (ih rooted inner own inside).mono location (List.subset_append_left _ _)
      · split at added
        · cases added
        · have found := confined_candidates files location roots resource added
          exact found.mono location (List.subset_append_right _ _)
  | own answers =>
      exact confined_of_no_path location _ _
        (rooted.list files location resources listed resource member)

/-- However loaders are put over one another, and whatever the files are, if no loader of a caller's
gives files of its own: a file that is found or listed for a location that is not a path is the name
of the location joined to one of the directories that the loader looks under. The components of the
file are those of the directory and then those of the name, which has no root of its own and counts
without a `.` in front, unless the directory is told by no text. A location that starts at the root
of the file system is opened as it was given exactly where that root is itself the directory. -/
theorem locations_confined (resource : Resource)
    (returned : resource = loader.get files location ∨
      ∃ resources, loader.list files location = .ok resources ∧ resource ∈ resources)
    (path : String) (file : resource.path? = some path) :
    ∃ root ∈ loader.bases, path = Path.join root (Location.relative location) ∧
      Path.isAbsolute (Location.relative location).toList = false ∧
      (root ≠ "" → Path.components path = Path.components root ++
        (Path.components (Location.relative location)).filter (fun part => part != ".")) ∧
      (root = "" → Path.components path = Path.components (Location.relative location)) ∧
      (Path.isAbsolute (Location.given location).toList = true →
        (Path.components path = Path.components (Location.given location) ↔
          Path.components root = ["/"])) := by
  have confined : Confined loader.bases location resource := by
    rcases returned with found | ⟨resources, listed, member⟩
    · rw [found]
      exact get_confined files location named loader rooted
    · exact list_confined files location named loader rooted resources listed resource member
  obtain ⟨root, member, joined⟩ := confined path file
  have relative := Location.relative_not_absolute location
  have bare : root = "" → Path.components path = Path.components (Location.relative location) := by
    intro empty
    rw [joined, empty, Path.join_empty]
  have parts : root ≠ "" → Path.components path = Path.components root ++
      (Path.components (Location.relative location)).filter (fun part => part != ".") := by
    intro filled
    rw [joined, Path.components_join root (Location.relative location) filled relative]
  refine ⟨root, member, joined, relative, parts, bare, ?_⟩
  intro absolute
  have own : (Path.components (Location.relative location)).filter (fun part => part != ".") =
      Path.steps (Location.given location).toList := by
    rw [← Path.steps_eq (Location.relative location) relative]
    exact congrArg (List.filter (fun name => name != ".")) (Location.names_relative location)
  rw [Path.components_absolute _ absolute]
  by_cases empty : root = ""
  · -- Without a root of its own the file does not start at the root of the file system.
    rw [bare empty, empty]
    refine iff_of_false ?_ (by decide)
    intro same
    have unrooted := Path.slash_not_mem _ relative
    rw [same] at unrooted
    exact unrooted List.mem_cons_self
  · rw [parts empty, own, ← List.singleton_append, List.append_cancel_right_eq]

end Named

theorem locations_confined_absolute :
    threefold.list threeDirectories "//page" =
        .ok [.file "//page" "/a/page", .file "//page" "/c/page"] ∧
      ∃ root ∈ ["/a", "/none", "/b/", "/a/page", "/c/"], "/c/page" = Path.join root "page" ∧
        (root ≠ "" → Path.components root ++ ["page"] = ["/", "c", "page"]) ∧
        Path.components root ≠ ["/"] := by
  have listed : threefold.list threeDirectories "//page" =
      .ok [.file "//page" "/a/page", .file "//page" "/c/page"] := by
    rfl
  obtain ⟨root, member, joined, _, parts, _, opened⟩ := locations_confined threeDirectories "//page"
    (by decide +kernel) threefold trivial (.file "//page" "/c/page")
    (Or.inr ⟨_, listed, List.mem_cons_of_mem _ List.mem_cons_self⟩) "/c/page" rfl
  refine ⟨listed, root, member, joined, fun filled => (parts filled).symm, ?_⟩
  rw [ne_eq, ← opened rfl]
  decide +kernel

/-- The file of `./x` under `/r` has not all components of its name behind those of the directory, and
under the root of the file system `/x` is opened as it was given. -/
theorem not_every_component_kept :
    ((Loader.classpath ["/r"]).get ⟨[(["r"], .directory), (["r", "x"], .file [])], []⟩ "./x").path? =
        some "/r/./x" ∧
      (¬ ∃ root ∈ (Loader.classpath ["/r"]).bases, Path.components "/r/./x" =
        Path.components root ++ Path.components (Location.relative "./x")) ∧
      ((Loader.classpath ["/"]).get ⟨[(["x"], .file [])], []⟩ "/x").path? = some "/x" := by
  refine ⟨by decide +kernel, ?_, by decide +kernel⟩
  rintro ⟨root, member, same⟩
  rw [List.mem_singleton.mp member] at same
  revert same
  decide +kernel

end Loader

end Stencil
