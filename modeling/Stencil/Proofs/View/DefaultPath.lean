import Stencil.Proofs.Files.Walk
import Stencil.Proofs.Resource.Assembled
import Stencil.Proofs.View.Plan

/-!
The default search path. It names the directories that are on the classpath already, so its roots are
the canonical paths of these (`canonicalPaths_default`). What stands under such a root stands under the
directory itself (`exists?_under_canonical`), where it is found first, so nothing is found that was not
found before (`default_path_transparent`).
-/

namespace Stencil

namespace FileSystem

variable (files : FileSystem)

/-- What stands under the canonical path of a directory stands under the path that leads to it. -/
theorem exists?_under_canonical (anchored : files.Anchored) (base place name : String)
    (relative : Path.isAbsolute name.toList = false)
    (directory : files.exists? (Path.join base "") = true)
    (canonical : files.canonical? (Path.join base "") = some place)
    (short : (Path.join base name).utf8ByteSize < pathLimit)
    (there : files.exists? (Path.join place name) = true) :
    files.exists? (Path.join base name) = true := by
  have filled : base ≠ "" := by
    intro blank
    rw [blank] at directory
    cases directory
  obtain ⟨position, found, _⟩ := (files.exists?_eq_true_iff _).mp directory
  have own : place = pathOf position := by
    unfold canonical? at canonical
    rw [found] at canonical
    exact (Option.some.inj canonical).symm
  -- The base leads to the position, and the position is one of names.
  obtain ⟨⟨clean, _⟩, _, walked⟩ := (files.find_join base "" filled rfl position).mp found
  obtain ⟨reached, along, here⟩ := files.exists_of_walk_append _ _ _ _ walked
  rw [← files.walk_here reached position here] at along
  have named := (anchored.start files base).walk files base.toList along
  -- The walk along the canonical path passes the position too, and goes on from there.
  obtain ⟨last, ended, held⟩ := (files.exists?_eq_true_iff _).mp there
  have absolute : files.start place = [] := by
    unfold start
    rw [own, toList_pathOf]
    rfl
  have placed : place ≠ "" := by
    rw [own]
    exact pathOf_ne_empty position
  obtain ⟨⟨_, cleanName⟩, _, whole⟩ := (files.find_join place name placed relative last).mp ended
  rw [absolute, own, names_pathOf position named] at whole
  obtain ⟨passed, reaches, onward⟩ := files.exists_of_walk_append _ _ _ _ whole
  rw [files.walk_position [] position passed named reaches, List.nil_append] at onward
  refine (files.exists?_eq_true_iff _).mpr ⟨last, ?_, held⟩
  rw [files.find_join base name filled relative, walk_append, along]
  exact ⟨⟨clean, cleanName⟩, short, onward⟩

end FileSystem

namespace Loader

variable (files : FileSystem) (roots : List String)

theorem canonicalPaths_default :
    canonicalPaths files roots "classpath:" =
      ((roots.map (fun root => Path.join root "")).filter files.exists?).filterMap
        files.canonical? := by
  have entries : searchEntries "classpath:" = ["classpath:"] := by decide +kernel
  have name : Location.relative "classpath:" = "" := by decide +kernel
  have unnamed : Location.filePath? "classpath:" = none := by decide +kernel
  unfold canonicalPaths entryPaths paths
  rw [entries, List.flatMap_singleton, unnamed]
  unfold under
  rw [name]

/-- What stands under a root of the default search path stands under a directory of the classpath. -/
theorem exists?_of_default (anchored : files.Anchored) (location place : String)
    (short : ∀ root ∈ roots,
      (Path.join root (Location.relative location)).utf8ByteSize < FileSystem.pathLimit)
    (member : place ∈ canonicalPaths files roots "classpath:")
    (there : files.exists? (Path.join place (Location.relative location)) = true) :
    ∃ path ∈ under roots location, files.exists? path = true := by
  rw [canonicalPaths_default, List.mem_filterMap] at member
  obtain ⟨path, kept, canonical⟩ := member
  obtain ⟨inside, directory⟩ := List.mem_filter.mp kept
  obtain ⟨root, onClasspath, same⟩ := List.mem_map.mp inside
  rw [← same] at canonical directory
  refine ⟨Path.join root (Location.relative location), List.mem_map_of_mem onClasspath, ?_⟩
  exact files.exists?_under_canonical anchored root place _
    (Location.relative_not_absolute location) directory canonical (short root onClasspath) there

/-- The roots of the default search path come after the directories that they stand for, so no lookup
gets to them. -/
theorem firstUnder_default (anchored : files.Anchored) (location : String)
    (short : ∀ root ∈ roots,
      (Path.join root (Location.relative location)).utf8ByteSize < FileSystem.pathLimit) :
    firstUnder files (roots ++ canonicalPaths files roots "classpath:") location =
      firstUnder files roots location := by
  have split : under (roots ++ canonicalPaths files roots "classpath:") location =
      under roots location ++ under (canonicalPaths files roots "classpath:") location :=
    List.map_append
  unfold firstUnder
  rw [split, List.find?_append]
  cases found : (under roots location).find? files.exists? with
  | some path => rfl
  | none =>
      have nothing :
          (under (canonicalPaths files roots "classpath:") location).find? files.exists? = none := by
        rw [List.find?_eq_none]
        intro path member there
        obtain ⟨place, canonical, own⟩ := List.mem_map.mp member
        rw [← own] at there
        obtain ⟨other, inside, held⟩ :=
          exists?_of_default files roots anchored location place short canonical there
        exact List.find?_eq_none.mp found other inside held
      rw [nothing]
      rfl

/-- A loader that was assembled for the default search path finds what its parent finds. -/
theorem get_default (anchored : files.Anchored) (location : String)
    (short : ∀ root ∈ roots,
      (Path.join root (Location.relative location)).utf8ByteSize < FileSystem.pathLimit)
    (loader : Loader)
    (assembled : (Loader.classpath roots).assemble files "classpath:" = .ok loader) :
    loader.get files location = (Loader.classpath roots).get files location := by
  unfold assemble at assembled
  cases searched : (Loader.classpath roots).searchRoots files "classpath:" with
  | error fault => simp only [searched, reduceCtorEq] at assembled
  | ok urls =>
      have stand := stands_searchRoots files roots "classpath:" urls searched
      simp only [searched, Except.ok.injEq] at assembled
      rw [← assembled]
      unfold withRoots
      split
      · rfl
      · cases named : Location.filePath? location with
        | some path => exact get_search_path files roots urls location (by rw [named]; rfl)
        | none =>
            calc (Loader.search urls (.classpath roots)).get files location
                = firstUnder files (roots ++ directories urls) location :=
                  get_search files roots urls location named
              _ = firstUnder files (roots ++ canonicalPaths files roots "classpath:") location := by
                  have same := under_stands stand location
                  unfold firstUnder under at same ⊢
                  rw [List.map_append, List.map_append, same]
              _ = firstUnder files roots location :=
                  firstUnder_default files roots anchored location short
              _ = (Loader.classpath roots).get files location :=
                  (get_classpath files roots location named).symm

end Loader

namespace ViewBuilder

variable {ε : Type} [ScriptEngine ε]

/-- Where no layer sets a search path and no loader is set, a view has the loader that is assembled for
the default search path. -/
theorem assembled_of_build {builder : ViewBuilder} {environment : Environment ε} {host last : Host ε}
    {view : View ε} (built : builder.build environment host = (.ok view, last)) (template : Settings)
    (only : environment.templates = [template]) (unset : builder.settings.loaderPath = none)
    (unsetBelow : template.loaderPath = none) (unloaded : builder.loader = none) :
    environment.loader.assemble host.files "classpath:" = .ok view.loader := by
  obtain ⟨plan, provider, planned, same⟩ := exists_plan_of_build built
  obtain ⟨_, ⟨own, listed, resolved⟩, found⟩ :=
    (plan_eq_ok_iff builder environment host.files plan).mp planned
  rw [only, List.cons.injEq] at listed
  rw [← listed.1] at resolved
  obtain ⟨_, _, _, _, _, _, _, settled⟩ := (Settings.resolve_eq_ok_iff _ _).mp resolved
  have path : plan.settings.loaderPath = "classpath:" := by
    rw [settled]
    unfold Settings.withFallback
    dsimp only
    rw [unset, unsetBelow]
    rfl
  rw [path] at found
  unfold findLoader at found
  rw [unloaded] at found
  unfold Loader.assemble
  rw [same]
  cases searched : environment.loader.searchRoots host.files "classpath:" with
  | error fault => simp only [searched, reduceCtorEq] at found
  | ok roots =>
      simp only [searched, Except.ok.injEq, Prod.mk.injEq] at found
      exact congrArg Except.ok found.1

end ViewBuilder

namespace Loader

/-- Whatever is on the classpath, the default search path makes no difference, as long as the current
directory has proper names and no path is too long. A loader that is assembled for it resolves each
location as its parent does, and so does a view for which no loader and no search path was set. -/
theorem default_path_transparent (files : FileSystem) (anchored : files.Anchored)
    (roots : List String) (location : String)
    (short : ∀ root ∈ roots,
      (Path.join root (Location.relative location)).utf8ByteSize < FileSystem.pathLimit) :
    (∀ loader, (Loader.classpath roots).assemble files "classpath:" = .ok loader →
      loader.get files location = (Loader.classpath roots).get files location) ∧
    ∀ (ε : Type) [ScriptEngine ε] (builder : ViewBuilder) (environment : Environment ε)
      (template : Settings) (host last : Host ε) (view : View ε),
      environment.loader = .classpath roots → environment.templates = [template] →
      builder.loader = none → builder.settings.loaderPath = none → template.loaderPath = none →
      host.files = files → builder.build environment host = (.ok view, last) →
      view.loader.get files location = (Loader.classpath roots).get files location := by
  have transparent := get_default files roots anchored location short
  refine ⟨transparent, ?_⟩
  intro ε _ builder environment template host last view ambient only unloaded unset unsetBelow held
    built
  have assembled := ViewBuilder.assembled_of_build built template only unset unsetBelow unloaded
  rw [held, ambient] at assembled
  exact transparent view.loader assembled

/-- Directories and files, seen from one of the directories. -/
def homeDirectory : FileSystem where
  entries := [(["home"], .directory), (["home", "pages"], .directory),
    (["home", "top.html"], .file [104]), (["lib"], .directory), (["lib", "part.html"], .file [105])]
  current := ["home"]

/-- An empty path, one with a detour, one that leads nowhere, and an absolute one. -/
def homeRoots : List String := ["", "pages/../pages", "missing", "/lib/"]

theorem default_path_transparent_home :
    ∃ loader, (Loader.classpath homeRoots).assemble homeDirectory "classpath:" = .ok loader ∧
      loader ≠ .classpath homeRoots ∧
      loader.get homeDirectory "classpath://../top.html" =
        .file "classpath://../top.html" "pages/../pages/../top.html" := by
  have told : ((Loader.classpath homeRoots).searchRoots homeDirectory "classpath:").toOption =
      some [.file "/home/pages/", .file "/lib/"] := by
    decide +kernel
  cases found : (Loader.classpath homeRoots).searchRoots homeDirectory "classpath:" with
  | error fault =>
      rw [found] at told
      cases told
  | ok roots =>
      rw [found] at told
      have assembled : (Loader.classpath homeRoots).assemble homeDirectory "classpath:" =
          .ok (.search [.file "/home/pages/", .file "/lib/"] (.classpath homeRoots)) := by
        unfold assemble
        rw [found, Option.some.inj told]
        rfl
      have anchored : homeDirectory.Anchored := by
        intro name member
        rw [List.mem_singleton.mp member]
        exact ⟨by decide, by decide, by decide, by decide⟩
      have transparent := default_path_transparent homeDirectory anchored homeRoots
        "classpath://../top.html" (by decide +kernel)
      exact ⟨_, assembled, nofun, (transparent.1 _ assembled).trans (by decide +kernel)⟩

end Loader

end Stencil
