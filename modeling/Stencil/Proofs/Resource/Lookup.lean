import Stencil.Resource.Loader

/-!
Looking up one resource and listing all of a location tell the same. Where a listing succeeds, what it
lists is there, and its first resource is the one that a lookup finds (`head?_list`); a lookup finds
nothing exactly if the listing is empty. A search path answers after its parent (`present_search`), and
for a path not at all (`get_search_file`).
-/

namespace Stencil

namespace FileSystem

variable (files : FileSystem)

/-- Where no fault is met, a path that was checked leads to something or not as it is told. -/
theorem exists?_of_checked {path : String} {found : Bool}
    (checked : files.checked path = .ok found) : files.exists? path = found := by
  unfold FileSystem.checked at checked
  unfold exists?
  cases seen : files.look path with
  | ok node =>
      simp only [seen, Except.ok.injEq] at checked
      exact checked
  | error fault =>
      cases fault with
      | notFound =>
          simp only [seen, Except.ok.injEq] at checked
          exact checked
      | notADirectory | isADirectory | nameTooLong | nulInName | notUtf8 | noResource _ | other _ =>
          simp only [seen, reduceCtorEq] at checked

end FileSystem

namespace Loader

variable (files : FileSystem) (location : String)

/-- A check of all paths that meets no fault keeps those that lead to something. -/
theorem checkedPaths_eq_filter (paths found : List String)
    (checked : checkedPaths files paths = .ok found) : found = paths.filter files.exists? := by
  induction paths generalizing found with
  | nil =>
      simp only [checkedPaths, Except.ok.injEq] at checked
      exact checked.symm
  | cons path rest ih =>
      unfold checkedPaths at checked
      cases own : files.checked path with
      | error fault => simp only [own, reduceCtorEq] at checked
      | ok there =>
          cases others : checkedPaths files rest with
          | error fault => simp only [own, others, reduceCtorEq] at checked
          | ok later =>
              have told := files.exists?_of_checked own
              simp only [own, others, Except.ok.injEq] at checked
              rw [← checked, ih later others]
              cases there with
              | true => rw [if_pos rfl, List.filter_cons_of_pos told]
              | false => rw [if_neg Bool.false_ne_true, List.filter_cons_of_neg (by simp [told])]

/-! ### Resources under directories -/

/-- The paths that a location names under directories. -/
def paths (roots : List String) (location : String) : List String :=
  match Location.filePath? location with
  | some path => [path]
  | none => under roots location

theorem list_classpath (roots : List String) (resources : List Resource)
    (listed : (Loader.classpath roots).list files location = .ok resources) :
    resources = ((paths roots location).filter files.exists?).map (Resource.file location) := by
  unfold list at listed
  unfold paths
  dsimp only at listed
  split at listed
  · next found checked =>
      have kept := checkedPaths_eq_filter files _ found checked
      exact (Except.ok.inj listed).symm.trans (congrArg (List.map (Resource.file location)) kept)
  · cases listed

theorem of_mem_present {resource found : Resource}
    (member : resource ∈ (present files found).toList) :
    resource = found ∧ found.exists? files = true := by
  unfold present at member
  split at member
  · next there => exact ⟨List.mem_singleton.mp member, there⟩
  · cases member

theorem head?_paths (roots : List String) :
    (((paths roots location).filter files.exists?).map (Resource.file location)).head? =
      present files ((Loader.classpath roots).get files location) := by
  rw [List.head?_map, List.head?_filter]
  unfold paths get present
  cases Location.filePath? location with
  | some path =>
      cases there : files.exists? path with
      | true => simp [Resource.file, Resource.exists?, there]
      | false => simp [Resource.file, Resource.exists?, there]
  | none =>
      cases found : (under roots location).find? files.exists? with
      | none => rfl
      | some path =>
          have there := List.find?_some found
          simp only [Resource.file, Resource.exists?, there, Option.map_some, if_true]

/-! ### A search path over a parent -/

/-- What is found under search path roots is there, and stands under the location. -/
theorem of_mem_candidates (roots : List Url) (resource : Resource)
    (member : resource ∈ candidates files roots location) :
    resource.location = location ∧ resource.exists? files = true := by
  obtain ⟨path, kept, same⟩ := List.mem_map.mp member
  rw [← same]
  exact ⟨rfl, (List.mem_filter.mp kept).2⟩

/-- A location that is a path is left to the parent. -/
theorem get_search_file (roots : List Url) (parent : Loader)
    (path : (Location.filePath? location).isSome = true) :
    (Loader.search roots parent).get files location = parent.get files location := by
  rw [get, path, Bool.or_true, if_pos rfl]

theorem present_of_mem_candidates (roots : List Url) (resource : Resource)
    (member : resource ∈ candidates files roots location) :
    present files resource = some resource :=
  if_pos (of_mem_candidates files location roots resource member).2

section Named

variable (roots : List Url) (parent : Loader) (named : Location.filePath? location = none)

include named

theorem get_search_eq :
    (Loader.search roots parent).get files location =
      ((present files (parent.get files location)).or
        (candidates files roots location).head?).getD (parent.get files location) := by
  rw [get, named]
  unfold present
  cases there : (parent.get files location).exists? files with
  | true => rfl
  | false => rfl

theorem present_search :
    present files ((Loader.search roots parent).get files location) =
      (present files (parent.get files location)).or (candidates files roots location).head? := by
  rw [get_search_eq files location roots parent named]
  cases there : (parent.get files location).exists? files with
  | true =>
      have own : present files (parent.get files location) = some (parent.get files location) :=
        if_pos there
      rw [own]
      exact own
  | false =>
      have own : present files (parent.get files location) = none := by
        unfold present
        rw [there]
        rfl
      rw [own, Option.none_or]
      cases found : (candidates files roots location).head? with
      | none => exact own
      | some resource =>
          exact present_of_mem_candidates files location roots resource (List.mem_of_head? found)

end Named

/-- A listing over a search path is the listing of the parent with what the roots have after it. -/
theorem list_search_eq (roots : List Url) (parent : Loader) :
    (Loader.search roots parent).list files location =
      (parent.list files location).map fun resources => resources ++
        if (Location.filePath? location).isSome then [] else candidates files roots location := by
  rw [list]
  cases parent.list files location with
  | error fault => rfl
  | ok resources =>
      dsimp only [Except.map]
      split
      · rw [List.append_nil]
      · rfl

theorem list_search (roots : List Url) (parent : Loader) (resources : List Resource)
    (listed : (Loader.search roots parent).list files location = .ok resources) :
    ∃ inner, parent.list files location = .ok inner ∧
      resources = inner ++
        if (Location.filePath? location).isSome then [] else candidates files roots location := by
  rw [list_search_eq] at listed
  cases own : parent.list files location with
  | error fault => simp only [own, Except.map, reduceCtorEq] at listed
  | ok inner =>
      rw [own] at listed
      exact ⟨inner, rfl, (Except.ok.inj listed).symm⟩

/-! ### A loader of the caller's -/

/-- What is asked of the answers of a caller: that they stand under the location, that what is listed
is there, and that a listing starts with what is looked up, if that is there. -/
structure Answers.Lawful (answers : Answers) : Prop where
  located : ∀ files location, (answers.get files location).location = location
  there : ∀ files location resources, answers.list files location = .ok resources →
    ∀ resource ∈ resources, resource.location = location ∧ resource.exists? files = true
  first : ∀ files location resources, answers.list files location = .ok resources →
    resources.head? = present files (answers.get files location)

/-- A loader of the caller's that only looks up need not do more than stand under the location. -/
theorem Answers.lawful_ofGet (get : FileSystem → String → Resource)
    (located : ∀ files location, (get files location).location = location) :
    (Answers.ofGet get).Lawful where
  located := located
  there files location resources listed resource member := by
    rw [← Except.ok.inj listed] at member
    obtain ⟨same, there⟩ := of_mem_present files member
    rw [same]
    exact ⟨located files location, there⟩
  first files location resources listed := by
    rw [← Except.ok.inj listed]
    exact Option.head?_toList

/-- Whether a caller's loader under all search path roots, if there is one, does as is asked of it. -/
def Lawful : Loader → Prop
  | .memory _ | .classpath _ => True
  | .search _ parent => parent.Lawful
  | .own answers => answers.Lawful

/-! ### All loaders -/

section Lawful

variable (loader : Loader) (lawful : loader.Lawful)

include lawful

theorem get_location : (loader.get files location).location = location := by
  induction loader with
  | memory contents =>
      unfold get
      cases contents.lookup (Location.relative location) <;> rfl
  | classpath roots =>
      unfold get
      cases Location.filePath? location with
      | some path => rfl
      | none =>
          dsimp only
          cases (under roots location).find? files.exists? <;> rfl
  | search roots parent ih =>
      unfold get
      dsimp only
      split
      · exact ih lawful
      · cases named : (candidates files roots location).head? with
        | none => exact ih lawful
        | some resource =>
            exact (of_mem_candidates files location roots resource (List.mem_of_head? named)).1
  | own answers => exact lawful.located files location

theorem of_mem_list (resources : List Resource)
    (listed : loader.list files location = .ok resources) (resource : Resource)
    (member : resource ∈ resources) :
    resource.location = location ∧ resource.exists? files = true := by
  induction loader generalizing resources with
  | memory contents =>
      rw [← Except.ok.inj listed] at member
      obtain ⟨same, there⟩ := of_mem_present files member
      rw [same]
      exact ⟨get_location files location (.memory contents) trivial, there⟩
  | classpath roots =>
      rw [list_classpath files location roots resources listed] at member
      obtain ⟨path, kept, same⟩ := List.mem_map.mp member
      rw [← same]
      exact ⟨rfl, (List.mem_filter.mp kept).2⟩
  | search roots parent ih =>
      obtain ⟨inner, own, joined⟩ := list_search files location roots parent resources listed
      rw [joined] at member
      rcases List.mem_append.mp member with inside | added
      · exact ih lawful inner own inside
      · split at added
        · cases added
        · exact of_mem_candidates files location roots resource added
  | own answers => exact lawful.there files location resources listed resource member

/-- The first resource of a listing is the one that is looked up, if that one is there. -/
theorem head?_list (resources : List Resource)
    (listed : loader.list files location = .ok resources) :
    resources.head? = present files (loader.get files location) := by
  induction loader generalizing resources with
  | memory contents =>
      rw [← Except.ok.inj listed]
      exact Option.head?_toList
  | classpath roots =>
      rw [list_classpath files location roots resources listed]
      exact head?_paths files location roots
  | search roots parent ih =>
      obtain ⟨inner, own, joined⟩ := list_search files location roots parent resources listed
      have first := ih lawful inner own
      by_cases path : (Location.filePath? location).isSome = true
      · rw [joined, if_pos path, List.append_nil, first,
          get_search_file files location roots parent path]
      · have named := Option.not_isSome_iff_eq_none.mp path
        rw [joined, if_neg path, List.head?_append, first,
          present_search files location roots parent named]
  | own answers => exact lawful.first files location resources listed

end Lawful

/-- Whatever loaders are put over one another: what is looked up and what is listed stands under the
location that was asked for. Where a listing succeeds, all that it lists is there, a lookup finds
something exactly if something is listed, and it finds what is listed first. A loader of the
caller's at the bottom has to do so itself; of the others nothing is asked. -/
theorem get_list_agree (loader : Loader) (lawful : loader.Lawful) :
    (loader.get files location).location = location ∧
      ∀ resources, loader.list files location = .ok resources →
        (∀ resource ∈ resources,
          resource.location = location ∧ resource.exists? files = true) ∧
        ((loader.get files location).exists? files = true ↔ resources ≠ []) ∧
        (resources ≠ [] → resources.head? = some (loader.get files location)) := by
  refine ⟨get_location files location loader lawful, ?_⟩
  intro resources listed
  have first := head?_list files location loader lawful resources listed
  unfold present at first
  refine ⟨of_mem_list files location loader lawful resources listed, ?_, ?_⟩
  · constructor
    · intro there empty
      rw [if_pos there, empty] at first
      cases first
    · intro filled
      by_cases there : (loader.get files location).exists? files = true
      · exact there
      · rw [if_neg there, List.head?_eq_none_iff] at first
        exact absurd first filled
  · intro filled
    by_cases there : (loader.get files location).exists? files = true
    · rw [if_pos there] at first
      exact first
    · rw [if_neg there, List.head?_eq_none_iff] at first
      exact absurd first filled

/-- A directory on the classpath and two loaders over it, one of whose roots is no directory. -/
def threefold : Loader :=
  .search [.file "/a/page", .file "/c/"] (.search [.file "/b/"] (.classpath ["/a", "/none"]))

def threeDirectories : FileSystem where
  entries := [(["a"], .directory), (["a", "page"], .file [104]), (["b"], .directory),
    (["c"], .directory), (["c", "page"], .file [105])]
  current := []

theorem get_list_agree_threefold :
    threefold.list threeDirectories "classpath:/page" =
        .ok [.file "classpath:/page" "/a/page", .file "classpath:/page" "/c/page"] ∧
      threefold.get threeDirectories "classpath:/page" = .file "classpath:/page" "/a/page" := by
  have listed : threefold.list threeDirectories "classpath:/page" =
      .ok [.file "classpath:/page" "/a/page", .file "classpath:/page" "/c/page"] := by
    rfl
  obtain ⟨_, agree⟩ := get_list_agree threeDirectories "classpath:/page" threefold trivial
  have first := (agree _ listed).2.2 (List.cons_ne_nil _ _)
  exact ⟨listed, (Option.some.inj first).symm⟩

end Loader

end Stencil
