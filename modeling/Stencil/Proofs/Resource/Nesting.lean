import Stencil.Proofs.Resource.Lookup

/-!
Search paths over search paths. A search path adds to its parent what its roots have, and what roots have
is what each of them has (`candidates_append`). So the roots of a search path over another are as good as
appended to those of the inner one (`nested_flatten`), and of a root that is repeated the first place
decides what is found (`head?_candidates_repeat`).
-/

namespace Stencil

namespace Loader

variable (files : FileSystem) (location : String)

/-! ### Roots -/

theorem candidates_append (first second : List Url) :
    candidates files (first ++ second) location =
      candidates files first location ++ candidates files second location := by
  unfold candidates under directories
  rw [List.filterMap_append, List.map_append, List.filter_append, List.map_append]

/-- A root that stands among others has nothing that these do not have. -/
theorem candidates_subset (url : Url) (roots : List Url) (member : url ∈ roots) :
    candidates files [url] location ⊆ candidates files roots location := by
  obtain ⟨before, after, split⟩ := List.append_of_mem member
  rw [split, List.append_cons, candidates_append, candidates_append]
  intro resource found
  exact List.mem_append_left _ (List.mem_append_right _ found)

/-- What is first under some roots is first as well where one of them is repeated behind them. -/
theorem head?_candidates_repeat (front back : List Url) (url : Url) (member : url ∈ front) :
    (candidates files (front ++ url :: back) location).head? =
      (candidates files (front ++ back) location).head? := by
  rw [List.append_cons, candidates_append, candidates_append, candidates_append, List.append_assoc,
    List.head?_append, List.head?_append, List.head?_append]
  cases found : (candidates files front location).head? with
  | some resource => rfl
  | none =>
      have within := candidates_subset files location url front member
      rw [List.head?_eq_none_iff.mp found, List.subset_nil] at within
      rw [within]
      rfl

/-! ### Two search paths -/

theorem get_nested (parent : Loader) (first second : List Url) :
    (Loader.search second (.search first parent)).get files location =
      (Loader.search (first ++ second) parent).get files location := by
  by_cases path : (Location.filePath? location).isSome = true
  · rw [get_search_file files location _ _ path, get_search_file files location _ _ path,
      get_search_file files location _ _ path]
  · have named := Option.not_isSome_iff_eq_none.mp path
    rw [get_search_eq files location second _ named, present_search files location first _ named,
      get_search_eq files location first _ named, get_search_eq files location _ _ named,
      candidates_append, List.head?_append, Option.or_assoc]
    -- The inner loader's answer counts only where nothing is found, and there it is the parent's.
    generalize (candidates files first location).head? = inner
    generalize (candidates files second location).head? = outer
    cases present files (parent.get files location) with
    | some resource => rfl
    | none => cases inner <;> rfl

theorem list_nested (parent : Loader) (first second : List Url) :
    (Loader.search second (.search first parent)).list files location =
      (Loader.search (first ++ second) parent).list files location := by
  rw [list_search_eq, list_search_eq, list_search_eq]
  cases parent.list files location with
  | error fault => rfl
  | ok resources =>
      refine congrArg Except.ok ?_
      dsimp only
      split
      · rw [List.append_nil]
      · rw [candidates_append, List.append_assoc]

theorem get_repeat (parent : Loader) (front back : List Url) (url : Url) (member : url ∈ front) :
    (Loader.search (front ++ url :: back) parent).get files location =
      (Loader.search (front ++ back) parent).get files location := by
  by_cases path : (Location.filePath? location).isSome = true
  · rw [get_search_file files location _ _ path, get_search_file files location _ _ path]
  · have named := Option.not_isSome_iff_eq_none.mp path
    rw [get_search_eq files location _ _ named, get_search_eq files location _ _ named,
      head?_candidates_repeat files location front back url member]

/-- Search path roots over a loader that has roots of its own are those roots appended to its own, over
its parent, whatever the parent is: every location, be it a name or a path, is looked up and listed
alike, with the same fault where listing has one. A root that is repeated anywhere behind itself changes
no lookup. -/
theorem nested_flatten (parent : Loader) :
    (∀ first second location,
      (Loader.search second (.search first parent)).get files location =
          (Loader.search (first ++ second) parent).get files location ∧
        (Loader.search second (.search first parent)).list files location =
          (Loader.search (first ++ second) parent).list files location) ∧
      ∀ front back url, url ∈ front → ∀ location,
        (Loader.search (front ++ url :: back) parent).get files location =
          (Loader.search (front ++ back) parent).get files location := by
  refine ⟨?_, ?_⟩
  · intro first second location
    exact ⟨get_nested files location parent first second,
      list_nested files location parent first second⟩
  · intro front back url member location
    exact get_repeat files location parent front back url member

theorem nested_flatten_threefold :
    threefold.list threeDirectories "/page" =
        .ok [.file "/page" "/a/page", .file "/page" "/c/page"] ∧
      (Loader.search [.file "/c/", .file "/b/", .file "/c/"] (.classpath [])).get threeDirectories
        "page" = .file "page" "/c/page" := by
  obtain ⟨flat, _⟩ := nested_flatten threeDirectories (.classpath ["/a", "/none"])
  obtain ⟨_, again⟩ := nested_flatten threeDirectories (.classpath [])
  refine ⟨(flat [.file "/b/"] [.file "/a/page", .file "/c/"] "/page").2.trans (by rfl), ?_⟩
  exact (again [.file "/c/", .file "/b/"] [] (.file "/c/") (by decide) "page").trans (by rfl)

end Loader

end Stencil
