import Mathlib.Data.List.TakeWhile
import Stencil.Proofs.Files.Walk
import Stencil.Proofs.Resource.Assembled

/-!
Search paths that are put together with a comma. Nothing is an entry of both paths and no entry is cut
(`searchEntries_join`), and the roots of entries that stand after one another are put after one another
(`entriesRoots_append`), so the roots of the whole are those of the parts in their order.
-/

namespace Stencil

/-! ### Entries -/

theorem Text.trim_blank (text : List Char) (blank : Text.Blank text) : Text.trim text = [] := by
  have start : Text.trimStart text = [] := List.dropWhile_eq_nil_iff.mpr blank
  unfold Text.trim
  rw [start]
  rfl

theorem searchEntries_join (first second : String) :
    searchEntries (first ++ "," ++ second) = searchEntries first ++ searchEntries second := by
  have letters : (first ++ "," ++ second).toList = first.toList ++ ',' :: second.toList := by
    simp
  unfold searchEntries
  rw [letters, Text.splitOn_append, List.map_append, List.filter_append, List.map_append]

theorem searchEntries_blank (text : String) (blank : Text.Blank text.toList) :
    searchEntries text = [] := by
  have whole : ',' ∉ text.toList := by
    intro member
    have comma := blank ',' member
    exact absurd comma (by decide)
  unfold searchEntries
  rw [Text.splitOn_whole ',' text.toList whole, List.map_singleton, Text.trim_blank _ blank]
  rfl

theorem searchEntries_intercalate (texts : List String) :
    searchEntries (String.intercalate "," texts) = texts.flatMap searchEntries := by
  induction texts with
  | nil => rfl
  | cons text rest ih =>
      cases rest with
      | nil => simp
      | cons next others =>
          have joined : String.intercalate "," (text :: next :: others) =
              text ++ "," ++ String.intercalate "," (next :: others) := by
            apply String.toList_injective
            simp [String.toList_intercalate]
          rw [joined, searchEntries_join, ih]
          rfl

namespace Loader

/-! ### Roots -/

/-- The roots of two searches, one after the other, or the fault of the first search that has one. -/
def joinRoots : Except ViewError (List Url) → Except ViewError (List Url) →
    Except ViewError (List Url)
  | .error fault, _ => .error fault
  | .ok _, .error fault => .error fault
  | .ok roots, .ok others => .ok (roots ++ others)

theorem joinRoots_nil (searched : Except ViewError (List Url)) :
    joinRoots (.ok []) searched = searched := by
  cases searched with
  | error fault => rfl
  | ok roots => rfl

theorem joinRoots_assoc (first second third : Except ViewError (List Url)) :
    joinRoots (joinRoots first second) third = joinRoots first (joinRoots second third) := by
  cases first with
  | error fault => rfl
  | ok roots =>
      cases second with
      | error fault => rfl
      | ok others =>
          cases third with
          | error fault => rfl
          | ok last => exact congrArg Except.ok (List.append_assoc roots others last)

theorem joinRoots_eq_nil_iff (first second : Except ViewError (List Url)) :
    joinRoots first second = .ok [] ↔ first = .ok [] ∧ second = .ok [] := by
  cases first with
  | error fault => exact iff_of_false nofun nofun
  | ok roots =>
      cases second with
      | error fault => exact iff_of_false nofun nofun
      | ok others =>
          simp only [joinRoots, Except.ok.injEq]
          exact List.append_eq_nil_iff

variable (files : FileSystem) (parent : Loader)

theorem entriesRoots_cons (entry : String) (entries : List String) :
    parent.entriesRoots files (entry :: entries) =
      joinRoots (parent.entryRoots files entry) (parent.entriesRoots files entries) := by
  rw [entriesRoots]
  cases parent.entryRoots files entry with
  | error fault => rfl
  | ok roots =>
      cases parent.entriesRoots files entries with
      | error fault => rfl
      | ok others => rfl

theorem entriesRoots_append (first second : List String) :
    parent.entriesRoots files (first ++ second) =
      joinRoots (parent.entriesRoots files first) (parent.entriesRoots files second) := by
  induction first with
  | nil => exact (joinRoots_nil _).symm
  | cons entry rest ih =>
      rw [List.cons_append, entriesRoots_cons, entriesRoots_cons, ih, joinRoots_assoc]

theorem searchRoots_join (first second : String) :
    parent.searchRoots files (first ++ "," ++ second) =
      joinRoots (parent.searchRoots files first) (parent.searchRoots files second) := by
  unfold searchRoots
  rw [searchEntries_join, entriesRoots_append]

/-- A text of blanks among others adds nothing. -/
theorem searchRoots_insert (before after : List String) (text : String)
    (blank : Text.Blank text.toList) :
    parent.searchRoots files (String.intercalate "," (before ++ text :: after)) =
      parent.searchRoots files (String.intercalate "," (before ++ after)) := by
  unfold searchRoots
  rw [searchEntries_intercalate, searchEntries_intercalate, List.flatMap_append,
    List.flatMap_append, List.flatMap_cons, searchEntries_blank text blank, List.nil_append]

theorem assemble_eq_map (path : String) :
    parent.assemble files path = (parent.searchRoots files path).map parent.withRoots := by
  unfold assemble
  cases parent.searchRoots files path with
  | error fault => rfl
  | ok roots => rfl

theorem assemble_eq_error_iff (path : String) (fault : ViewError) :
    parent.assemble files path = .error fault ↔ parent.searchRoots files path = .error fault := by
  unfold assemble
  cases parent.searchRoots files path with
  | ok roots => simp
  | error cause => simp

/-- A search path fails only with an entry that cannot be listed. -/
theorem searchRoots_error (path : String) (fault : ViewError)
    (refused : parent.searchRoots files path = .error fault) :
    ∃ cause, fault = .configuration (.loader cause) := by
  unfold searchRoots at refused
  generalize searchEntries path = entries at refused
  induction entries with
  | nil => cases refused
  | cons entry rest ih =>
      rw [entriesRoots, entryRoots] at refused
      cases listed : parent.list files entry with
      | error cause =>
          simp only [listed, Except.error.injEq] at refused
          exact ⟨cause, refused.symm⟩
      | ok resources =>
          simp only [listed] at refused
          cases rested : parent.entriesRoots files rest with
          | error own =>
              simp only [rested, Except.error.injEq] at refused
              exact ih (rested.trans (congrArg _ refused))
          | ok roots => simp [rested] at refused

theorem withRoots_eq_self_iff (roots : List Url) : parent.withRoots roots = parent ↔ roots = [] := by
  cases roots with
  | nil => exact iff_of_true rfl rfl
  | cons url others =>
      refine iff_of_false ?_ nofun
      intro same
      -- No loader is a part of itself.
      have size := congrArg sizeOf same
      simp only [withRoots, List.isEmpty_cons, Bool.false_eq_true, ↓reduceIte,
        Loader.search.sizeOf_spec] at size
      omega

theorem assemble_eq_self_iff (path : String) :
    parent.assemble files path = .ok parent ↔ parent.searchRoots files path = .ok [] := by
  rw [assemble_eq_map]
  cases parent.searchRoots files path with
  | error fault => exact iff_of_false nofun nofun
  | ok roots =>
      simp only [Except.map, Except.ok.injEq]
      exact parent.withRoots_eq_self_iff roots

/-- A search path of two parts with a comma between them has the roots of the first part and then those
of the second; if a part cannot be listed, the whole fails as the first such part does, and never
otherwise than over its configuration. Blank texts between commas add nothing, wherever they stand. The
parent itself is what is assembled exactly if neither part has roots. -/
theorem assemble_joined (first second : String) :
    parent.searchRoots files (first ++ "," ++ second) =
        joinRoots (parent.searchRoots files first) (parent.searchRoots files second) ∧
      (∀ path, parent.assemble files path =
        (parent.searchRoots files path).map parent.withRoots) ∧
      (∀ path fault, parent.assemble files path = .error fault →
        ∃ cause, fault = .configuration (.loader cause)) ∧
      (∀ before after text, Text.Blank text.toList →
        parent.searchRoots files (String.intercalate "," (before ++ text :: after)) =
          parent.searchRoots files (String.intercalate "," (before ++ after))) ∧
      (parent.assemble files (first ++ "," ++ second) = .ok parent ↔
        parent.searchRoots files first = .ok [] ∧ parent.searchRoots files second = .ok []) := by
  refine ⟨parent.searchRoots_join files first second, parent.assemble_eq_map files, ?_,
    parent.searchRoots_insert files, ?_⟩
  · intro path fault refused
    rw [assemble_eq_error_iff] at refused
    exact parent.searchRoots_error files path fault refused
  · rw [assemble_eq_self_iff, searchRoots_join, joinRoots_eq_nil_iff]

theorem assemble_joined_delimited :
    (Loader.classpath ["."]).searchRoots delimited " classpath:a#b/ ,,, file:50% é/../50% é" =
        .ok [.file "/r/a#b/", .file "/r/50% é/"] ∧
      (Loader.classpath ["."]).searchRoots delimited "a#b, \t,50% é" =
        (Loader.classpath ["."]).searchRoots delimited "a#b,50% é" ∧
      (Loader.classpath ["."]).searchRoots delimited "a#b,a#b/x?.html/y,50% é" =
        .error (.configuration (.loader .notADirectory)) := by
  obtain ⟨joined, _, _, inserted, _⟩ := assemble_joined delimited (.classpath ["."])
    " classpath:a#b/ ," ", file:50% é/../50% é"
  obtain ⟨stopped, _⟩ := assemble_joined delimited (.classpath ["."]) "a#b" "a#b/x?.html/y,50% é"
  refine ⟨joined.trans (by decide +kernel), ?_, stopped.trans (by decide +kernel)⟩
  exact inserted ["a#b"] ["50% é"] " \t" (by decide)

end Loader

end Stencil
