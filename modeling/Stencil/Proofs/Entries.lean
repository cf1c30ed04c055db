import Mathlib.Data.List.Basic

/-!
Entries under names. What a list of entries answers when a name is taken out of it or gets another value;
entries of the same names, each once, are told apart by what some name finds (`eq_of_lookup`).
-/

namespace Stencil

namespace Entries

variable {α : Type} (name : String)

theorem lookup_entry (key : String) (held : α) (rest : List (String × α)) :
    ((key, held) :: rest).lookup name = if name = key then some held else rest.lookup name := by
  rw [List.lookup_cons]
  by_cases same : name = key
  · rw [if_pos same, beq_iff_eq.mpr same]
  · rw [if_neg same, beq_eq_false_iff_ne.mpr same]

theorem mem_names_iff (entries : List (String × α)) :
    name ∈ entries.map Prod.fst ↔ (entries.lookup name).isSome = true := by
  rw [List.mem_map, List.lookup_isSome_iff]
  constructor
  · rintro ⟨entry, member, own⟩
    exact ⟨entry, member, beq_iff_eq.mpr own.symm⟩
  · rintro ⟨entry, member, own⟩
    exact ⟨entry, member, (beq_iff_eq.mp own).symm⟩

/-- Without the entries of one name every other name finds what it found. -/
theorem lookup_without (other : String) (entries : List (String × α)) :
    (entries.filter (fun entry => entry.1 != name)).lookup other =
      if other = name then none else entries.lookup other := by
  induction entries with
  | nil => simp
  | cons entry rest ih =>
      obtain ⟨key, held⟩ := entry
      by_cases own : key = name
      · rw [List.filter_cons_of_neg (by simp [own]), ih, lookup_entry, own]
        by_cases same : other = name
        · rw [if_pos same, if_pos same]
        · rw [if_neg same, if_neg same, if_neg same]
      · rw [List.filter_cons_of_pos (by simp [own]), lookup_entry, lookup_entry, ih]
        by_cases same : other = key
        · rw [if_pos same, if_pos same, if_neg (same ▸ own)]
        · rw [if_neg same, if_neg same]

/-- An entry that gets another value is found with it, and every other name finds what it found. -/
theorem lookup_replace (value : α) (other : String) (entries : List (String × α)) :
    (entries.map fun entry => if entry.1 = name then (name, value) else entry).lookup other =
      if other = name then (entries.lookup name).map (fun _ => value) else entries.lookup other := by
  induction entries with
  | nil => simp
  | cons entry rest ih =>
      obtain ⟨key, held⟩ := entry
      by_cases own : key = name
      · rw [List.map_cons, if_pos own, lookup_entry, lookup_entry, lookup_entry, ih, own]
        by_cases same : other = name
        · rw [if_pos same, if_pos same, if_pos rfl, Option.map_some]
        · rw [if_neg same, if_neg same, if_neg same, if_neg same]
      · rw [List.map_cons, if_neg own, lookup_entry, lookup_entry, lookup_entry, ih,
          if_neg (Ne.symm own)]
        by_cases same : other = name
        · rw [if_pos same, if_pos same, if_neg (fun key => own (key.symm.trans same))]
        · rw [if_neg same, if_neg same]

theorem mem_of_lookup (value : α) (entries : List (String × α))
    (found : entries.lookup name = some value) : (name, value) ∈ entries := by
  obtain ⟨before, after, split, _⟩ := List.lookup_eq_some_iff.mp found
  rw [split]
  exact List.mem_append_right before List.mem_cons_self

theorem lookup_of_mem (value : α) (entries : List (String × α))
    (once : (entries.map Prod.fst).Nodup) (member : (name, value) ∈ entries) :
    entries.lookup name = some value := by
  induction entries with
  | nil => cases member
  | cons entry rest ih =>
      obtain ⟨key, held⟩ := entry
      obtain ⟨absent, later⟩ := List.nodup_cons.mp once
      rcases List.mem_cons.mp member with first | behind
      · cases first
        exact List.lookup_cons_self
      · have apart : name ≠ key := by
          rintro rfl
          exact absent (List.mem_map.mpr ⟨_, behind, rfl⟩)
        rw [lookup_entry, if_neg apart]
        exact ih later behind

/-- Entries of one name each are what their names find. -/
theorem filterMap_lookup (entries : List (String × α)) (once : (entries.map Prod.fst).Nodup) :
    (entries.map Prod.fst).filterMap (fun name => (entries.lookup name).map (Prod.mk name)) =
      entries := by
  rw [List.filterMap_map]
  refine (List.filterMap_congr ?_).trans List.filterMap_some
  intro entry member
  rw [Function.comp_apply, lookup_of_mem entry.1 entry.2 entries once member]
  rfl

theorem eq_of_lookup (entries others : List (String × α))
    (names : entries.map Prod.fst = others.map Prod.fst) (once : (entries.map Prod.fst).Nodup)
    (same : ∀ name, entries.lookup name = others.lookup name) : entries = others := by
  rw [← filterMap_lookup entries once, ← filterMap_lookup others (names ▸ once), names]
  refine List.filterMap_congr ?_
  intro name _
  rw [same]

end Entries

end Stencil
