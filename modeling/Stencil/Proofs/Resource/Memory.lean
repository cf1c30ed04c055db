import Mathlib.Data.List.TakeWhile
import Stencil.Proofs.Entries
import Stencil.Resource.Loader

/-!
Contents in memory. What a location finds there is told by its name alone, and it is the content that was
inserted last under that name (`get_ofContents`). A name that has neither slash nor tag in front is that
of its spellings and of no other location (`relative_eq_iff`).
-/

namespace Stencil

namespace Location

/-! ### Spellings of a name -/

/-- A name as a location: with or without the tag, and with any number of slashes in front. -/
def spelling (tagged : Bool) (slashes : Nat) (name : String) : String :=
  (if tagged then "classpath:" else "") ++ String.ofList (List.replicate slashes '/') ++ name

/-- Neither a slash nor the tag stands in front of the name. -/
def Bare (name : String) : Prop :=
  name.toList.head? ≠ some '/' ∧ ¬ classpathTag <+: name.toList

instance (name : String) : Decidable (Bare name) :=
  inferInstanceAs (Decidable (_ ∧ _))

theorem toList_spelling (tagged : Bool) (slashes : Nat) (name : String) :
    (spelling tagged slashes name).toList =
      (if tagged then classpathTag else []) ++ (List.replicate slashes '/' ++ name.toList) := by
  unfold spelling
  rw [String.toList_append, String.toList_append, String.toList_ofList, List.append_assoc]
  cases tagged <;> rfl

theorem untag?_append (tag rest : List Char) : untag? tag (tag ++ rest) = some rest := by
  unfold untag?
  rw [if_pos (List.isPrefixOf_iff_prefix.mpr (List.prefix_append tag rest)), List.drop_left]

theorem untag?_eq_none (tag text : List Char) (untagged : ¬ tag <+: text) :
    untag? tag text = none := by
  unfold untag?
  rw [if_neg (fun tagged => untagged (List.isPrefixOf_iff_prefix.mp tagged))]

theorem eq_append_of_untag? (tag text rest : List Char) (tagged : untag? tag text = some rest) :
    text = tag ++ rest := by
  unfold untag? at tagged
  split at tagged
  · next present =>
      obtain ⟨behind, whole⟩ := List.isPrefixOf_iff_prefix.mp present
      rw [← whole, List.drop_left, Option.some.injEq] at tagged
      rw [← whole, tagged]
  · cases tagged

theorem dropWhile_slashes (slashes : Nat) (text : List Char) (bare : text.head? ≠ some '/') :
    (List.replicate slashes '/' ++ text).dropWhile (fun c => c = '/') = text := by
  induction slashes with
  | zero =>
      cases text with
      | nil => rfl
      | cons c rest =>
          have other : c ≠ '/' := fun slash => bare (congrArg some slash)
          exact List.dropWhile_cons_of_neg (by simpa using other)
  | succ count ih =>
      rw [List.replicate_succ, List.cons_append, List.dropWhile_cons_of_pos (by decide), ih]

theorem relative_spelling (name : String) (bare : Bare name) (tagged : Bool) (slashes : Nat) :
    relative (spelling tagged slashes name) = name := by
  obtain ⟨noSlash, noTag⟩ := bare
  have given : (untag? classpathTag (spelling tagged slashes name).toList).getD
      (spelling tagged slashes name).toList = List.replicate slashes '/' ++ name.toList := by
    rw [toList_spelling]
    cases tagged with
    | true => rw [if_pos rfl, untag?_append, Option.getD_some]
    | false =>
        -- Where the tag would begin stands a slash, or the name itself.
        have untagged : ¬ classpathTag <+: List.replicate slashes '/' ++ name.toList := by
          cases slashes with
          | zero => exact noTag
          | succ count =>
              rw [List.replicate_succ, List.cons_append]
              intro tag
              exact absurd (List.cons_prefix_cons.mp tag).1 (by decide)
        rw [if_neg Bool.false_ne_true, List.nil_append, untag?_eq_none _ _ untagged,
          Option.getD_none]
  unfold relative relativeChars
  rw [given, dropWhile_slashes slashes _ noSlash, String.ofList_toList]

/-- Every location is a spelling of its name. -/
theorem exists_spelling (location : String) :
    ∃ tagged slashes, location = spelling tagged slashes (relative location) := by
  have slashed : ∀ text : List Char, ∃ slashes,
      text = List.replicate slashes '/' ++ text.dropWhile (fun c => c = '/') := by
    intro text
    have front : text.takeWhile (fun c => c = '/') =
        List.replicate (text.takeWhile (fun c => c = '/')).length '/' := by
      refine List.eq_replicate_of_mem ?_
      intro c member
      simpa using List.mem_takeWhile_imp member
    exact ⟨_, by rw [← front, List.takeWhile_append_dropWhile]⟩
  have name : (relative location).toList = relativeChars location.toList := String.toList_ofList
  unfold relativeChars at name
  cases tag : untag? classpathTag location.toList with
  | some rest =>
      rw [tag, Option.getD_some] at name
      obtain ⟨slashes, split⟩ := slashed rest
      refine ⟨true, slashes, String.toList_inj.mp ?_⟩
      rw [toList_spelling, if_pos rfl, name, ← split]
      exact eq_append_of_untag? _ _ _ tag
  | none =>
      rw [tag, Option.getD_none] at name
      obtain ⟨slashes, split⟩ := slashed location.toList
      refine ⟨false, slashes, String.toList_inj.mp ?_⟩
      rw [toList_spelling, if_neg Bool.false_ne_true, name, ← split]
      rfl

theorem relative_eq_iff (name : String) (bare : Bare name) (location : String) :
    relative location = name ↔ ∃ tagged slashes, location = spelling tagged slashes name := by
  constructor
  · intro own
    obtain ⟨tagged, slashes, spelled⟩ := exists_spelling location
    rw [own] at spelled
    exact ⟨tagged, slashes, spelled⟩
  · rintro ⟨tagged, slashes, rfl⟩
    exact relative_spelling name bare tagged slashes

end Location

namespace Loader

/-! ### What was inserted last -/

theorem lookup_insert (location name : String) (content : Bytes)
    (contents : List (String × Bytes)) :
    (insert location content contents).lookup name =
      if name = Location.relative location then some content else contents.lookup name := by
  unfold insert
  rw [List.lookup_cons]
  by_cases own : name = Location.relative location
  · rw [if_pos own, beq_iff_eq.mpr own]
  · rw [if_neg own, beq_eq_false_iff_ne.mpr own, Entries.lookup_without, if_neg own]

theorem lookup_foldl_insert (contents held : List (String × Bytes)) (name : String) :
    (contents.foldl (fun held content => insert content.1 content.2 held) held).lookup name =
      ((contents.reverse.find? fun inserted => Location.relative inserted.1 = name).map Prod.snd).or
        (held.lookup name) := by
  induction contents generalizing held with
  | nil => rfl
  | cons content rest ih =>
      rw [List.foldl_cons, ih, lookup_insert, List.reverse_cons, List.find?_append, Option.map_or,
        Option.or_assoc, List.find?_singleton]
      by_cases own : Location.relative content.1 = name
      · simp [own]
      · simp [own, Ne.symm own]

variable (files : FileSystem)

theorem get_ofContents (contents : List (String × Bytes)) (location : String) :
    (ofContents contents).get files location =
      match contents.reverse.find? fun inserted =>
        Location.relative inserted.1 = Location.relative location with
      | some inserted => .memory location inserted.2
      | none => .missing location := by
  unfold ofContents get
  rw [lookup_foldl_insert, List.lookup_nil, Option.or_none]
  cases contents.reverse.find? _ <;> rfl

/-- One more content replaces what its name found, and changes no other name. -/
theorem get_ofContents_append (contents : List (String × Bytes)) (inserted : String)
    (content : Bytes) (location : String) :
    (ofContents (contents ++ [(inserted, content)])).get files location =
      if Location.relative location = Location.relative inserted then .memory location content
      else (ofContents contents).get files location := by
  rw [get_ofContents, get_ofContents, List.reverse_append, List.reverse_singleton,
    List.singleton_append, List.find?_cons]
  by_cases own : Location.relative location = Location.relative inserted
  · simp [own]
  · simp [own, Ne.symm own]

/-- Whatever was inserted one after another: a location finds the content that was inserted last under a
location of its name, and is missing where there is none. A name that has neither slash nor tag in front
is that of its spellings and of no other location; they all find one content, and inserting under any of
them replaces it and leaves what every location of another name finds as it is. -/
theorem spellings_agree (contents : List (String × Bytes)) :
    (∀ location, (ofContents contents).get files location =
      match contents.reverse.find? fun inserted =>
        Location.relative inserted.1 = Location.relative location with
      | some inserted => .memory location inserted.2
      | none => .missing location) ∧
    ∀ name, Location.Bare name →
      (∀ location, Location.relative location = name ↔
        ∃ tagged slashes, location = Location.spelling tagged slashes name) ∧
      ∀ tagged slashes,
        ((ofContents contents).get files (Location.spelling tagged slashes name)).content =
            ((ofContents contents).get files name).content ∧
          ∀ content location,
            (ofContents (contents ++ [(Location.spelling tagged slashes name, content)])).get files
                location =
              if Location.relative location = name then .memory location content
              else (ofContents contents).get files location := by
  refine ⟨get_ofContents files contents, ?_⟩
  intro name bare
  refine ⟨Location.relative_eq_iff name bare, ?_⟩
  intro tagged slashes
  have spelled := Location.relative_spelling name bare tagged slashes
  have own : Location.relative name = name := Location.relative_spelling name bare false 0
  constructor
  · rw [get_ofContents, get_ofContents, spelled, own]
    cases contents.reverse.find? _ <;> rfl
  · intro content location
    rw [get_ofContents_append, spelled]

/-- A second tag is part of the name, so what has it is left as it is. -/
theorem spellings_agree_tagged :
    Location.Bare "t" ∧
      ((ofContents [("classpath:/t", [1]), ("classpath:classpath:t", [2])]).get ⟨[], []⟩
        "///t").content = .memory [1] ∧
      ((ofContents [("classpath:/t", [1]), ("classpath:classpath:t", [2]), ("//t", [3])]).get
        ⟨[], []⟩ "classpath:t").content = .memory [3] ∧
      ((ofContents [("classpath:/t", [1]), ("classpath:classpath:t", [2]), ("//t", [3])]).get
        ⟨[], []⟩ "/classpath:t").content = .memory [2] := by
  have bare : Location.Bare "t" := by decide +kernel
  obtain ⟨_, named⟩ :=
    spellings_agree ⟨[], []⟩ [("classpath:/t", [1]), ("classpath:classpath:t", [2])]
  obtain ⟨_, spelled⟩ := named "t" bare
  have slashes : Location.spelling false 3 "t" = "///t" := by decide +kernel
  have inserted : Location.spelling false 2 "t" = "//t" := by decide +kernel
  have found := (spelled false 3).1
  have replaced := (spelled false 2).2 [3]
  rw [slashes] at found
  rw [inserted] at replaced
  refine ⟨bare, found.trans (by decide +kernel), ?_, ?_⟩
  · exact (congrArg Resource.content (replaced "classpath:t")).trans (by decide +kernel)
  · exact (congrArg Resource.content (replaced "/classpath:t")).trans (by decide +kernel)

end Loader

end Stencil
