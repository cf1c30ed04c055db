import Mathlib.Data.List.Basic
import Stencil.Files.System

/-!
Where paths lead. A name under a base is looked for where the base leads (`find_join`), because a path is
cut into names at its slashes (`splitOn_append`) and names are walked one after another (`walk_append`).
A walk along the names of a position leads to that position, if it leads anywhere (`walk_position`).
-/

namespace Stencil

/-! ### Cutting a text -/

namespace Text

variable (separator : Char)

theorem splitOn_ne_nil (text : List Char) : splitOn separator text ≠ [] := by
  cases text with
  | nil => exact List.cons_ne_nil _ _
  | cons c rest =>
      rw [splitOn]
      split
      · exact List.cons_ne_nil _ _
      · split <;> exact List.cons_ne_nil _ _

theorem splitOn_append (before after : List Char) :
    splitOn separator (before ++ separator :: after) =
      splitOn separator before ++ splitOn separator after := by
  induction before with
  | nil => simp [splitOn]
  | cons c rest ih =>
      rw [List.cons_append, splitOn, splitOn, ih]
      by_cases cut : c = separator
      · rw [if_pos cut, if_pos cut, List.cons_append]
      · rw [if_neg cut, if_neg cut]
        cases pieces : splitOn separator rest with
        | nil => exact absurd pieces (splitOn_ne_nil separator rest)
        | cons first others => rfl

theorem splitOn_whole (text : List Char) (whole : separator ∉ text) :
    splitOn separator text = [text] := by
  induction text with
  | nil => rfl
  | cons c rest ih =>
      rw [List.mem_cons, not_or] at whole
      rw [splitOn, if_neg (Ne.symm whole.1), ih whole.2]

theorem not_mem_piece (text piece : List Char) (member : piece ∈ splitOn separator text) :
    separator ∉ piece := by
  induction text generalizing piece with
  | nil =>
      rw [List.mem_singleton.mp member]
      exact List.not_mem_nil
  | cons c rest ih =>
      rw [splitOn] at member
      split at member
      · rcases List.mem_cons.mp member with first | later
        · rw [first]
          exact List.not_mem_nil
        · exact ih piece later
      · next uncut =>
          split at member
          · next none => exact absurd none (splitOn_ne_nil separator rest)
          · next first others pieces =>
              rw [pieces] at ih
              rcases List.mem_cons.mp member with now | later
              · rw [now, List.mem_cons, not_or]
                exact ⟨Ne.symm uncut, ih first List.mem_cons_self⟩
              · exact ih piece (List.mem_cons_of_mem first later)

end Text

/-! ### The names of a path -/

namespace Path

/-- The names of a path, without spare slashes. -/
def names (path : List Char) : List String :=
  ((Text.splitOn '/' path).filter (fun piece => !piece.isEmpty)).map String.ofList

/-- The names to walk through for a name under a base. Without a name it is the base itself, which then
has to be a directory. -/
def below (name : List Char) : List String :=
  if name = [] then ["."] else parts name

/-- A name is told apart from a path, and from the names that only move. -/
structure IsName (name : String) : Prop where
  filled : name ≠ ""
  whole : '/' ∉ name.toList
  notHere : name ≠ "."
  notAbove : name ≠ ".."

theorem names_append (before after : List Char) :
    names (before ++ '/' :: after) = names before ++ names after := by
  unfold names
  rw [Text.splitOn_append, List.filter_append, List.map_append]

theorem parts_eq (path : List Char) (filled : path ≠ []) :
    parts path =
      if (Text.splitOn '/' path).getLast? = some [] then names path ++ ["."] else names path := by
  unfold parts names
  rw [List.isEmpty_eq_false_iff.mpr filled]
  simp

theorem parts_slash (before name : List Char) :
    parts (before ++ '/' :: name) = names before ++ below name := by
  have filled : before ++ '/' :: name ≠ [] := by simp
  have last : (Text.splitOn '/' (before ++ '/' :: name)).getLast? =
      (Text.splitOn '/' name).getLast? := by
    rw [Text.splitOn_append, List.getLast?_append_of_ne_nil _ (Text.splitOn_ne_nil '/' name)]
  unfold below
  rw [parts_eq _ filled, last, names_append]
  cases name with
  | nil => simp [names, Text.splitOn]
  | cons c rest =>
      rw [if_neg (List.cons_ne_nil c rest), parts_eq _ (List.cons_ne_nil c rest)]
      split
      · exact List.append_assoc _ _ _
      · rfl

/-- Joining puts one slash between a base and a name. -/
theorem exists_joinChars (base name : List Char) (filled : base ≠ [])
    (relative : isAbsolute name = false) :
    ∃ front, joinChars base name = front ++ '/' :: name ∧ names front = names base := by
  unfold joinChars
  rw [relative, List.isEmpty_eq_false_iff.mpr filled]
  by_cases ended : base.getLast? = some '/'
  · obtain ⟨front, own⟩ := List.getLast?_eq_some_iff.mp ended
    refine ⟨front, ?_, ?_⟩
    · rw [own]
      simp
    · rw [own, names_append]
      exact (List.append_nil _).symm
  · exact ⟨base, by simp [ended], rfl⟩

theorem parts_joinChars (base name : List Char) (filled : base ≠ [])
    (relative : isAbsolute name = false) :
    parts (joinChars base name) = names base ++ below name := by
  obtain ⟨front, joined, same⟩ := exists_joinChars base name filled relative
  rw [joined, parts_slash, same]

theorem isAbsolute_joinChars (base name : List Char) (filled : base ≠ [])
    (relative : isAbsolute name = false) :
    isAbsolute (joinChars base name) = isAbsolute base := by
  cases base with
  | nil => exact absurd rfl filled
  | cons c rest =>
      unfold joinChars
      rw [relative]
      split
      · next blank => simp at blank
      · split <;> rfl

theorem mem_names (path : List Char) (name : String) (member : name ∈ names path) :
    name ≠ "" ∧ '/' ∉ name.toList := by
  obtain ⟨piece, kept, own⟩ := List.mem_map.mp member
  obtain ⟨inside, filled⟩ := List.mem_filter.mp kept
  rw [← own]
  refine ⟨?_, ?_⟩
  · intro blank
    rw [String.ofList_eq_empty_iff] at blank
    simp [blank] at filled
  · rw [String.toList_ofList]
    exact Text.not_mem_piece '/' path piece inside

theorem names_name (name : String) (filled : name ≠ "") (whole : '/' ∉ name.toList) :
    names name.toList = [name] := by
  unfold names
  rw [Text.splitOn_whole '/' name.toList whole]
  simp [filled]

theorem names_intercalate (position : List String)
    (named : ∀ name ∈ position, name ≠ "" ∧ '/' ∉ name.toList) :
    names (List.intercalate ['/'] (position.map String.toList)) = position := by
  induction position with
  | nil => rfl
  | cons name rest ih =>
      have later := ih fun other member => named other (List.mem_cons_of_mem name member)
      obtain ⟨filled, whole⟩ := named name List.mem_cons_self
      have first := names_name name filled whole
      cases rest with
      | nil =>
          rw [List.map_singleton, List.intercalate_singleton]
          exact first
      | cons second others =>
          rw [List.map_cons, List.intercalate_cons_of_ne_nil (by simp), List.append_assoc,
            List.singleton_append, names_append, first, later, List.singleton_append]

theorem mem_joinChars (base name : List Char) (filled : base ≠ [])
    (relative : isAbsolute name = false) (c : Char) (other : c ≠ '/') :
    c ∈ joinChars base name ↔ c ∈ base ∨ c ∈ name := by
  unfold joinChars
  rw [relative, List.isEmpty_eq_false_iff.mpr filled]
  by_cases ended : base.getLast? = some '/'
  · simp [ended]
  · simp [ended, other]

end Path

/-! ### Walking -/

namespace FileSystem

variable (files : FileSystem)

/-- Where the walk along a path starts. -/
def start (path : String) : List String :=
  if Path.isAbsolute path.toList then [] else files.current

theorem find_eq_ok_iff (path : String) (position : List String) :
    files.find path = .ok position ↔
      path ≠ "" ∧ '\u0000' ∉ path.toList ∧ path.utf8ByteSize < pathLimit ∧
        files.walk (files.start path) (Path.parts path.toList) = .ok position := by
  unfold find start
  dsimp only
  by_cases broken : '\u0000' ∈ path.toList
  · simp [broken]
  · by_cases blank : path = ""
    · simp [blank]
    · by_cases long : pathLimit ≤ path.utf8ByteSize
      · simp [broken, blank, long, Nat.not_lt_of_le long]
      · simp [broken, blank, long, Nat.lt_of_not_le long]

/-- A name under a base is walked to from where the base leads. -/
theorem find_join (base name : String) (filled : base ≠ "")
    (relative : Path.isAbsolute name.toList = false) (position : List String) :
    files.find (Path.join base name) = .ok position ↔
      ('\u0000' ∉ base.toList ∧ '\u0000' ∉ name.toList) ∧
        (Path.join base name).utf8ByteSize < pathLimit ∧
        files.walk (files.start base) (Path.names base.toList ++ Path.below name.toList) =
          .ok position := by
  have letters : base.toList ≠ [] := by simpa using filled
  have joined : (Path.join base name).toList = Path.joinChars base.toList name.toList :=
    String.toList_ofList
  have there : Path.join base name ≠ "" := by
    intro blank
    obtain ⟨front, split, _⟩ := Path.exists_joinChars base.toList name.toList letters relative
    rw [blank, split] at joined
    simp at joined
  rw [find_eq_ok_iff]
  unfold start
  rw [joined, Path.parts_joinChars _ _ letters relative, Path.isAbsolute_joinChars _ _ letters relative,
    Path.mem_joinChars _ _ letters relative '\u0000' (by decide), not_or]
  exact and_iff_right there

theorem walk_append (position first second : List String) :
    files.walk position (first ++ second) =
      match files.walk position first with
      | .ok next => files.walk next second
      | .error fault => .error fault := by
  induction first generalizing position with
  | nil => rfl
  | cons name names ih =>
      rw [List.cons_append, walk, walk]
      cases files.step position name with
      | error fault => rfl
      | ok next => exact ih next

theorem exists_of_walk_append (position first second last : List String)
    (walked : files.walk position (first ++ second) = .ok last) :
    ∃ next, files.walk position first = .ok next ∧ files.walk next second = .ok last := by
  rw [walk_append] at walked
  cases begun : files.walk position first with
  | error fault => simp only [begun, reduceCtorEq] at walked
  | ok next =>
      rw [begun] at walked
      exact ⟨next, rfl, walked⟩

/-- A step that can be made stays, goes up, or goes to the name. -/
theorem step_cases (position : List String) (name : String) (next : List String)
    (stepped : files.step position name = .ok next) :
    name = "." ∧ next = position ∨ name = ".." ∧ next = position.dropLast ∨
      name ≠ "." ∧ name ≠ ".." ∧ next = position ++ [name] := by
  unfold step at stepped
  split at stepped
  · split at stepped
    · next here => exact Or.inl ⟨here, (Except.ok.inj stepped).symm⟩
    · next notHere =>
        split at stepped
        · next above => exact Or.inr (Or.inl ⟨above, (Except.ok.inj stepped).symm⟩)
        · next notAbove =>
            split at stepped
            · cases stepped
            · split at stepped
              · exact Or.inr (Or.inr ⟨notHere, notAbove, (Except.ok.inj stepped).symm⟩)
              · cases stepped
  · cases stepped

/-! ### Positions -/

/-- Every part of a position is a name. -/
def Named (position : List String) : Prop :=
  ∀ name ∈ position, Path.IsName name

/-- The current directory is a position of names. -/
def Anchored : Prop :=
  Named files.current

theorem Named.step {position next : List String} (named : Named position) (name : String)
    (filled : name ≠ "") (whole : '/' ∉ name.toList)
    (stepped : files.step position name = .ok next) : Named next := by
  rcases files.step_cases position name next stepped with
    ⟨_, stays⟩ | ⟨_, up⟩ | ⟨notHere, notAbove, down⟩
  · rw [stays]
    exact named
  · rw [up]
    exact fun other member => named other (List.dropLast_subset position member)
  · rw [down]
    intro other member
    rcases List.mem_append.mp member with before | last
    · exact named other before
    · rw [List.mem_singleton.mp last]
      exact ⟨filled, whole, notHere, notAbove⟩

theorem Named.walk {position last : List String} (named : Named position) (path : List Char)
    (walked : files.walk position (Path.names path) = .ok last) : Named last := by
  have proper := Path.mem_names path
  generalize Path.names path = names at walked proper
  induction names generalizing position with
  | nil =>
      rw [← Except.ok.inj walked]
      exact named
  | cons name rest ih =>
      rw [FileSystem.walk] at walked
      cases stepped : files.step position name with
      | error fault => simp only [stepped, reduceCtorEq] at walked
      | ok next =>
          rw [stepped] at walked
          obtain ⟨filled, whole⟩ := proper name List.mem_cons_self
          exact ih (named.step files name filled whole stepped) walked
            fun other member => proper other (List.mem_cons_of_mem name member)

theorem Anchored.start (anchored : files.Anchored) (path : String) : Named (files.start path) := by
  unfold FileSystem.start
  split
  · exact fun name member => absurd member List.not_mem_nil
  · exact anchored

/-- A walk along names ends where they say, if it gets there. -/
theorem walk_position (position names last : List String) (named : Named names)
    (walked : files.walk position names = .ok last) : last = position ++ names := by
  induction names generalizing position with
  | nil =>
      rw [List.append_nil]
      exact (Except.ok.inj walked).symm
  | cons name rest ih =>
      rw [walk] at walked
      cases stepped : files.step position name with
      | error fault => simp only [stepped, reduceCtorEq] at walked
      | ok next =>
          rw [stepped] at walked
          have own := named name List.mem_cons_self
          have later := ih next (fun other member => named other (List.mem_cons_of_mem name member))
            walked
          rcases files.step_cases position name next stepped with ⟨here, _⟩ | ⟨above, _⟩ | ⟨_, _, down⟩
          · exact absurd here own.notHere
          · exact absurd above own.notAbove
          · rw [later, down, List.append_assoc, List.singleton_append]

/-- A walk that only looks whether there is a directory stays where it is. -/
theorem walk_here (position last : List String)
    (walked : files.walk position (Path.below []) = .ok last) : last = position := by
  have single : files.walk position ["."] = .ok last := walked
  rw [walk] at single
  cases stepped : files.step position "." with
  | error fault => simp only [stepped, reduceCtorEq] at single
  | ok next =>
      rw [stepped] at single
      rw [← Except.ok.inj single]
      rcases files.step_cases position "." next stepped with ⟨_, same⟩ | ⟨above, _⟩ | ⟨other, _⟩
      · exact same
      · exact absurd above (by decide)
      · exact absurd rfl other

theorem toList_pathOf (position : List String) :
    (pathOf position).toList = '/' :: List.intercalate ['/'] (position.map String.toList) := by
  unfold pathOf
  rw [String.toList_append, String.toList_intercalate]
  rfl

theorem names_pathOf (position : List String) (named : Named position) :
    Path.names (pathOf position).toList = position := by
  rw [toList_pathOf]
  refine (Path.names_append [] _).trans ?_
  rw [Path.names_intercalate position fun name member => ⟨(named name member).filled,
    (named name member).whole⟩]
  rfl

theorem exists?_eq_true_iff (path : String) :
    files.exists? path = true ↔
      ∃ position, files.find path = .ok position ∧ (files.node? position).isSome = true := by
  unfold exists? look
  cases files.find path with
  | error fault => simp
  | ok position =>
      cases held : files.node? position with
      | none => simp [held]
      | some node => simp [held]

end FileSystem

end Stencil
