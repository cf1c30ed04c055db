import Stencil.Proofs.Json.Strings

/-!
Reading the parts of lists and objects. Spaces are passed over, the first character of a value tells its
kind (`Spells.opens`), and each function that reads what stands between two parts finds the next part
where the grammar has it.
-/

namespace Stencil.Json

/-! ### How values begin -/

/-- The characters that a value of this kind may begin with. -/
def openings : Json → List Char
  | .null => ['n']
  | .bool true => ['t']
  | .bool false => ['f']
  | .number _ => '-' :: digits
  | .string _ => ['\x22']
  | .array _ => ['[']
  | .object _ => ['\x7b']

theorem Numeral.opens {text : List Char} (numeral : Numeral text) :
    ∃ c rest, text = c :: rest ∧ c ∈ '-' :: digits := by
  cases numeral with
  | @parts sign whole fraction exponent signed wholeDigits _ _ _ =>
      obtain ⟨some, each⟩ := wholeDigits
      obtain ⟨c, rest, own⟩ := List.exists_cons_of_ne_nil some
      rcases signed with rfl | rfl
      · refine ⟨c, rest ++ (fraction ++ exponent), by rw [own]; rfl, ?_⟩
        exact List.mem_cons_of_mem _ (each c (own ▸ List.mem_cons_self))
      · exact ⟨'-', whole ++ (fraction ++ exponent), rfl, List.mem_cons_self⟩

theorem Spells.opens {value : Json} {text : List Char} (spelled : Spells value text) :
    ∃ c rest, text = c :: rest ∧ c ∈ openings value := by
  cases spelled with
  | null | yes | no | array _ | object _ => exact ⟨_, _, rfl, List.mem_cons_self⟩
  | number numeral => exact numeral.opens
  | string quoted =>
      obtain ⟨inner, whole, _⟩ := Reader.stringBody_spelled quoted []
      exact ⟨_, inner, whole, List.mem_cons_self⟩

/-- No value begins with a space or with a character that ends a part. -/
theorem openings_apart (value : Json) :
    ∀ c ∈ openings value, c ∉ [' ', '\n', '\t', '\r', ']', '\x7d'] := by
  unfold openings
  split <;> simp [digits]

namespace Reader

/-! ### Spaces -/

theorem isSpace_iff (c : Char) : isSpace c = true ↔ c ∈ [' ', '\n', '\t', '\r'] := by
  simp [isSpace, or_assoc]

theorem skipSpace_spaces {gap : List Char} (spaces : Spaces gap) (rest : List Char) :
    skipSpace (gap ++ rest) = skipSpace rest := by
  unfold skipSpace
  refine List.dropWhile_append_of_pos ?_
  intro c member
  exact (isSpace_iff c).mpr (spaces c member)

theorem skipSpace_visible (c : Char) (rest : List Char) (visible : c ∉ [' ', '\n', '\t', '\r']) :
    skipSpace (c :: rest) = c :: rest :=
  List.dropWhile_cons_of_neg fun space => visible ((isSpace_iff c).mp space)

theorem skipSpace_gap {gap : List Char} (spaces : Spaces gap) (c : Char) (rest : List Char)
    (visible : c ∉ [' ', '\n', '\t', '\r']) : skipSpace (gap ++ c :: rest) = c :: rest := by
  rw [skipSpace_spaces spaces, skipSpace_visible c rest visible]

/-- Behind the spaces stands the value, and its first character tells its kind. -/
theorem skipSpace_spelled {gap text : List Char} {value : Json} (spaces : Spaces gap)
    (spelled : Spells value text) (tail : List Char) :
    ∃ c rest, c ∈ openings value ∧ text ++ tail = c :: rest ∧
      skipSpace (gap ++ (text ++ tail)) = c :: rest := by
  obtain ⟨c, rest, rfl, opened⟩ := spelled.opens
  refine ⟨c, rest ++ tail, opened, rfl, ?_⟩
  refine skipSpace_gap spaces c (rest ++ tail) ?_
  intro space
  exact openings_apart value c opened (List.mem_append_left [']', '\x7d'] space)

/-! ### Between the parts -/

variable {gap : List Char}

theorem nextItem_end (spaces : Spaces gap) (first : Bool) (tail : List Char) :
    nextItem first (gap ++ ']' :: tail) = .ok none := by
  unfold nextItem
  rw [skipSpace_gap spaces _ _ (by decide)]
  rfl

theorem nextItem_comma (input rest : List Char) (comma : skipSpace input = ',' :: rest) :
    nextItem false input =
      match skipSpace rest with
      | ']' :: tail => .error (.next .trailingComma (']' :: tail))
      | [] => .error (.next .endInValue [])
      | rest => .ok (some rest) := by
  unfold nextItem
  rw [comma]
  rfl

theorem nextItem_item {lead text : List Char} {item : Json} (spaces : Spaces gap)
    (leading : Spaces lead) (spelled : Spells item text) (first : Bool) (rest : List Char) :
    nextItem first (gap ++ (separator first ++ (lead ++ (text ++ rest)))) =
      .ok (some (text ++ rest)) := by
  cases first with
  | true =>
      have both : Spaces (gap ++ lead) := List.forall_mem_append.mpr ⟨spaces, leading⟩
      obtain ⟨c, behind, opened, whole, skipped⟩ := skipSpace_spelled both spelled rest
      have apart : c ≠ ']' := by
        rintro rfl
        exact openings_apart item ']' opened (by decide)
      rw [List.append_assoc] at skipped
      unfold nextItem separator
      rw [if_pos rfl, List.nil_append, skipped, whole]
      split
      · next none => cases none
      · next closed =>
          injection closed with same
          exact absurd same apart
      · next shown =>
          rw [← shown]
          rfl
  | false =>
      obtain ⟨c, behind, opened, whole, skipped⟩ := skipSpace_spelled leading spelled rest
      have apart : c ≠ ']' := by
        rintro rfl
        exact openings_apart item ']' opened (by decide)
      have after := nextItem_comma _ _
        (skipSpace_gap spaces ',' (lead ++ (text ++ rest)) (by decide))
      rw [skipped] at after
      unfold separator
      rw [if_neg Bool.false_ne_true, List.singleton_append, after, whole]
      split
      · next closed =>
          injection closed with same
          exact absurd same apart
      · next none => cases none
      · rfl

theorem closeList_end (spaces : Spaces gap) (tail : List Char) :
    closeList (gap ++ ']' :: tail) = .ok tail := by
  unfold closeList
  rw [skipSpace_gap spaces _ _ (by decide)]
  rfl

theorem nextName_end (spaces : Spaces gap) (first : Bool) (tail : List Char) :
    nextName first (gap ++ '\x7d' :: tail) = .ok none := by
  unfold nextName
  rw [skipSpace_gap spaces _ _ (by decide)]
  rfl

theorem nextName_quote (input inner : List Char) (named : String × List Char)
    (quote : skipSpace input = '\x22' :: inner) (read : stringBody inner = .ok named) :
    nextName true input = .ok (some named) := by
  simp [nextName, quote, read]

theorem nextName_comma (input rest inner : List Char) (named : String × List Char)
    (comma : skipSpace input = ',' :: rest) (quote : skipSpace rest = '\x22' :: inner)
    (read : stringBody inner = .ok named) : nextName false input = .ok (some named) := by
  simp [nextName, comma, quote, read]

theorem nextName_member {lead label : List Char} {name : String} (spaces : Spaces gap)
    (leading : Spaces lead) (spelled : SpellsString name label) (first : Bool) (rest : List Char) :
    nextName first (gap ++ (separator first ++ (lead ++ (label ++ rest)))) =
      .ok (some (name, rest)) := by
  obtain ⟨inner, rfl, read⟩ := stringBody_spelled spelled rest
  cases first with
  | true =>
      have both : Spaces (gap ++ lead) := List.forall_mem_append.mpr ⟨spaces, leading⟩
      have quote := skipSpace_gap both '\x22' (inner ++ rest) (by decide)
      rw [List.append_assoc] at quote
      exact nextName_quote _ _ _ quote read
  | false =>
      have comma := skipSpace_gap spaces ',' (lead ++ '\x22' :: (inner ++ rest)) (by decide)
      have quote := skipSpace_gap leading '\x22' (inner ++ rest) (by decide)
      exact nextName_comma _ _ _ _ comma quote read

theorem colon_end (spaces : Spaces gap) (rest : List Char) :
    colon (gap ++ ':' :: rest) = .ok rest := by
  unfold colon
  rw [skipSpace_gap spaces _ _ (by decide)]
  rfl

theorem closeObject_end (spaces : Spaces gap) (tail : List Char) :
    closeObject (gap ++ '\x7d' :: tail) = .ok tail := by
  unfold closeObject
  rw [skipSpace_gap spaces _ _ (by decide)]
  rfl

end Reader

end Stencil.Json
