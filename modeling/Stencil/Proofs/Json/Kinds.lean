import Stencil.Json.Record
import Stencil.Proofs.Json.Parts

/-!
Reading values of one kind. A reader decodes values by a meaning where it takes every spelling of a value
that has the meaning, whatever follows it, and refuses every spelling of one that has none
(`Reader.Decodes`). Strings, truth values, `null`, lists and names of variants are read so.
-/

namespace Stencil.Json

/-! ### Meanings of values -/

def text? : Json → Option String
  | .string value => some value
  | _ => none

def flag? : Json → Option Bool
  | .bool value => some value
  | _ => none

section

variable {α : Type}

/-- `null` means nothing, any other value what it means by itself. -/
def optional? (meaning : Json → Option α) : Json → Option (Option α)
  | .null => some none
  | value => (meaning value).map some

def list? (meaning : Json → Option α) : Json → Option (List α)
  | .array items => items.mapM meaning
  | _ => none

/-- A string that is the name of a variant. -/
def variant? (variants : List (String × α)) (value : Json) : Option α :=
  (text? value).bind fun name => variants.lookup name

/-- What is written for something is all that means it. -/
def Writes (meaning : Json → Option α) (write : α → Json) : Prop :=
  ∀ value result, meaning value = some result ↔ value = write result

end

theorem text?_writes : Writes text? .string := by
  intro value result
  cases value with
  | string value => simp [text?]
  | null | bool _ | number _ | array _ | object _ => simp [text?]

theorem flag?_writes : Writes flag? .bool := by
  intro value result
  cases value with
  | bool value => simp [flag?]
  | null | string _ | number _ | array _ | object _ => simp [flag?]

theorem mapM_eq_some_iff {α : Type} {meaning : Json → Option α} {write : α → Json}
    (writes : Writes meaning write) (items : List Json) (results : List α) :
    items.mapM meaning = some results ↔ items = results.map write := by
  induction items generalizing results with
  | nil => cases results <;> simp
  | cons item items ih =>
      rw [List.mapM_cons]
      constructor
      · intro means
        obtain ⟨result, own, means⟩ := Option.bind_eq_some_iff.mp means
        obtain ⟨others, behind, means⟩ := Option.bind_eq_some_iff.mp means
        cases means
        rw [(writes item result).mp own, (ih others).mp behind, List.map_cons]
      · intro written
        obtain ⟨result, others, rfl, own, behind⟩ := List.map_eq_cons_iff.mp written.symm
        rw [(writes item result).mpr own.symm, (ih others).mpr behind.symm]
        rfl

theorem list?_writes {α : Type} {meaning : Json → Option α} {write : α → Json}
    (writes : Writes meaning write) : Writes (list? meaning) fun results => .array (results.map write) := by
  intro value results
  cases value with
  | array items => simp [list?, mapM_eq_some_iff writes]
  | null | bool _ | string _ | number _ | object _ => simp [list?]

/-! ### What the first character tells -/

theorem eq_null_of_opens (value : Json) (opened : 'n' ∈ openings value) : value = .null := by
  cases value with
  | null => rfl
  | bool value => cases value <;> exact absurd opened (by decide)
  | string _ | number _ | array _ | object _ => exact absurd opened (by simp [openings, digits])

theorem text?_of_opens (value : Json) (opened : '\x22' ∈ openings value) : text? value ≠ none := by
  cases value with
  | string value => nofun
  | bool value => cases value <;> exact absurd opened (by decide)
  | null | number _ | array _ | object _ => exact absurd opened (by simp [openings, digits])

theorem flag?_of_opens (value : Json) (opened : 't' ∈ openings value ∨ 'f' ∈ openings value) :
    flag? value ≠ none := by
  cases value with
  | bool value => nofun
  | null | string _ | number _ | array _ | object _ =>
      exact absurd opened (by simp [openings, digits])

theorem eq_array_of_opens (value : Json) (opened : '[' ∈ openings value) :
    ∃ items, value = .array items := by
  cases value with
  | array items => exact ⟨items, rfl⟩
  | bool value => cases value <;> exact absurd opened (by decide)
  | null | string _ | number _ | object _ => exact absurd opened (by simp [openings, digits])

namespace Reader

variable {α : Type}

/-- Every spelling of the value is taken for the result, whatever follows it. -/
def Reads (reader : Reader α) (value : Json) (result : α) : Prop :=
  ∀ gap text tail, Spaces gap → Spells value text →
    reader (gap ++ (text ++ tail)) = .ok (result, tail)

/-- No spelling of the value is taken. -/
def Refuses (reader : Reader α) (value : Json) : Prop :=
  ∀ gap text tail, Spaces gap → Spells value text →
    ∃ fault, reader (gap ++ (text ++ tail)) = .error fault

/-- Values with a meaning are read as what they mean. -/
def Takes (reader : Reader α) (meaning : Json → Option α) : Prop :=
  ∀ value result, meaning value = some result → reader.Reads value result

/-- Values with a meaning are read as what they mean, and no others. -/
structure Decodes (reader : Reader α) (meaning : Json → Option α) : Prop where
  takes : reader.Takes meaning
  refuses : ∀ value, meaning value = none → reader.Refuses value

section

variable {β : Type} {reader : Reader α} {changed : Reader β} {meaning : Json → Option α} {put : α → β}

/-- A reader whose results are changed. -/
theorem takes_map (takes : reader.Takes meaning)
    (same : ∀ input, changed input =
      match reader input with
      | .ok (value, rest) => .ok (put value, rest)
      | .error fault => .error fault) :
    changed.Takes fun value => (meaning value).map put := by
  intro value result means gap text tail spaces spelled
  obtain ⟨own, given, rfl⟩ := Option.map_eq_some_iff.mp means
  rw [same, takes value own given gap text tail spaces spelled]

theorem decodes_map (decodes : reader.Decodes meaning)
    (same : ∀ input, changed input =
      match reader input with
      | .ok (value, rest) => .ok (put value, rest)
      | .error fault => .error fault) :
    changed.Decodes fun value => (meaning value).map put where
  takes := takes_map decodes.takes same
  refuses value none gap text tail spaces spelled := by
    obtain ⟨fault, refused⟩ := decodes.refuses value (Option.map_eq_none_iff.mp none) gap text tail
      spaces spelled
    exact ⟨fault, by rw [same, refused]⟩

end

/-! ### Strings and truth values -/

theorem string_decodes : Reader.string.Decodes text? where
  takes value result means gap text tail spaces spelled := by
    cases value with
    | string value =>
        cases means
        cases spelled with
        | string quoted =>
            obtain ⟨inner, rfl, read⟩ := stringBody_spelled quoted tail
            unfold string
            rw [List.cons_append, skipSpace_gap spaces _ _ (by decide)]
            exact read
    | null | bool _ | number _ | array _ | object _ => cases means
  refuses value means gap text tail spaces spelled := by
    obtain ⟨c, rest, opened, _, skipped⟩ := skipSpace_spelled spaces spelled tail
    have apart : c ≠ '\x22' := by
      rintro rfl
      exact text?_of_opens value opened means
    refine ⟨refuse "a string" (gap ++ (text ++ tail)), ?_⟩
    unfold string
    rw [skipped]
    split
    · next quote =>
        injection quote with same
        exact absurd same apart
    · rfl

theorem ident_append (letters rest : List Char) : ident letters (letters ++ rest) = .ok rest := by
  induction letters with
  | nil => rfl
  | cons c letters ih => rw [List.cons_append, ident, if_pos rfl, ih]

theorem literal_append (letters : String) (value : α) (rest : List Char) :
    literal letters value (letters.toList ++ rest) = .ok (value, rest) := by
  unfold literal
  rw [ident_append]

theorem boolean_decodes : Reader.boolean.Decodes flag? where
  takes value result means gap text tail spaces spelled := by
    cases value with
    | bool value =>
        cases means
        unfold boolean
        cases spelled with
        | yes =>
            rw [List.cons_append, skipSpace_gap spaces _ _ (by decide)]
            exact literal_append "rue" true tail
        | no =>
            rw [List.cons_append, skipSpace_gap spaces _ _ (by decide)]
            exact literal_append "alse" false tail
    | null | string _ | number _ | array _ | object _ => cases means
  refuses value means gap text tail spaces spelled := by
    obtain ⟨c, rest, opened, _, skipped⟩ := skipSpace_spelled spaces spelled tail
    have apart : c ≠ 't' ∧ c ≠ 'f' := by
      constructor
      · rintro rfl
        exact flag?_of_opens value (Or.inl opened) means
      · rintro rfl
        exact flag?_of_opens value (Or.inr opened) means
    refine ⟨refuse "a boolean" (gap ++ (text ++ tail)), ?_⟩
    unfold boolean
    rw [skipped]
    split
    · next letter =>
        injection letter with same
        exact absurd same apart.1
    · next letter =>
        injection letter with same
        exact absurd same apart.2
    · rfl

/-! ### Values that may be null -/

theorem optional?_eq (meaning : Json → Option α) (value : Json) (given : value ≠ .null) :
    optional? meaning value = (meaning value).map some := by
  cases value with
  | null => exact absurd rfl given
  | bool _ | string _ | number _ | array _ | object _ => rfl

theorem optional_null (reader : Reader α) : (optional reader).Reads .null none := by
  intro gap text tail spaces spelled
  cases spelled with
  | null =>
      unfold optional
      rw [List.cons_append, skipSpace_gap spaces _ _ (by decide)]
      exact literal_append "ull" none tail

theorem optional_eq (reader : Reader α) {value : Json} {gap text : List Char}
    (given : value ≠ .null) (spaces : Spaces gap) (spelled : Spells value text) (tail : List Char) :
    optional reader (gap ++ (text ++ tail)) =
      match reader ([] ++ (text ++ tail)) with
      | .ok (value, rest) => .ok (some value, rest)
      | .error fault => .error fault := by
  obtain ⟨c, rest, opened, whole, skipped⟩ := skipSpace_spelled spaces spelled tail
  have apart : c ≠ 'n' := by
    rintro rfl
    exact given (eq_null_of_opens value opened)
  unfold optional
  rw [skipped, List.nil_append, whole]
  split
  · next none => cases none
  · next letter =>
      injection letter with same
      exact absurd same apart
  · rfl

theorem optional_takes {reader : Reader α} {meaning : Json → Option α}
    (takes : reader.Takes meaning) : (optional reader).Takes (optional? meaning) := by
  intro value result means
  by_cases absent : value = .null
  · subst absent
    cases means
    exact optional_null reader
  · rw [optional?_eq meaning value absent, Option.map_eq_some_iff] at means
    obtain ⟨inner, own, rfl⟩ := means
    intro gap text tail spaces spelled
    rw [optional_eq reader absent spaces spelled,
      takes value inner own [] text tail (List.forall_mem_nil _) spelled]

theorem optional_decodes {reader : Reader α} {meaning : Json → Option α}
    (decodes : reader.Decodes meaning) : (optional reader).Decodes (optional? meaning) where
  takes := optional_takes decodes.takes
  refuses value means gap text tail spaces spelled := by
    have given : value ≠ .null := by
      rintro rfl
      cases means
    rw [optional?_eq meaning value given, Option.map_eq_none_iff] at means
    obtain ⟨fault, refused⟩ :=
      decodes.refuses value means [] text tail (List.forall_mem_nil _) spelled
    exact ⟨fault, by rw [optional_eq reader given spaces spelled, refused]⟩

/-! ### Lists -/

end Reader

theorem SpellsItems.length_le {first : Bool} {items : List Json} {text : List Char}
    (spelled : SpellsItems first items text) : items.length ≤ text.length := by
  induction items generalizing first text with
  | nil => exact Nat.zero_le _
  | cons item items ih =>
      cases spelled with
      | cons _ _ own others =>
          obtain ⟨c, rest, rfl, _⟩ := own.opens
          have behind := ih others
          simp only [List.length_append, List.length_cons]
          omega

/-- The fuel that a list is read with is enough. -/
theorem SpellsItems.length_lt {first : Bool} {items : List Json} {text : List Char}
    (spelled : SpellsItems first items text) (rest : List Char) :
    items.length < (text ++ rest).length + 1 := by
  have short := spelled.length_le
  rw [List.length_append]
  omega

namespace Reader

theorem listLoop_end {gap : List Char} (reader : Reader α) (spaces : Spaces gap) (fuel : Nat)
    (first : Bool) (held : List α) (tail : List Char) :
    listLoop reader (fuel + 1) first held (gap ++ ']' :: tail) =
      .ok (held.reverse, gap ++ ']' :: tail) := by
  rw [listLoop, nextItem_end spaces first tail]

theorem listLoop_item {gap lead text : List Char} {item : Json} (reader : Reader α)
    (spaces : Spaces gap) (leading : Spaces lead) (spelled : Spells item text) (fuel : Nat)
    (first : Bool) (held : List α) (rest : List Char) :
    listLoop reader (fuel + 1) first held
        (gap ++ (separator first ++ (lead ++ (text ++ rest)))) =
      match reader ([] ++ (text ++ rest)) with
      | .error fault => .error fault
      | .ok (result, rest) => listLoop reader fuel false (result :: held) rest := by
  rw [listLoop, nextItem_item spaces leading spelled first rest]
  rfl

/-- Items that all have a meaning are read up to the end of the list. -/
theorem listLoop_takes {reader : Reader α} {meaning : Json → Option α} (takes : reader.Takes meaning)
    (items : List Json) (results : List α) (fuel : Nat) (first : Bool) (held : List α)
    (text tail : List Char) (means : items.mapM meaning = some results)
    (spelled : SpellsItems first items text) (enough : items.length < fuel) :
    ∃ gap, Spaces gap ∧ listLoop reader fuel first held (text ++ ']' :: tail) =
      .ok (held.reverse ++ results, gap ++ ']' :: tail) := by
  induction items generalizing results fuel first held text with
  | nil =>
      obtain ⟨less, rfl⟩ := Nat.exists_eq_succ_of_ne_zero (Nat.ne_of_gt enough)
      rw [List.mapM_nil] at means
      cases means
      cases spelled with
      | nil spaces =>
          exact ⟨text, spaces, by rw [listLoop_end reader spaces, List.append_nil]⟩
  | cons item items ih =>
      obtain ⟨less, rfl⟩ := Nat.exists_eq_succ_of_ne_zero (Nat.ne_of_gt (Nat.zero_lt_of_lt enough))
      rw [List.mapM_cons] at means
      obtain ⟨result, own, means⟩ := Option.bind_eq_some_iff.mp means
      obtain ⟨others, behind, means⟩ := Option.bind_eq_some_iff.mp means
      cases means
      cases spelled with
      | @cons _ _ _ gap lead text rest spaces leading itemText restText =>
          have read := takes item result own [] text (rest ++ ']' :: tail) (List.forall_mem_nil _)
            itemText
          obtain ⟨last, lastSpaces, later⟩ :=
            ih others less false (result :: held) rest behind restText (Nat.lt_of_succ_lt_succ enough)
          refine ⟨last, lastSpaces, ?_⟩
          simp only [List.append_assoc]
          rw [listLoop_item reader spaces leading itemText, read]
          refine later.trans ?_
          rw [List.reverse_cons, List.append_assoc, List.singleton_append]

/-- The loop stops at an item that has no meaning. -/
theorem listLoop_refuses {reader : Reader α} {meaning : Json → Option α}
    (decodes : reader.Decodes meaning) (items : List Json) (fuel : Nat) (first : Bool) (held : List α)
    (text tail : List Char) (means : items.mapM meaning = none)
    (spelled : SpellsItems first items text) (enough : items.length < fuel) :
    ∃ fault, listLoop reader fuel first held (text ++ ']' :: tail) = .error fault := by
  induction items generalizing fuel first held text with
  | nil => cases means
  | cons item items ih =>
      obtain ⟨less, rfl⟩ := Nat.exists_eq_succ_of_ne_zero (Nat.ne_of_gt (Nat.zero_lt_of_lt enough))
      cases spelled with
      | @cons _ _ _ gap lead text rest spaces leading itemText restText =>
          simp only [List.append_assoc]
          rw [listLoop_item reader spaces leading itemText]
          cases own : meaning item with
          | none =>
              obtain ⟨fault, refused⟩ := decodes.refuses item own [] text (rest ++ ']' :: tail)
                (List.forall_mem_nil _) itemText
              exact ⟨fault, by rw [refused]⟩
          | some result =>
              have behind : items.mapM meaning = none := by
                cases whole : items.mapM meaning with
                | none => rfl
                | some results =>
                    rw [List.mapM_cons, own, whole] at means
                    cases means
              rw [decodes.takes item result own [] text (rest ++ ']' :: tail) (List.forall_mem_nil _)
                itemText]
              exact ih less false (result :: held) rest behind restText
                (Nat.lt_of_succ_lt_succ enough)

theorem list_bracket {gap : List Char} (reader : Reader α) (spaces : Spaces gap)
    (inner tail : List Char) :
    list reader (gap ++ ('[' :: (inner ++ [']']) ++ tail)) =
      match listLoop reader ((inner ++ ']' :: tail).length + 1) true [] (inner ++ ']' :: tail) with
      | .error fault => .error fault
      | .ok (items, rest) =>
          match closeList rest with
          | .ok rest => .ok (items, rest)
          | .error fault => .error fault := by
  unfold list
  rw [List.cons_append, skipSpace_gap spaces _ _ (by decide), List.append_assoc,
    List.singleton_append]
  rfl

theorem list_decodes {reader : Reader α} {meaning : Json → Option α}
    (decodes : reader.Decodes meaning) : (list reader).Decodes (list? meaning) where
  takes value results means gap text tail spaces spelled := by
    cases value with
    | array items =>
        cases spelled with
        | @array _ inner parts =>
            obtain ⟨last, lastSpaces, read⟩ :=
              listLoop_takes decodes.takes items results _ true [] inner tail means parts
                (parts.length_lt _)
            rw [list_bracket reader spaces, read]
            dsimp only
            rw [closeList_end lastSpaces]
            rfl
    | null | bool _ | number _ | string _ | object _ => cases means
  refuses value means gap text tail spaces spelled := by
    by_cases listed : ∃ items, value = .array items
    · obtain ⟨items, rfl⟩ := listed
      cases spelled with
      | @array _ inner parts =>
          obtain ⟨fault, refused⟩ :=
            listLoop_refuses decodes items _ true [] inner tail means parts (parts.length_lt _)
          exact ⟨fault, by rw [list_bracket reader spaces, refused]⟩
    · obtain ⟨c, rest, opened, _, skipped⟩ := skipSpace_spelled spaces spelled tail
      have apart : c ≠ '[' := by
        rintro rfl
        exact listed (eq_array_of_opens value opened)
      refine ⟨refuse "a sequence" (gap ++ (text ++ tail)), ?_⟩
      unfold list
      rw [skipped]
      split
      · next bracket =>
          injection bracket with same
          exact absurd same apart
      · rfl

/-! ### Variants -/

theorem choice_takes (variants : List (String × α)) :
    Reader.Takes (choice variants) (variant? variants) := by
  intro value result means gap text tail spaces spelled
  cases value with
  | string name =>
      cases spelled with
      | string quoted =>
          obtain ⟨inner, rfl, read⟩ := stringBody_spelled quoted tail
          have known : variants.lookup name = some result := means
          have body : variantBody variants (inner ++ tail) = .ok (result, tail) := by
            unfold variantBody variant
            rw [read]
            dsimp only
            rw [known]
          unfold choice
          rw [List.cons_append, skipSpace_gap spaces _ _ (by decide)]
          exact body
  | null | bool _ | number _ | array _ | object _ => cases means

end Reader

end Stencil.Json
