import Stencil.Proofs.Json.Grammar

/-!
What is written is a spelling of what was to be written: every character of a string
(`spellsChar_escape`), and then strings, lists and objects whose parts are written so.
-/

namespace Stencil.Json

theorem value?_digit : ∀ n < 0x10, Hex.value? (Hex.digit n) = some n := by
  decide

theorem spellsChar_escape (c : Char) : SpellsChar c (escape c) := by
  unfold escape
  split
  · next quote =>
      subst quote
      exact .short (by decide)
  split
  · next slash =>
      subst slash
      exact .short (by decide)
  split
  · next back =>
      subst back
      exact .short (by decide)
  split
  · next feed =>
      subst feed
      exact .short (by decide)
  split
  · next line =>
      subst line
      exact .short (by decide)
  split
  · next carriage =>
      subst carriage
      exact .short (by decide)
  split
  · next tab =>
      subst tab
      exact .short (by decide)
  split
  · next control =>
      have single : Units.ofChar c = [UInt16.ofNat c.toNat] := if_pos (by omega)
      have unit : (UInt16.ofNat c.toNat).toNat = 0 * 0x1000 + 0 * 0x100 + c.toNat / 0x10 * 0x10 +
          c.toNat % 0x10 := by
        rw [UInt16.toNat_ofNat']
        omega
      have digits : SpellsUnit (UInt16.ofNat c.toNat)
          ['\\', 'u', '0', '0', Hex.digit (c.toNat / 0x10), Hex.digit (c.toNat % 0x10)] :=
        .digits (by decide) (by decide) (value?_digit _ (by omega)) (value?_digit _ (by omega)) unit
      have units : List.Forall₂ SpellsUnit (Units.ofChar c)
          [['\\', 'u', '0', '0', Hex.digit (c.toNat / 0x10), Hex.digit (c.toNat % 0x10)]] := by
        rw [single]
        exact .cons digits .nil
      exact .units units
  · next quote slash _ _ _ _ _ shown => exact .plain (Nat.not_lt.mp shown) quote slash

theorem spellsChars_write (chars : List Char) : SpellsChars chars (chars.flatMap escape) := by
  induction chars with
  | nil => exact .nil
  | cons c chars ih => exact .cons (spellsChar_escape c) ih

theorem spellsString_write (text : String) : SpellsString text (writeString text) :=
  .quoted (spellsChars_write text.toList)

theorem spaces_nil : Spaces [] := List.forall_mem_nil _

theorem spells_string (text : String) : Spells (.string text) (Json.string text).write :=
  .string (spellsString_write text)

/-- Items after the first, and the closing bracket. -/
theorem spellsItems_write (items : List Json) (each : ∀ item ∈ items, Spells item item.write) :
    ∃ text, SpellsItems false items text ∧ writeItems items = text ++ [']'] := by
  induction items with
  | nil => exact ⟨[], .nil spaces_nil, rfl⟩
  | cons item items ih =>
      obtain ⟨own, others⟩ := List.forall_mem_cons.mp each
      obtain ⟨rest, spelled, written⟩ := ih others
      refine ⟨_, .cons spaces_nil spaces_nil own spelled, ?_⟩
      rw [writeItems, written]
      simp [separator]

theorem spells_array (items : List Json) (each : ∀ item ∈ items, Spells item item.write) :
    Spells (.array items) (Json.array items).write := by
  cases items with
  | nil => exact .array (.nil spaces_nil)
  | cons item items =>
      obtain ⟨own, others⟩ := List.forall_mem_cons.mp each
      obtain ⟨rest, spelled, written⟩ := spellsItems_write items others
      have whole : Spells (.array (item :: items)) ('[' :: ((item.write ++ rest) ++ [']'])) :=
        .array (.cons spaces_nil spaces_nil own spelled)
      rw [write, written]
      simpa using whole

/-- Members after the first, and the closing brace. -/
theorem spellsMembers_write (members : List (String × Json))
    (each : ∀ member ∈ members, Spells member.2 member.2.write) :
    ∃ text, SpellsMembers false members text ∧ writeMembers members = text ++ ['\x7d'] := by
  induction members with
  | nil => exact ⟨[], .nil spaces_nil, rfl⟩
  | cons member members ih =>
      obtain ⟨name, value⟩ := member
      obtain ⟨own, others⟩ := List.forall_mem_cons.mp each
      obtain ⟨rest, spelled, written⟩ := ih others
      refine ⟨_, .cons spaces_nil spaces_nil (spellsString_write name) spaces_nil spaces_nil own
        spelled, ?_⟩
      rw [writeMembers, written]
      simp [separator]

theorem spells_object (members : List (String × Json))
    (each : ∀ member ∈ members, Spells member.2 member.2.write) :
    Spells (.object members) (Json.object members).write := by
  cases members with
  | nil => exact .object (.nil spaces_nil)
  | cons member members =>
      obtain ⟨name, value⟩ := member
      obtain ⟨own, others⟩ := List.forall_mem_cons.mp each
      obtain ⟨rest, spelled, written⟩ := spellsMembers_write members others
      have whole : Spells (.object ((name, value) :: members))
          ('\x7b' :: ((writeString name ++ ':' :: (value.write ++ rest)) ++ ['\x7d'])) :=
        .object (.cons spaces_nil spaces_nil (spellsString_write name) spaces_nil spaces_nil own
          spelled)
      rw [write, written]
      simpa using whole

theorem document_render (value : Json) (spelled : Spells value value.write) :
    Document value value.render.toList := by
  have whole : Document value ([] ++ (value.write ++ [])) := .around spaces_nil spelled spaces_nil
  unfold render
  rw [String.toList_ofList]
  rwa [List.nil_append, List.append_nil] at whole

end Stencil.Json
