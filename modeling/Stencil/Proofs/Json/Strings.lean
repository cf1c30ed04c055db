import Stencil.Json.Reader
import Stencil.Proofs.Json.Grammar
import Stencil.Proofs.Text.Units

/-!
Reading strings. However a character is spelled, the loop takes its spelling off the front and keeps the
character (`stringLoop_char`), so a string is read from any of its spellings, whatever follows it
(`stringBody_spelled`).
-/

namespace Stencil.Json

namespace Reader

/-! ### Escapes -/

theorem hexEscape_unit {unit : UInt16} {text : List Char} (spelled : SpellsUnit unit text)
    (rest : List Char) : ∃ digits, text = '\\' :: 'u' :: digits ∧
      hexEscape (digits ++ rest) = .ok (unit.toNat, rest) := by
  cases spelled with
  | @digits a b c d _ _ _ _ one two three four whole =>
      refine ⟨[a, b, c, d], rfl, ?_⟩
      simp only [List.cons_append, List.nil_append, hexEscape, one, two, three, four, whole]

theorem escaped_hex (unit : Nat) (input rest : List Char)
    (read : hexEscape input = .ok (unit, rest)) :
    escaped ('u' :: input) =
      if 0xDC00 ≤ unit ∧ unit ≤ 0xDFFF then .error (.here .loneHalf rest)
      else if 0xD800 ≤ unit ∧ unit ≤ 0xDBFF then secondHalf unit rest
      else .ok (Char.ofNat unit, rest) := by
  simp only [escaped, read]

theorem secondHalf_hex (high low : Nat) (input rest : List Char)
    (read : hexEscape input = .ok (low, rest)) (half : 0xDC00 ≤ low ∧ low ≤ 0xDFFF) :
    secondHalf high ('\\' :: 'u' :: input) =
      .ok (Char.ofNat (0x10000 + (high - 0xD800) * 0x400 + (low - 0xDC00)), rest) := by
  simp only [secondHalf, read, if_pos half]

theorem escaped_short {letter c : Char} (known : (letter, c) ∈ shortEscapes) (rest : List Char) :
    escaped (letter :: rest) = .ok (c, rest) := by
  simp only [shortEscapes, List.mem_cons, Prod.mk.injEq, List.not_mem_nil, or_false] at known
  rcases known with ⟨rfl, rfl⟩ | ⟨rfl, rfl⟩ | ⟨rfl, rfl⟩ | ⟨rfl, rfl⟩ | ⟨rfl, rfl⟩ | ⟨rfl, rfl⟩ |
    ⟨rfl, rfl⟩ | ⟨rfl, rfl⟩ <;> rfl

/-- The code units of a character, one or a pair of them, are read as the character. -/
theorem escaped_units {c : Char} {texts : List (List Char)}
    (spelled : List.Forall₂ SpellsUnit (Units.ofChar c) texts) (rest : List Char) :
    ∃ behind, texts.flatten = '\\' :: behind ∧ escaped (behind ++ rest) = .ok (c, rest) := by
  have valid := Utf8.toNat_valid c
  have whole : Char.ofNat c.toNat = c := Char.ofNat_toNat c
  unfold Units.ofChar at spelled
  generalize c.toNat = n at valid whole spelled
  by_cases single : n < 0x10000
  · rw [if_pos single] at spelled
    obtain ⟨text, _, first, none, rfl⟩ := List.forall₂_cons_left_iff.mp spelled
    rw [List.forall₂_nil_left_iff.mp none, List.flatten_cons, List.flatten_nil, List.append_nil]
    obtain ⟨digits, rfl, read⟩ := hexEscape_unit first rest
    rw [Units.toNat_unit n single] at read
    refine ⟨_, rfl, ?_⟩
    rw [List.cons_append, escaped_hex _ _ _ read, if_neg (by omega), if_neg (by omega), whole]
  · rw [if_neg single] at spelled
    obtain ⟨text, _, first, others, rfl⟩ := List.forall₂_cons_left_iff.mp spelled
    obtain ⟨next, _, second, none, rfl⟩ := List.forall₂_cons_left_iff.mp others
    rw [List.forall₂_nil_left_iff.mp none, List.flatten_cons, List.flatten_cons, List.flatten_nil,
      List.append_nil]
    obtain ⟨lowDigits, rfl, readLow⟩ := hexEscape_unit second rest
    obtain ⟨highDigits, rfl, readHigh⟩ := hexEscape_unit first ('\\' :: 'u' :: (lowDigits ++ rest))
    rw [Units.toNat_unit _ (by omega)] at readLow readHigh
    -- The two halves are put together to the number that they were cut from.
    have sum : 0x10000 + (0xD800 + (n - 0x10000) / 0x400 - 0xD800) * 0x400 +
        (0xDC00 + (n - 0x10000) % 0x400 - 0xDC00) = n := by omega
    refine ⟨'u' :: (highDigits ++ '\\' :: 'u' :: lowDigits), rfl, ?_⟩
    rw [List.cons_append, List.append_assoc, List.cons_append, List.cons_append,
      escaped_hex _ _ _ readHigh, if_neg (by omega), if_pos (by omega),
      secondHalf_hex _ _ _ _ readLow (by omega), sum, whole]

/-! ### Strings -/

theorem stringLoop_escape (fuel : Nat) (held : List Char) (c : Char) (input rest : List Char)
    (read : escaped input = .ok (c, rest)) :
    stringLoop (fuel + 1) held ('\\' :: input) = stringLoop fuel (c :: held) rest := by
  simp only [stringLoop, read]

theorem stringLoop_plain (fuel : Nat) (held : List Char) (c : Char) (rest : List Char)
    (shown : 0x20 ≤ c.toNat) (quote : c ≠ '\x22') (slash : c ≠ '\\') :
    stringLoop (fuel + 1) held (c :: rest) = stringLoop fuel (c :: held) rest := by
  rw [stringLoop]
  · rw [if_neg (Nat.not_lt.mpr shown)]
  · exact quote
  · exact slash

theorem stringLoop_char {c : Char} {text : List Char} (spelled : SpellsChar c text) (fuel : Nat)
    (held rest : List Char) :
    stringLoop (fuel + 1) held (text ++ rest) = stringLoop fuel (c :: held) rest := by
  cases spelled with
  | plain shown quote slash => exact stringLoop_plain fuel held c rest shown quote slash
  | short known => exact stringLoop_escape fuel held c _ rest (escaped_short known rest)
  | units each =>
      obtain ⟨behind, whole, read⟩ := escaped_units each rest
      rw [whole, List.cons_append]
      exact stringLoop_escape fuel held c _ rest read

theorem stringLoop_chars {chars text : List Char} (spelled : SpellsChars chars text) (fuel : Nat)
    (held tail : List Char) (enough : chars.length < fuel) :
    stringLoop fuel held (text ++ '\x22' :: tail) =
      .ok (String.ofList (held.reverse ++ chars), tail) := by
  induction spelled generalizing fuel held with
  | nil =>
      obtain ⟨less, rfl⟩ := Nat.exists_eq_succ_of_ne_zero (Nat.ne_of_gt enough)
      rw [List.nil_append, stringLoop, List.append_nil]
  | @cons c chars text rest first _ ih =>
      obtain ⟨less, rfl⟩ := Nat.exists_eq_succ_of_ne_zero (Nat.ne_of_gt (Nat.zero_lt_of_lt enough))
      rw [List.append_assoc, stringLoop_char first, ih less (c :: held) (Nat.lt_of_succ_lt_succ enough),
        List.reverse_cons, List.append_assoc, List.singleton_append]

end Reader

theorem SpellsChar.length_pos {c : Char} {text : List Char} (spelled : SpellsChar c text) :
    0 < text.length := by
  cases spelled with
  | plain _ _ _ | short _ => exact Nat.zero_lt_succ _
  | units each =>
      obtain ⟨behind, whole, _⟩ := Reader.escaped_units each []
      rw [whole]
      exact Nat.zero_lt_succ _

theorem SpellsChars.length_le {chars text : List Char} (spelled : SpellsChars chars text) :
    chars.length ≤ text.length := by
  induction spelled with
  | nil => exact Nat.le_refl 0
  | cons first _ ih =>
      have some := first.length_pos
      rw [List.length_cons, List.length_append]
      omega

/-- A string is read from any of its spellings, up to its closing quote. -/
theorem Reader.stringBody_spelled {value : String} {text : List Char}
    (spelled : SpellsString value text) (tail : List Char) :
    ∃ inner, text = '\x22' :: inner ∧ stringBody (inner ++ tail) = .ok (value, tail) := by
  cases spelled with
  | @quoted inner chars =>
      refine ⟨_, rfl, ?_⟩
      have enough : value.toList.length < (inner ++ '\x22' :: tail).length + 1 := by
        have short := chars.length_le
        rw [List.length_append]
        omega
      unfold stringBody
      rw [List.append_assoc, List.singleton_append, stringLoop_chars chars _ [] tail enough,
        List.reverse_nil, List.nil_append, String.ofList_toList]

end Stencil.Json
