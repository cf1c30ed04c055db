import Stencil.Charset.Coding
import Stencil.Proofs.Charset.CodePage
import Stencil.Proofs.Text.Utf8

/-!
Octets that a text was written in, read again. Without byte order marks (`decodeUnmarked_encode`) each
character comes back, or its reference where the charset lacks it. A text that happens to be written as
a byte order mark does not come back, as the mark decides how it is read (`decode_encode_iff`).
-/

namespace Stencil

namespace Units

theorem ofBytes_length (bigEndian : Bool) (octets : Bytes) :
    2 * (ofBytes bigEndian octets).1.length + (ofBytes bigEndian octets).2.toNat = octets.length := by
  fun_induction ofBytes bigEndian octets with
  | case1 => rfl
  | case2 => rfl
  | case3 first second rest high low next ih =>
      change 2 * next.1.length + next.2.toNat = rest.length at ih
      simp only [List.length_cons]
      omega

theorem scan_length (units : Units) : (scan units).length ≤ units.length := by
  fun_induction scan units with
  | case1 => exact Nat.le_refl 0
  | case2 | case3 => exact Nat.le_refl 1
  | case4 _ _ _ _ _ ih => exact Nat.le_succ_of_le (Nat.succ_le_succ ih)
  | case5 _ _ _ _ _ ih | case6 _ _ _ _ _ ih | case7 _ _ _ _ _ ih => exact Nat.succ_le_succ ih

theorem decodeBytes_length (bigEndian : Bool) (octets : Bytes) :
    (decodeBytes bigEndian octets).length ≤ octets.length := by
  have pairs := ofBytes_length bigEndian octets
  have read := scan_length (ofBytes bigEndian octets).1
  unfold decodeBytes toCharsLossy
  rcases paired : ofBytes bigEndian octets with ⟨units, odd⟩
  rw [paired] at pairs read
  dsimp only at pairs read ⊢
  cases odd with
  | false =>
      rw [Bool.false_and, if_neg Bool.false_ne_true, List.length_map]
      omega
  | true =>
      rw [Bool.toNat_true] at pairs
      split
      · rw [List.length_append, List.length_map, List.length_singleton]
        omega
      · rw [List.length_map]
        omega

end Units

namespace Charset

/-! ### What a charset has -/

/-- The charsets that are UTF-8, are only read and so written as UTF-8, or have one octet for each
character. -/
inductive Simple : Charset → Prop where
  | utf8 : Simple .utf8
  | utf16le : Simple .utf16le
  | utf16be : Simple .utf16be
  | replacement : Simple .replacement
  | userDefined : Simple .userDefined
  | page (codes : CodePage) : Simple (.page codes)

/-- Whether a character can be told in a charset. -/
def Has : Charset → Char → Prop
  | .utf8, _ => True
  | .userDefined, c => ∃ octet, decodeUserDefined octet = c
  | .page codes, c => ∃ octet, codes.decodeOctet octet = some c
  | charset, c => (charset.encodeChar? c).isSome = true

theorem decodeUserDefined_low (octet : UInt8) (low : octet.toNat < 0x80) :
    decodeUserDefined octet = Char.ofNat octet.toNat := by
  unfold decodeUserDefined
  rw [if_pos low]

theorem encodeChar?_userDefined (c : Char) (octets : Bytes)
    (written : encodeChar? .userDefined c = some octets) :
    ∃ octet, octets = [octet] ∧ decodeUserDefined octet = c := by
  unfold encodeChar? at written
  dsimp only at written
  by_cases own : 0xF780 ≤ c.toNat ∧ c.toNat ≤ 0xF7FF
  · rw [if_pos own] at written
    have value : (UInt8.ofNat (c.toNat - 0xF780 + 0x80)).toNat = c.toNat - 0xF780 + 0x80 :=
      Utf8.toNat_octet _ (by omega)
    refine ⟨_, (Option.some.inj written).symm, ?_⟩
    unfold decodeUserDefined
    rw [value, if_neg (by omega), Nat.add_sub_cancel]
    have sum : 0xF780 + (c.toNat - 0xF780) = c.toNat := by omega
    rw [sum, Char.ofNat_toNat]
  · rw [if_neg own] at written
    unfold asciiOctet? at written
    by_cases ascii : c.toNat < 0x80
    · rw [if_pos ascii] at written
      have value := Utf8.toNat_octet c.toNat (by omega)
      refine ⟨_, (Option.some.inj written).symm, ?_⟩
      rw [decodeUserDefined_low _ (by omega), value, Char.ofNat_toNat]
    · rw [if_neg ascii] at written
      cases written

theorem has_iff (charset : Charset) (c : Char) :
    charset.Has c ↔ (charset.encodeChar? c).isSome = true := by
  cases charset with
  | page codes =>
      unfold Has encodeChar?
      rw [Option.isSome_map]
      exact (codes.isSome_encodeChar c).symm
  | userDefined =>
      constructor
      · rintro ⟨octet, rfl⟩
        have bound := octet.toNat_lt
        unfold decodeUserDefined encodeChar? asciiOctet?
        dsimp only
        split
        · next low =>
            have value := CodePage.toNat_ofNat octet.toNat (Or.inl (by omega))
            rw [value, if_neg (by omega), if_pos low]
            rfl
        · next high =>
            have value := CodePage.toNat_ofNat (0xF780 + (octet.toNat - 0x80))
              (Or.inr ⟨by omega, by omega⟩)
            rw [value, if_pos ⟨by omega, by omega⟩]
            rfl
      · intro written
        obtain ⟨octets, some⟩ := Option.isSome_iff_exists.mp written
        obtain ⟨octet, _, same⟩ := encodeChar?_userDefined c octets some
        exact ⟨octet, same⟩
  | utf8 => exact iff_of_true trivial rfl
  | _ => exact Iff.rfl

instance (charset : Charset) (c : Char) : Decidable (charset.Has c) :=
  decidable_of_iff _ (charset.has_iff c).symm

/-- A text with a decimal reference for each character that a charset lacks. -/
def shown (charset : Charset) (text : List Char) : List Char :=
  text.flatMap (fun c => if charset.Has c then [c] else reference c)

/-! ### Reading what was written -/

theorem reference_ascii (c d : Char) (member : d ∈ reference c) : d.toNat < 0x80 := by
  unfold reference at member
  rw [List.mem_append, List.mem_cons, List.mem_cons, List.mem_singleton] at member
  rcases member with (rfl | rfl | digit) | rfl
  · decide
  · decide
  · have shape := Nat.isDigit_of_mem_toDigits (by decide) (by decide) digit
    unfold Char.isDigit at shape
    simp only [Bool.and_eq_true, decide_eq_true_eq, ge_iff_le, UInt32.le_iff_toNat_le] at shape
    exact Nat.lt_of_le_of_lt shape.2 (by decide)
  · decide

/-- A character is written as the charset has it, or as its reference. -/
theorem encodeChar_cases (charset : Charset) (c : Char) :
    (∃ octets, charset.encodeChar? c = some octets ∧ charset.Has c ∧ charset.encodeChar c = octets) ∨
      (¬ charset.Has c ∧ charset.encodeChar c = Utf8.encode (reference c)) := by
  unfold encodeChar
  rw [has_iff]
  cases written : charset.encodeChar? c with
  | some octets => exact Or.inl ⟨octets, rfl, rfl, rfl⟩
  | none => exact Or.inr ⟨Bool.false_ne_true, rfl⟩

/-- How a charset reads that has one octet for each character. -/
structure OneOctet (charset : Charset) (read : UInt8 → Char) : Prop where
  reads : ∀ octets, charset.decodeUnmarked octets = octets.map read
  ascii : ∀ octet, octet.toNat < 0x80 → read octet = Char.ofNat octet.toNat
  writes : ∀ c octets, charset.encodeChar? c = some octets → ∃ octet, octets = [octet] ∧ read octet = c

theorem oneOctet_page (codes : CodePage) :
    OneOctet (.page codes) (fun octet => (codes.decodeOctet octet).getD '\uFFFD') where
  reads _ := rfl
  ascii octet low := by rw [codes.decodeOctet_low octet low, Option.getD_some]
  writes c octets written := by
    obtain ⟨octet, own, same⟩ := Option.map_eq_some_iff.mp written
    exact ⟨octet, same.symm, by rw [codes.decodeOctet_encodeChar c octet own, Option.getD_some]⟩

theorem oneOctet_userDefined : OneOctet .userDefined decodeUserDefined where
  reads _ := rfl
  ascii := decodeUserDefined_low
  writes := encodeChar?_userDefined

namespace OneOctet

variable {charset : Charset} {read : UInt8 → Char} (single : charset.OneOctet read)

include single

theorem read_ascii (text : List Char) (ascii : ∀ c ∈ text, c.toNat < 0x80) :
    (Utf8.encode text).map read = text := by
  induction text with
  | nil => rfl
  | cons c rest ih =>
      have small := ascii c List.mem_cons_self
      have value := Utf8.toNat_octet c.toNat (by omega)
      rw [Utf8.encode_cons_ascii c rest small, List.map_cons,
        ih (fun d member => ascii d (List.mem_cons_of_mem c member)), single.ascii _ (by omega),
        value, Char.ofNat_toNat]

theorem read_encodeChar (c : Char) :
    (charset.encodeChar c).map read = if charset.Has c then [c] else reference c := by
  obtain ⟨octets, written, has, own⟩ | ⟨lacks, shown⟩ := charset.encodeChar_cases c
  · obtain ⟨octet, rfl, same⟩ := single.writes c octets written
    rw [own, if_pos has, List.map_singleton, same]
  · rw [shown, if_neg lacks]
    exact single.read_ascii (reference c) (reference_ascii c)

theorem read_encode (text : List Char) :
    (text.flatMap charset.encodeChar).map read = charset.shown text := by
  unfold shown
  rw [List.map_flatMap]
  exact congrArg (fun told => text.flatMap told) (funext single.read_encodeChar)

end OneOctet

theorem encode_utf8 (charset : Charset) (unicode : charset.output = .utf8) (text : List Char) :
    charset.encode text = Utf8.encode text := by
  unfold encode
  rw [unicode]
  rfl

theorem shown_utf8 (text : List Char) : shown .utf8 text = text := by
  have whole : (fun c => if Has .utf8 c then [c] else reference c) = fun c => [c] :=
    funext fun _ => if_pos trivial
  unfold shown
  rw [whole, List.flatMap_singleton']

/-- Without regard to byte order marks, every text is read as it is shown. -/
theorem decodeUnmarked_encode {charset : Charset} (simple : charset.Simple) (text : List Char) :
    charset.output.decodeUnmarked (charset.encode text) = charset.output.shown text := by
  have unicode : decodeUnmarked .utf8 (Utf8.encode text) = shown .utf8 text := by
    rw [shown_utf8]
    exact Utf8.decodeLossy_encode text
  cases simple with
  | utf8 | utf16le | utf16be | replacement => exact unicode
  | userDefined => exact oneOctet_userDefined.read_encode text
  | page codes => exact (oneOctet_page codes).read_encode text

/-! ### Byte order marks -/

theorem sniff_length (octets rest : Bytes) (marked : Charset)
    (told : sniff octets = some (marked, rest)) :
    (marked.decodeUnmarked rest).length < octets.length := by
  unfold sniff at told
  split at told
  · cases told
    have bound := Utf8.decodeLossy_length rest
    simp only [List.length_cons, decodeUnmarked]
    omega
  · cases told
    have bound := Units.decodeBytes_length false rest
    simp only [List.length_cons, decodeUnmarked]
    omega
  · cases told
    have bound := Units.decodeBytes_length true rest
    simp only [List.length_cons, decodeUnmarked]
    omega
  · cases told

/-- In UTF-8 there is a mark where the text starts with U+FEFF. -/
theorem sniff_utf8 (text : List Char) (rest : Bytes) (marked : Charset)
    (told : sniff (Utf8.encode text) = some (marked, rest)) :
    ∃ tail, text = '\uFEFF' :: tail ∧ marked = .utf8 ∧ rest = Utf8.encode tail := by
  have read := Utf8.scan_encode text
  unfold sniff at told
  split at told
  · next after octets =>
      cases told
      have front : (0xEF :: 0xBB :: 0xBF :: rest : Bytes) = Utf8.encodeChar '\uFEFF' ++ rest := rfl
      rw [octets, front, Utf8.scan_encodeChar] at read
      cases text with
      | nil => cases read
      | cons c tail =>
          rw [List.map_cons, List.cons.injEq, Option.some.injEq] at read
          obtain ⟨rfl, _⟩ := read
          have whole : Utf8.encode ('\uFEFF' :: tail) =
              Utf8.encodeChar '\uFEFF' ++ Utf8.encode tail := List.flatMap_cons
          rw [whole, front] at octets
          exact ⟨tail, rfl, rfl, (List.append_cancel_left octets).symm⟩
  · next after octets =>
      rw [octets] at read
      cases text <;> cases read
  · next after octets =>
      rw [octets] at read
      cases text <;> cases read
  · cases told

theorem sniff_utf8_eq_none_iff (text : List Char) :
    sniff (Utf8.encode text) = none ↔ ∀ tail, text ≠ '\uFEFF' :: tail := by
  constructor
  · rintro unmarked tail rfl
    have marked : sniff (Utf8.encode ('\uFEFF' :: tail)) = some (.utf8, Utf8.encode tail) := rfl
    rw [marked] at unmarked
    cases unmarked
  · intro other
    cases told : sniff (Utf8.encode text) with
    | none => rfl
    | some mark =>
        obtain ⟨tail, same, _⟩ := sniff_utf8 text mark.2 mark.1 told
        exact absurd same (other tail)

/-- A text is read as it is shown, unless it is written as a byte order mark. -/
theorem decode_encode_iff {charset : Charset} (simple : charset.Simple) (text : List Char) :
    charset.output.decode (charset.encode text) = charset.output.shown text ↔
      sniff (charset.encode text) = none := by
  have plain := decodeUnmarked_encode simple text
  unfold decode
  cases told : sniff (charset.encode text) with
  | none => exact iff_of_true plain rfl
  | some mark =>
      obtain ⟨marked, rest⟩ := mark
      refine iff_of_false ?_ nofun
      dsimp only
      intro same
      -- Too few characters are left behind a mark: in the other charsets each that is shown takes one
      -- octet, and in UTF-8 the text is one character longer than what is read.
      have single : ∀ read, OneOctet charset.output read → False := by
        intro read octets
        have shorter := sniff_length (charset.encode text) rest marked told
        rw [same, ← plain, octets.reads, List.length_map] at shorter
        exact Nat.lt_irrefl _ shorter
      have unicode : charset.output = .utf8 → False := by
        intro utf8
        rw [charset.encode_utf8 utf8] at told
        obtain ⟨tail, rfl, rfl, rfl⟩ := sniff_utf8 text rest marked told
        rw [utf8, shown_utf8] at same
        have shorter := congrArg List.length ((Utf8.decodeLossy_encode tail).symm.trans same)
        rw [List.length_cons] at shorter
        omega
      cases simple with
      | utf8 | utf16le | utf16be | replacement => exact unicode rfl
      | userDefined => exact single _ oneOctet_userDefined
      | page codes => exact single _ (oneOctet_page codes)

end Charset

end Stencil
