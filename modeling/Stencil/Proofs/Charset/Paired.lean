import Stencil.Proofs.Charset.Coding
import Stencil.Proofs.Charset.Index

/-!
Texts in charsets of single octets and pairs. What such a charset writes is read again
(`decodeUnmarked_encode_pairs`), and only in Shift_JIS a few characters come back as others.
-/

namespace Stencil

namespace Charset

/-- ASCII octets that stand for themselves are read so, whatever is behind them. -/
theorem decodeFrom_ascii (front : UInt8 → Bytes → Front)
    (own : ∀ octet rest, octet.toNat < 0x80 → front octet rest = ⟨[Char.ofNat octet.toNat], 0⟩)
    (text : List Char) (rest : Bytes) (ascii : ∀ c ∈ text, c.toNat < 0x80) :
    decodeFrom front 0 (Utf8.encode text ++ rest) = text ++ decodeFrom front 0 rest := by
  induction text with
  | nil => rfl
  | cons c tail ih =>
      have small := ascii c List.mem_cons_self
      have value := Utf8.toNat_octet c.toNat (by omega)
      rw [Utf8.encode_cons_ascii c tail small, List.cons_append, decodeFrom, own _ _ (by omega),
        value, Char.ofNat_toNat, ih (fun d member => ascii d (List.mem_cons_of_mem c member))]
      rfl

namespace Paired

/-! ### Writing and reading one character -/

/-- A charset that reads what it wrote for a character as one that is told for it. -/
structure Exact (code : Paired) (told : Char → Char) : Prop where
  leads : Grid.Spread code.grid.leads
  trails : Grid.Spread code.grid.trails
  ascii : ∀ octet, octet.toNat < 0x80 → code.single? octet = some (Char.ofNat octet.toNat)
  octet_ascii : ∀ c, c.toNat < 0x80 → code.octet? c = some (UInt8.ofNat c.toNat)
  single : ∀ c octet, code.octet? c = some octet → code.single? octet = some (told c)
  lead : ∀ octet, (Grid.place? octet.toNat code.grid.leads).isSome = true → code.single? octet = none
  pair : ∀ c pointer, code.octet? c = none → code.pointer? c = some pointer →
    pointer < Grid.size code.grid.leads * Grid.size code.grid.trails ∧
      code.text? pointer = some [told c]

variable {code : Paired} {told : Char → Char}

theorem decode_single (octet : UInt8) (c : Char) (rest : Bytes)
    (single : code.single? octet = some c) : code.decode (octet :: rest) = c :: code.decode rest := by
  have front : code.front octet rest = ⟨[c], 0⟩ := by
    unfold Paired.front
    rw [single]
  unfold decode
  rw [decodeFrom, front]
  rfl

theorem decode_pair (lead trail : UInt8) (pointer : Nat) (text : List Char) (rest : Bytes)
    (none : code.single? lead = none)
    (place : (Grid.place? lead.toNat code.grid.leads).isSome = true)
    (pair : code.grid.pointer? lead trail = some pointer) (stands : code.text? pointer = some text) :
    code.decode (lead :: trail :: rest) = text ++ code.decode rest := by
  obtain ⟨row, row_eq⟩ := Option.isSome_iff_exists.mp place
  have front : code.front lead (trail :: rest) = ⟨text, 1⟩ := by
    unfold Paired.front
    rw [none, row_eq]
    dsimp only
    rw [pair, Option.bind_some, stands]
    rfl
  unfold decode
  rw [decodeFrom, front]
  rfl

namespace Exact

variable (laws : code.Exact told)

include laws

theorem front_ascii (octet : UInt8) (rest : Bytes) (low : octet.toNat < 0x80) :
    code.front octet rest = ⟨[Char.ofNat octet.toNat], 0⟩ := by
  unfold Paired.front
  rw [laws.ascii octet low]

theorem told_ascii (c : Char) (low : c.toNat < 0x80) : told c = c := by
  have value := Utf8.toNat_octet c.toNat (by omega)
  have own := laws.ascii (UInt8.ofNat c.toNat) (by omega)
  rw [value, Char.ofNat_toNat, laws.single c _ (laws.octet_ascii c low)] at own
  exact Option.some.inj own

theorem encodeChar?_ascii (c : Char) (low : c.toNat < 0x80) :
    code.encodeChar? c = some [UInt8.ofNat c.toNat] := by
  unfold encodeChar?
  rw [laws.octet_ascii c low]

theorem decode_encodeChar? (c : Char) (octets rest : Bytes)
    (written : code.encodeChar? c = some octets) :
    code.decode (octets ++ rest) = told c :: code.decode rest := by
  unfold encodeChar? at written
  cases one : code.octet? c with
  | some octet =>
      rw [one] at written
      cases written
      exact decode_single octet (told c) rest (laws.single c octet one)
  | none =>
      rw [one] at written
      obtain ⟨pointer, found, rfl⟩ := Option.map_eq_some_iff.mp written
      obtain ⟨bound, stands⟩ := laws.pair c pointer one found
      obtain ⟨lead, trail, two, place, same⟩ :=
        code.grid.pointer?_octets laws.leads laws.trails pointer bound
      rw [two]
      exact decode_pair lead trail pointer [told c] rest (laws.lead lead place) place same stands

end Exact

/-! ### EUC-KR and Big5 -/

theorem ascii?_asciiOctet? (c : Char) (octet : UInt8) (written : asciiOctet? c = some octet) :
    ascii? octet = some c := by
  unfold asciiOctet? at written
  by_cases low : c.toNat < 0x80
  · rw [if_pos low] at written
    cases written
    have value := Utf8.toNat_octet c.toNat (by omega)
    unfold ascii?
    rw [value, if_pos low, Char.ofNat_toNat]
  · rw [if_neg low] at written
    cases written

theorem asciiOctet?_low (c : Char) (low : c.toNat < 0x80) :
    asciiOctet? c = some (UInt8.ofNat c.toNat) :=
  if_pos low

theorem ascii?_low (octet : UInt8) (low : octet.toNat < 0x80) :
    ascii? octet = some (Char.ofNat octet.toNat) :=
  if_pos low

theorem ascii?_high (octet : UInt8) (high : 0x80 ≤ octet.toNat) : ascii? octet = none :=
  if_neg (Nat.not_lt.mpr high)

theorem length_eucKr : Index.eucKr.cells.length = 126 * 190 := by
  have front (syllables : List Char) : (Index.ksFront syllables).length = 96 := by
    unfold Index.ksFront
    rw [List.length_append, List.length_append, Index.pad_length, Index.pad_length, Index.pad_length]
  have row (key : Nat) : (Index.ksRow key).length = 190 := by
    unfold Index.ksRow
    split
    · rw [List.length_append, front, Index.pad_length]
    · rw [List.length_append, front, Index.pad_length]
  unfold Index.eucKr
  rw [Index.length_flatMap_rows Index.ksRow 190 row, List.length_range]

theorem text?_eucKr (pointer : Nat) :
    eucKr.text? pointer = (Index.eucKr.char? pointer).map (fun c => [c]) := by
  unfold eucKr
  dsimp only

theorem pointer?_eucKr (c : Char) : eucKr.pointer? c = Index.eucKr.pointer? c := by
  unfold eucKr
  dsimp only

theorem exact_eucKr : eucKr.Exact id where
  leads := ⟨by decide, by decide⟩
  trails := ⟨by decide, by decide⟩
  ascii := ascii?_low
  octet_ascii := asciiOctet?_low
  single := ascii?_asciiOctet?
  lead octet place := by
    obtain ⟨run, member, low, _⟩ := Grid.place?_bounds octet.toNat _ place
    cases List.mem_singleton.mp member
    exact ascii?_high octet (by omega)
  pair c pointer _ found := by
    rw [pointer?_eucKr] at found
    obtain ⟨cell, shown⟩ := Index.eucKr.pointer?_cell c pointer found
    obtain ⟨bound, _⟩ := List.getElem?_eq_some_iff.mp cell
    rw [length_eucKr] at bound
    refine ⟨bound, ?_⟩
    rw [text?_eucKr, Index.eucKr.char?_of_cell pointer c cell shown]
    rfl

theorem length_big5 : Index.big5.cells.length = 126 * 157 := by
  have row (parts : String × String) :
      (Index.pad 63 parts.1.toList ++ Index.pad 94 parts.2.toList).length = 157 := by
    rw [List.length_append, Index.pad_length, Index.pad_length]
  have rows : (Index.big5Fronts.zip Index.big5Backs).length = 120 := rfl
  unfold Index.big5
  rw [List.length_append, List.length_replicate, Index.length_flatMap_rows _ 157 row, rows]

/-- Letters with two marks stand in front of what is written. -/
theorem text?_big5 (pointer : Nat) (written : 5024 ≤ pointer) :
    big5.text? pointer = (Index.big5.char? pointer).map (fun c => [c]) := by
  have unmarked : big5Marked.lookup pointer = none := by
    rw [List.lookup_eq_none_iff]
    intro entry member
    have small : entry.1 < 5024 := (by decide : ∀ entry ∈ big5Marked, entry.1 < 5024) entry member
    exact bne_iff_ne.mpr (by omega)
  unfold big5
  dsimp only
  rw [unmarked]

theorem pointer?_big5 (c : Char) (pointer : Nat) (found : big5.pointer? c = some pointer) :
    (Index.big5.without 0 5024).cells[pointer]? = some c ∧ c ≠ Index.blank := by
  unfold big5 at found
  dsimp only at found
  split at found
  · exact Index.lastPointer?_cell _ c pointer found
  · exact Index.pointer?_cell _ c pointer found

theorem exact_big5 : big5.Exact id where
  leads := ⟨by decide, by decide⟩
  trails := ⟨by decide, by decide⟩
  ascii := ascii?_low
  octet_ascii := asciiOctet?_low
  single := ascii?_asciiOctet?
  lead octet place := by
    obtain ⟨run, member, low, _⟩ := Grid.place?_bounds octet.toNat _ place
    cases List.mem_singleton.mp member
    exact ascii?_high octet (by omega)
  pair c pointer _ found := by
    obtain ⟨kept, shown⟩ := pointer?_big5 c pointer found
    obtain ⟨cell, beyond⟩ := Index.big5.without_cell 0 5024 pointer c kept shown
    obtain ⟨bound, _⟩ := List.getElem?_eq_some_iff.mp cell
    rw [length_big5] at bound
    refine ⟨bound, ?_⟩
    rw [text?_big5 pointer (by omega), Index.big5.char?_of_cell pointer c cell shown]
    rfl

/-! ### Shift_JIS -/

/-- What Shift_JIS reads where a character was written. Two of ASCII have the places of the yen sign
and the overline. -/
def jisRead (c : Char) : Char :=
  if c = '¥' then '\\' else if c = '‾' then '~' else jisWritten c

theorem jisRead_of_ne (c : Char) (yen : c ≠ '¥') (line : c ≠ '‾') : jisRead c = jisWritten c := by
  unfold jisRead
  rw [if_neg yen, if_neg line]

theorem jisRead_same (c : Char) (yen : c ≠ '¥') (line : c ≠ '‾') (minus : c ≠ '−') : jisRead c = c := by
  rw [jisRead_of_ne c yen line]
  exact if_neg minus

theorem jisRead_ascii (c : Char) (low : c.toNat < 0x80) : jisRead c = c :=
  jisRead_same c (fun same => absurd (same ▸ low) (by decide))
    (fun same => absurd (same ▸ low) (by decide)) (fun same => absurd (same ▸ low) (by decide))

theorem katakana?_katakanaOctet (c : Char) (kana : isKatakana c = true) :
    (katakanaOctet c).toNat = 0xA1 + (c.toNat - 0xFF61) ∧ katakana? (katakanaOctet c) = some c := by
  unfold isKatakana at kana
  rw [Bool.and_eq_true, decide_eq_true_eq, decide_eq_true_eq] at kana
  have value : (katakanaOctet c).toNat = 0xA1 + (c.toNat - 0xFF61) := Utf8.toNat_octet _ (by omega)
  have back : 0xFF61 + (0xA1 + (c.toNat - 0xFF61) - 0xA1) = c.toNat := by omega
  refine ⟨value, ?_⟩
  unfold katakana?
  rw [value, if_pos ⟨by omega, by omega⟩, back, Char.ofNat_toNat]

theorem length_jis0208 : Index.jis0208.cells.length = 119 * 94 := by
  unfold Index.jis0208
  rw [Index.length_ofRows]
  rfl

/-- The rows for private use are blank. -/
theorem cells_jis0208 (pointer : Nat) (c : Char) (cell : Index.jis0208.cells[pointer]? = some c)
    (shown : c ≠ Index.blank) : ¬ (8836 ≤ pointer ∧ pointer < 10716) := by
  intro own
  have rows : (Index.ofRows 94 Index.jis0208Rows).cells.length = 8648 :=
    Index.length_ofRows 94 Index.jis0208Rows
  unfold Index.jis0208 at cell
  rw [Index.cells_ofRows_append, Index.cells_ofRows_append, Index.cells_ofRows_empty,
    List.append_assoc, List.getElem?_append_right (by omega), rows,
    List.getElem?_append_left (by rw [List.length_replicate]; omega),
    List.getElem?_replicate, if_pos (by omega)] at cell
  exact shown (Option.some.inj cell).symm

theorem text?_shiftJis (pointer : Nat) (shared : ¬ (8836 ≤ pointer ∧ pointer < 10716)) :
    shiftJis.text? pointer = (Index.jis0208.char? pointer).map (fun c => [c]) := by
  unfold shiftJis
  dsimp only
  rw [if_neg shared]

theorem single?_shiftJis_low (octet : UInt8) (low : octet.toNat < 0x80) :
    shiftJis.single? octet = some (Char.ofNat octet.toNat) := by
  have other : octet ≠ 0x80 := fun same => absurd (same ▸ low) (by decide)
  unfold shiftJis
  dsimp only
  rw [if_neg other, ascii?_low octet low, Option.some_or]

theorem octet?_shiftJis_low (c : Char) (low : c.toNat < 0x80) :
    shiftJis.octet? c = some (UInt8.ofNat c.toNat) := by
  have other : c ≠ '\u0080' := fun same => absurd (same ▸ low) (by decide)
  have kana : ¬ isKatakana c = true := by
    unfold isKatakana
    rw [Bool.and_eq_true, decide_eq_true_eq]
    omega
  unfold shiftJis
  dsimp only
  rw [if_neg other, if_neg kana, asciiOctet?_low c low, Option.some_or]

theorem single?_shiftJis_high (octet : UInt8) (high : 0x80 < octet.toNat) :
    shiftJis.single? octet = katakana? octet := by
  have other : octet ≠ 0x80 := fun same => absurd (same ▸ high) (by decide)
  unfold shiftJis
  dsimp only
  rw [if_neg other, ascii?_high octet (by omega), Option.none_or]

theorem single?_shiftJis_first : shiftJis.single? 0x80 = some '\u0080' := by
  unfold shiftJis
  dsimp only
  rw [if_pos rfl]

theorem romanOctet?_read (c : Char) (octet : UInt8) (written : romanOctet? c = some octet) :
    octet.toNat < 0x80 ∧ Char.ofNat octet.toNat = jisRead c := by
  unfold romanOctet? at written
  split at written
  · next yen =>
      cases written
      subst yen
      decide
  · split at written
    · next line =>
        cases written
        subst line
        decide
    · cases written

theorem single?_shiftJis_octet? (c : Char) (octet : UInt8) (written : shiftJis.octet? c = some octet) :
    shiftJis.single? octet = some (jisRead c) := by
  by_cases low : c.toNat < 0x80
  · have value := Utf8.toNat_octet c.toNat (by omega)
    rw [octet?_shiftJis_low c low] at written
    rw [← Option.some.inj written, single?_shiftJis_low _ (by omega), value, Char.ofNat_toNat,
      jisRead_ascii c low]
  · unfold shiftJis at written
    dsimp only at written
    split at written
    · next same =>
        have read : jisRead '\u0080' = '\u0080' := by decide
        rw [← Option.some.inj written, single?_shiftJis_first, same, read]
    · split at written
      · next kana =>
          obtain ⟨value, read⟩ := katakana?_katakanaOctet c kana
          rw [← Option.some.inj written, single?_shiftJis_high _ (by omega), read, jisRead_same c]
          all_goals rintro rfl; exact absurd kana (by decide)
      · have none : asciiOctet? c = none := if_neg low
        rw [none, Option.none_or] at written
        obtain ⟨small, read⟩ := romanOctet?_read c octet written
        rw [single?_shiftJis_low octet small, read]

/-- What stands in the index is neither a yen sign nor an overline, as these have octets. -/
theorem jisRead_pair (c : Char) (none : shiftJis.octet? c = none) : jisRead c = jisWritten c := by
  refine jisRead_of_ne c ?_ ?_
  · rintro rfl
    cases none
  · rintro rfl
    cases none

theorem exact_shiftJis : shiftJis.Exact jisRead where
  leads := ⟨by decide, by decide⟩
  trails := ⟨by decide, by decide⟩
  ascii := single?_shiftJis_low
  octet_ascii := octet?_shiftJis_low
  single := single?_shiftJis_octet?
  lead octet place := by
    obtain ⟨run, member, low, high⟩ := Grid.place?_bounds octet.toNat _ place
    have bounds : 0x80 < octet.toNat ∧ ¬ (0xA1 ≤ octet.toNat ∧ octet.toNat ≤ 0xDF) := by
      rcases List.mem_pair.mp member with rfl | rfl
      · dsimp only at low high
        omega
      · dsimp only at low
        omega
    rw [single?_shiftJis_high octet bounds.1]
    exact if_neg bounds.2
  pair c pointer none found := by
    rw [jisRead_pair c none]
    unfold shiftJis at found
    dsimp only at found
    obtain ⟨kept, shown⟩ := Index.pointer?_cell _ (jisWritten c) pointer found
    obtain ⟨cell, _⟩ := Index.jis0208.without_cell 8272 564 pointer (jisWritten c) kept shown
    obtain ⟨bound, _⟩ := List.getElem?_eq_some_iff.mp cell
    rw [length_jis0208] at bound
    refine ⟨Nat.lt_of_lt_of_le bound (by decide), ?_⟩
    rw [text?_shiftJis pointer (cells_jis0208 pointer _ cell shown),
      Index.jis0208.char?_of_cell pointer _ cell shown]
    rfl

end Paired

/-! ### Texts -/

/-- The charsets of single octets and pairs. -/
inductive Pairs : Charset → Paired → (Char → Char) → Prop where
  | eucKr : Pairs .eucKr .eucKr id
  | big5 : Pairs .big5 .big5 id
  | shiftJis : Pairs .shiftJis .shiftJis Paired.jisRead

namespace Pairs

variable {charset : Charset} {code : Paired} {told : Char → Char} (pairs : Pairs charset code told)

include pairs

theorem laws : code.Exact told := by
  cases pairs with
  | eucKr => exact Paired.exact_eucKr
  | big5 => exact Paired.exact_big5
  | shiftJis => exact Paired.exact_shiftJis

theorem reads (octets : Bytes) : charset.decodeUnmarked octets = code.decode octets := by
  cases pairs <;> rfl

theorem writes (c : Char) : charset.encodeChar? c = code.encodeChar? c := by
  cases pairs <;> rfl

theorem encode_eq (text : List Char) : charset.encode text = text.flatMap charset.encodeChar := by
  cases pairs <;> rfl

theorem decode_encodeChar (c : Char) (rest : Bytes) :
    code.decode (charset.encodeChar c ++ rest) =
      (if charset.Has c then [c] else reference c).map told ++ code.decode rest := by
  obtain ⟨octets, written, has, own⟩ | ⟨lacks, shown⟩ := charset.encodeChar_cases c
  · rw [own, if_pos has]
    exact pairs.laws.decode_encodeChar? c octets rest ((pairs.writes c).symm.trans written)
  · have same : (reference c).map told = reference c :=
      (List.map_congr_left (fun d member =>
        pairs.laws.told_ascii d (reference_ascii c d member))).trans (List.map_id _)
    rw [shown, if_neg lacks, same]
    exact decodeFrom_ascii code.front pairs.laws.front_ascii (reference c) rest (reference_ascii c)

end Pairs

/-- Without regard to byte order marks, every text is read as it is shown, up to what Shift_JIS tells
for another character. -/
theorem decodeUnmarked_encode_pairs {charset : Charset} {code : Paired} {told : Char → Char}
    (pairs : Pairs charset code told) (text : List Char) :
    charset.decodeUnmarked (charset.encode text) = (charset.shown text).map told := by
  rw [pairs.reads, pairs.encode_eq]
  induction text with
  | nil => rfl
  | cons c rest ih =>
      have shown : charset.shown (c :: rest) =
          (if charset.Has c then [c] else reference c) ++ charset.shown rest := List.flatMap_cons
      rw [List.flatMap_cons, pairs.decode_encodeChar, ih, shown, List.map_append]

end Charset

end Stencil
