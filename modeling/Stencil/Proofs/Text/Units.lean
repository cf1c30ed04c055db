import Stencil.Proofs.Text.Utf8
import Stencil.Text.Units

/-!
Text that is written in UTF-16 code units is read back as it was. `scan_ofChar` takes one character off
the front, be it one unit or a pair, and no half of a pair is ever left over.
-/

namespace Stencil

namespace Units

theorem toNat_unit (n : Nat) (small : n < 0x10000) : (UInt16.ofNat n).toNat = n := by
  rw [UInt16.toNat_ofNat']
  exact Nat.mod_eq_of_lt small

theorem isHigh_iff (unit : UInt16) :
    isHigh unit = true ↔ 0xD800 ≤ unit.toNat ∧ unit.toNat < 0xDC00 := by
  unfold isHigh
  rw [Bool.and_eq_true, decide_eq_true_eq, decide_eq_true_eq]

theorem isLow_iff (unit : UInt16) :
    isLow unit = true ↔ 0xDC00 ≤ unit.toNat ∧ unit.toNat < 0xE000 := by
  unfold isLow
  rw [Bool.and_eq_true, decide_eq_true_eq, decide_eq_true_eq]

/-- A unit that is no half of a pair is a character, whatever follows it. -/
theorem scan_single (unit : UInt16) (rest : Units) (high : isHigh unit = false)
    (low : isLow unit = false) :
    scan (unit :: rest) = .ok (Char.ofNat unit.toNat) :: scan rest := by
  cases rest with
  | nil =>
      unfold scan
      rw [high, low]
      rfl
  | cons next others =>
      rw [scan, if_neg (by rw [high]; exact Bool.false_ne_true),
        if_neg (by rw [low]; exact Bool.false_ne_true)]

theorem scan_pair (high low : UInt16) (rest : Units) (first : isHigh high = true)
    (second : isLow low = true) : scan (high :: low :: rest) = .ok (pair high low) :: scan rest := by
  rw [scan, if_pos first, if_pos second]

theorem scan_ofChar (c : Char) (rest : Units) :
    scan (ofChar c ++ rest) = .ok c :: scan rest := by
  have valid := Utf8.toNat_valid c
  have whole : Char.ofNat c.toNat = c := Char.ofNat_toNat c
  unfold ofChar
  generalize c.toNat = n at valid whole
  by_cases single : n < 0x10000
  · have value := toNat_unit n single
    have high : isHigh (UInt16.ofNat n) = false := by
      rw [Bool.eq_false_iff, ne_eq, isHigh_iff, value]
      omega
    have low : isLow (UInt16.ofNat n) = false := by
      rw [Bool.eq_false_iff, ne_eq, isLow_iff, value]
      omega
    rw [if_pos single, List.singleton_append, scan_single _ rest high low, value, whole]
  · -- The pair holds the ten upper and the ten lower bits of what is above 0x10000.
    have upper := toNat_unit (0xD800 + (n - 0x10000) / 0x400) (by omega)
    have lower := toNat_unit (0xDC00 + (n - 0x10000) % 0x400) (by omega)
    have high : isHigh (UInt16.ofNat (0xD800 + (n - 0x10000) / 0x400)) = true := by
      rw [isHigh_iff, upper]
      omega
    have low : isLow (UInt16.ofNat (0xDC00 + (n - 0x10000) % 0x400)) = true := by
      rw [isLow_iff, lower]
      omega
    have sum : 0x10000 + (0xD800 + (n - 0x10000) / 0x400 - 0xD800) * 0x400 +
        (0xDC00 + (n - 0x10000) % 0x400 - 0xDC00) = n := by omega
    rw [if_neg single, List.cons_append, List.singleton_append, scan_pair _ _ rest high low]
    unfold pair
    rw [upper, lower, sum, whole]

theorem scan_ofChars (text : List Char) : scan (ofChars text) = text.map .ok := by
  induction text with
  | nil => rfl
  | cons c rest ih =>
      unfold ofChars at ih ⊢
      rw [List.flatMap_cons, scan_ofChar, ih, List.map_cons]

theorem toCharsLossy_ofChars (text : List Char) : toCharsLossy (ofChars text) = text := by
  unfold toCharsLossy
  rw [scan_ofChars, List.map_map]
  exact List.map_id text

end Units

end Stencil
