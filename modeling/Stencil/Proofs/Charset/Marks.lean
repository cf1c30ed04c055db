import Stencil.Charset.Coding
import Stencil.Proofs.Text.Units

/-!
Text behind a byte order mark. Octets that tell by a mark how they were written are read as the text that
was written, whatever charset they are read in (`decode_marked`): the mark counts for more than the
charset, it is taken away once, and each of the three ways to write a text is undone by its reader.
-/

namespace Stencil

namespace Units

/-- Units in octets, the upper half of each one first or last. -/
def toBytes (bigEndian : Bool) (units : Units) : Bytes :=
  units.flatMap fun unit =>
    let high := UInt8.ofNat (unit.toNat / 0x100)
    let low := UInt8.ofNat (unit.toNat % 0x100)
    if bigEndian then [high, low] else [low, high]

theorem ofBytes_toBytes (bigEndian : Bool) (units : Units) :
    ofBytes bigEndian (toBytes bigEndian units) = (units, false) := by
  induction units with
  | nil => rfl
  | cons unit rest ih =>
      have bound := unit.toNat_lt
      have high := Utf8.toNat_octet (unit.toNat / 0x100) (by omega)
      have low := Utf8.toNat_octet (unit.toNat % 0x100) (by omega)
      have sum : unit.toNat / 0x100 * 0x100 + unit.toNat % 0x100 = unit.toNat := by omega
      unfold toBytes at ih ⊢
      rw [List.flatMap_cons]
      cases bigEndian with
      | true =>
          dsimp only at ih ⊢
          rw [if_pos rfl, List.cons_append, List.singleton_append, ofBytes, ih]
          dsimp only
          rw [if_pos rfl, if_pos rfl, high, low, sum, UInt16.ofNat_toNat]
      | false =>
          dsimp only at ih ⊢
          rw [if_neg Bool.false_ne_true, List.cons_append, List.singleton_append, ofBytes, ih]
          dsimp only
          rw [if_neg Bool.false_ne_true, if_neg Bool.false_ne_true, high, low, sum,
            UInt16.ofNat_toNat]

theorem decodeBytes_toBytes (bigEndian : Bool) (text : List Char) :
    decodeBytes bigEndian (toBytes bigEndian (ofChars text)) = text := by
  unfold decodeBytes
  rw [ofBytes_toBytes]
  exact toCharsLossy_ofChars text

end Units

namespace Charset

/-- The octets of a text that start with the mark of how they were written. -/
inductive Marked (text : List Char) : Bytes → Prop where
  | utf8 : Marked text (0xEF :: 0xBB :: 0xBF :: Utf8.encode text)
  | utf16le : Marked text (0xFF :: 0xFE :: Units.toBytes false (Units.ofChars text))
  | utf16be : Marked text (0xFE :: 0xFF :: Units.toBytes true (Units.ofChars text))

theorem decode_marked (charset : Charset) (text : List Char) (octets : Bytes)
    (marked : Marked text octets) : charset.decode octets = text := by
  cases marked with
  | utf8 => exact Utf8.decodeLossy_encode text
  | utf16le => exact Units.decodeBytes_toBytes false text
  | utf16be => exact Units.decodeBytes_toBytes true text

theorem decodeString_marked (charset : Charset) (text : String) (octets : Bytes)
    (marked : Marked text.toList octets) : charset.decodeString octets = text := by
  unfold decodeString
  rw [charset.decode_marked text.toList octets marked, String.ofList_toList]

end Charset

end Stencil
