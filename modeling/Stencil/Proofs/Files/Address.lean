import Stencil.Files.Url
import Stencil.Proofs.Text.Utf8

/-!
Addresses of files keep their paths. Each octet in percent form is read back (`decode_octet`), so a
text is, whatever characters it has, as long as the percent sign is in percent form itself
(`decode_encode`). The written address of a file tells its path again (`pathOfText?_text`).
-/

namespace Stencil

theorem Utf8.decode?_encode (text : List Char) : decode? (encode text) = some text := by
  unfold decode?
  rw [scan_encode]
  induction text with
  | nil => rfl
  | cons c rest ih => rw [List.map_cons, List.mapM_cons, ih]; rfl

namespace Percent

/-! ### One octet -/

theorem value?_capitalHexDigit : ∀ n < 0x10, Hex.value? (capitalHexDigit n) = some n := by
  decide

theorem decode_octet (value : UInt8) (rest : List Char) :
    decode (octet value ++ rest) = value :: decode rest := by
  have bound := value.toNat_lt
  have high := value?_capitalHexDigit (value.toNat / 0x10) (by omega)
  have low := value?_capitalHexDigit (value.toNat % 0x10) (by omega)
  have sum : value.toNat / 0x10 * 0x10 + value.toNat % 0x10 = value.toNat := by omega
  unfold octet
  simp only [List.cons_append, List.nil_append]
  rw [decode, high, low]
  dsimp only
  rw [sum, UInt8.ofNat_toNat]

theorem decode_octets (octets : Bytes) (rest : List Char) :
    decode (octets.flatMap octet ++ rest) = octets ++ decode rest := by
  induction octets with
  | nil => rfl
  | cons value others ih =>
      rw [List.flatMap_cons, List.append_assoc, decode_octet, ih, List.cons_append]

/-! ### Texts -/

/-- A character other than the percent sign stands for itself. -/
theorem decode_plain (c : Char) (plain : c ≠ '%') (rest : List Char) :
    decode (c :: rest) = Utf8.encodeChar c ++ decode rest := by
  rw [decode]
  intro a b after same
  exact absurd same plain

theorem decode_encode (set : Char → Bool) (hidden : set '%' = true) (text : List Char) :
    decode (encode set text) = Utf8.encode text := by
  induction text with
  | nil => rfl
  | cons c rest ih =>
      unfold encode Utf8.encode
      rw [List.flatMap_cons, List.flatMap_cons]
      split
      · rw [decode_octets]
        exact congrArg (Utf8.encodeChar c ++ ·) ih
      · next shown =>
          have plain : c ≠ '%' := by
            intro same
            rw [same, hidden, Bool.or_true] at shown
            exact shown rfl
          rw [List.singleton_append, decode_plain c plain]
          exact congrArg (Utf8.encodeChar c ++ ·) ih

end Percent

/-! ### Addresses -/

namespace Url

/-- What the written address of a file starts with. -/
def fileScheme : List Char := "file://".toList

/-- The path that the written address of a file tells. -/
def pathOfText? (text : String) : Option String :=
  if fileScheme.isPrefixOf text.toList then
    (Utf8.decode? (Percent.decode (text.toList.drop fileScheme.length))).map String.ofList
  else none

theorem pathOfText?_text (path : String) : pathOfText? (Url.file path).text = some path := by
  have written : (Url.file path).text.toList =
      fileScheme ++ Percent.encode Percent.inName path.toList := by
    unfold text fileScheme
    simp only [String.toList_append, String.toList_ofList]
  unfold pathOfText?
  rw [written, if_pos (by simp), List.drop_left, Percent.decode_encode Percent.inName rfl,
    Utf8.decode?_encode, Option.map_some, String.ofList_toList]

end Url

end Stencil
