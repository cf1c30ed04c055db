import Stencil.Proofs.Charset.Paired

/-!
ASCII is alike in all charsets: it is written as in UTF-8, and read as it was written
(`decode_encode_ascii`). Only the characters that ISO-2022-JP keeps for changing between its sets are
not, there.
-/

namespace Stencil

namespace Charset

/-! ### Writing -/

theorem Gb18030.encodeChar?_ascii (c : Char) (low : c.toNat < 0x80) :
    Gb18030.encodeChar? c = some [UInt8.ofNat c.toNat] :=
  if_pos low

theorem Gb18030.encodeGbk?_ascii (c : Char) (low : c.toNat < 0x80) :
    Gb18030.encodeGbk? c = some [UInt8.ofNat c.toNat] :=
  if_pos low

theorem EucJp.encodeChar?_ascii (c : Char) (low : c.toNat < 0x80) :
    EucJp.encodeChar? c = some [UInt8.ofNat c.toNat] := by
  unfold EucJp.encodeChar?
  rw [Paired.asciiOctet?_low c low, Option.some_or]

namespace JisSet

theorem octets?_ascii (c : Char) (low : c.toNat < 0x80) (steady : isShift c.toNat = false) :
    octets? .ascii c = some [UInt8.ofNat c.toNat] := by
  have own : (decide (c.toNat < 0x80) && !isShift c.toNat) = true := by
    rw [steady, decide_eq_true low]
    rfl
  exact if_pos own

theorem first?_ascii (c : Char) (low : c.toNat < 0x80) (steady : isShift c.toNat = false) :
    first? c = some (.ascii, [UInt8.ofNat c.toNat]) := by
  unfold first?
  rw [List.findSome?_cons, octets?_ascii c low steady]
  rfl

theorem write_ascii (c : Char) (low : c.toNat < 0x80) (steady : isShift c.toNat = false) :
    write .ascii c = (.ascii, [UInt8.ofNat c.toNat]) := by
  unfold write
  rw [octets?_ascii c low steady]

theorem encode_ascii (text : List Char) (ascii : ∀ c ∈ text, c.toNat < 0x80)
    (steady : ∀ c ∈ text, isShift c.toNat = false) : encode .ascii text = Utf8.encode text := by
  induction text with
  | nil => rfl
  | cons c rest ih =>
      have small := ascii c List.mem_cons_self
      rw [encode, write_ascii c small (steady c List.mem_cons_self),
        ih (fun d member => ascii d (.tail c member)) (fun d member => steady d (.tail c member)),
        Utf8.encode_cons_ascii c rest small]
      rfl

end JisSet

theorem encodeChar?_ascii (charset : Charset) (c : Char) (low : c.toNat < 0x80)
    (steady : charset = .iso2022Jp → JisSet.isShift c.toNat = false) :
    charset.encodeChar? c = some [UInt8.ofNat c.toNat] := by
  cases charset with
  | utf8 | utf16le | utf16be | replacement => exact congrArg some (if_pos low)
  | userDefined =>
      have own : ¬ (0xF780 ≤ c.toNat ∧ c.toNat ≤ 0xF7FF) := by omega
      exact (if_neg own).trans (congrArg _ (Paired.asciiOctet?_low c low))
  | page codes => exact congrArg (Option.map (fun octet => [octet])) (if_pos low)
  | gbk => exact Gb18030.encodeGbk?_ascii c low
  | gb18030 => exact Gb18030.encodeChar?_ascii c low
  | big5 => exact Paired.exact_big5.encodeChar?_ascii c low
  | eucJp => exact EucJp.encodeChar?_ascii c low
  | iso2022Jp => exact congrArg (Option.map Prod.snd) (JisSet.first?_ascii c low (steady rfl))
  | shiftJis => exact Paired.exact_shiftJis.encodeChar?_ascii c low
  | eucKr => exact Paired.exact_eucKr.encodeChar?_ascii c low

theorem eq_iso2022Jp (charset : Charset) (same : charset.output = .iso2022Jp) :
    charset = .iso2022Jp := by
  cases charset with
  | iso2022Jp => rfl
  | _ => cases same

theorem encode_ascii (charset : Charset) (text : List Char) (ascii : ∀ c ∈ text, c.toNat < 0x80)
    (steady : charset = .iso2022Jp → ∀ c ∈ text, JisSet.isShift c.toNat = false) :
    charset.encode text = Utf8.encode text := by
  have single (c : Char) (member : c ∈ text) : charset.output.encodeChar c = Utf8.encodeChar c := by
    have low := ascii c member
    have own : charset.output.encodeChar? c = some [UInt8.ofNat c.toNat] :=
      charset.output.encodeChar?_ascii c low
        (fun same => steady (charset.eq_iso2022Jp same) c member)
    have unicode : Utf8.encodeChar c = [UInt8.ofNat c.toNat] := if_pos low
    unfold encodeChar
    rw [own, unicode]
  have each : text.flatMap charset.output.encodeChar = Utf8.encode text := List.flatMap_congr single
  cases charset with
  | iso2022Jp => exact JisSet.encode_ascii text ascii (steady rfl)
  | _ => exact each

/-! ### Reading -/

theorem Gb18030.front_ascii (octet : UInt8) (rest : Bytes) (low : octet.toNat < 0x80) :
    Gb18030.front octet rest = ⟨[Char.ofNat octet.toNat], 0⟩ :=
  if_pos low

theorem EucJp.front_ascii (octet : UInt8) (rest : Bytes) (low : octet.toNat < 0x80) :
    EucJp.front octet rest = ⟨[Char.ofNat octet.toNat], 0⟩ := by
  unfold EucJp.front
  rw [Paired.ascii?_low octet low]

theorem JisSet.decode_ascii (text : List Char) (chosen : Bool) (ascii : ∀ c ∈ text, c.toNat < 0x80)
    (steady : ∀ c ∈ text, isShift c.toNat = false) :
    JisSet.decode .ascii chosen (Utf8.encode text) = text := by
  induction text generalizing chosen with
  | nil =>
      unfold Utf8.encode
      rw [List.flatMap_nil, JisSet.decode]
  | cons c rest ih =>
      have small := ascii c List.mem_cons_self
      have still := steady c List.mem_cons_self
      have value := Utf8.toNat_octet c.toNat (by omega)
      have read : JisSet.ascii.decodeOctet (UInt8.ofNat c.toNat) = c := by
        unfold decodeOctet
        dsimp only
        rw [value, still, if_pos (by rw [decide_eq_true small]; rfl), Char.ofNat_toNat]
      have other : UInt8.ofNat c.toNat ≠ 0x1B := by
        intro same
        rw [← value, same] at still
        cases still
      rw [Utf8.encode_cons_ascii c rest small]
      cases rest with
      | nil =>
          unfold Utf8.encode
          rw [List.flatMap_nil, JisSet.decode, read]
      | cons d tail =>
          have later := ih false (fun e member => ascii e (.tail c member))
            (fun e member => steady e (.tail c member))
          rw [Utf8.encode_cons_ascii d tail (ascii d (.tail c List.mem_cons_self))] at later ⊢
          unfold JisSet.decode
          rw [if_neg other, decide_eq_false (by decide : JisSet.ascii ≠ .wide), Bool.false_and,
            Bool.false_and, if_neg Bool.false_ne_true, read, later]

theorem decodeUnmarked_ascii (charset : Charset) (text : List Char)
    (ascii : ∀ c ∈ text, c.toNat < 0x80)
    (steady : charset = .iso2022Jp → ∀ c ∈ text, JisSet.isShift c.toNat = false) :
    charset.output.decodeUnmarked (Utf8.encode text) = text := by
  have front (read : UInt8 → Bytes → Front)
      (own : ∀ octet rest, octet.toNat < 0x80 → read octet rest = ⟨[Char.ofNat octet.toNat], 0⟩) :
      decodeFrom read 0 (Utf8.encode text) = text := by
    have whole := decodeFrom_ascii read own text [] ascii
    rw [List.append_nil, decodeFrom, List.append_nil] at whole
    exact whole
  cases charset with
  | utf8 | utf16le | utf16be | replacement => exact Utf8.decodeLossy_encode text
  | userDefined =>
      exact (oneOctet_userDefined.reads _).trans (oneOctet_userDefined.read_ascii text ascii)
  | page codes =>
      exact ((oneOctet_page codes).reads _).trans ((oneOctet_page codes).read_ascii text ascii)
  | gbk | gb18030 => exact front _ Gb18030.front_ascii
  | big5 => exact front _ Paired.exact_big5.front_ascii
  | eucJp => exact front _ EucJp.front_ascii
  | iso2022Jp => exact JisSet.decode_ascii text false ascii (steady rfl)
  | shiftJis => exact front _ Paired.exact_shiftJis.front_ascii
  | eucKr => exact front _ Paired.exact_eucKr.front_ascii

/-- A text in ASCII has the same octets in all charsets, none of them a byte order mark, and each
charset reads it from them. -/
theorem decode_encode_ascii (charset : Charset) (text : List Char)
    (ascii : ∀ c ∈ text, c.toNat < 0x80)
    (steady : charset = .iso2022Jp → ∀ c ∈ text, JisSet.isShift c.toNat = false) :
    charset.encode text = Utf8.encode text ∧ charset.output.decode (charset.encode text) = text := by
  have written := charset.encode_ascii text ascii steady
  have unmarked : sniff (Utf8.encode text) = none := by
    rw [sniff_utf8_eq_none_iff]
    rintro tail rfl
    exact absurd (ascii _ List.mem_cons_self) (by decide)
  refine ⟨written, ?_⟩
  unfold decode
  rw [written, unmarked]
  exact charset.decodeUnmarked_ascii text ascii steady

end Charset

end Stencil
