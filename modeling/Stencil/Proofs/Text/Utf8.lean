import Stencil.Text.Utf8

/-!
Text that is written as UTF-8 is read back as it was. `scan_encodeChar` takes one character off the
front, by the number of octets it is written in; a text is then read back character by character.
-/

namespace Stencil

namespace Utf8

theorem toNat_octet (n : Nat) (small : n < 0x100) : (UInt8.ofNat n).toNat = n := by
  rw [UInt8.toNat_ofNat']
  exact Nat.mod_eq_of_lt small

/-! ### One octet -/

theorem encode_cons_ascii (c : Char) (rest : List Char) (low : c.toNat < 0x80) :
    encode (c :: rest) = UInt8.ofNat c.toNat :: encode rest := by
  unfold encode encodeChar
  rw [List.flatMap_cons, if_pos low]
  rfl

theorem scan_start (octet : UInt8) (rest : Bytes) :
    scan .start (octet :: rest) = (State.lead octet).1 ++ scan (State.lead octet).2 rest :=
  rfl

theorem lead_one (n : Nat) (small : n < 0x80) :
    State.lead (UInt8.ofNat n) = ([some (Char.ofNat n)], .start) := by
  unfold State.lead
  rw [toNat_octet n (by omega), if_pos small]

theorem lead_two (n : Nat) (least : 2 ≤ n) (most : n < 0x20) :
    State.lead (UInt8.ofNat (0xC0 + n)) = ([], .inside 1 0x80 0xBF n) := by
  unfold State.lead
  rw [toNat_octet (0xC0 + n) (by omega), if_neg (by omega), if_neg (by omega), if_pos (by omega),
    Nat.add_sub_cancel_left]

/-- The first of three octets bounds the second: two octets have to be too few for the character, and
it must not be a surrogate. -/
theorem lead_three : ∀ n < 0x10, State.lead (UInt8.ofNat (0xE0 + n)) =
    ([], .inside 2 (if n = 0 then 0xA0 else 0x80) (if n = 0xD then 0x9F else 0xBF) n) := by
  decide

/-- The first of four octets bounds the second: three octets have to be too few, and characters end at
U+10FFFF. -/
theorem lead_four : ∀ n < 5, State.lead (UInt8.ofNat (0xF0 + n)) =
    ([], .inside 3 (if n = 0 then 0x90 else 0x80) (if n = 4 then 0x8F else 0xBF) n) := by
  decide

theorem step_inside (count lower upper value n : Nat) (least : lower ≤ 0x80 + n)
    (most : 0x80 + n ≤ upper) (bounded : upper < 0x100) :
    (State.inside count lower upper value).step (UInt8.ofNat (0x80 + n)) =
      if count ≤ 1 then ([some (Char.ofNat (value * 0x40 + n))], .start)
      else ([], .inside (count - 1) 0x80 0xBF (value * 0x40 + n)) := by
  unfold State.step
  dsimp only
  rw [toNat_octet (0x80 + n) (by omega), if_pos ⟨least, most⟩, Nat.add_sub_cancel_left]

theorem scan_last (lower upper value n : Nat) (rest : Bytes) (least : lower ≤ 0x80 + n)
    (most : 0x80 + n ≤ upper) (bounded : upper < 0x100) :
    scan (.inside 1 lower upper value) (UInt8.ofNat (0x80 + n) :: rest) =
      some (Char.ofNat (value * 0x40 + n)) :: scan .start rest := by
  change ((State.inside 1 lower upper value).step _).1 ++ scan _ rest = _
  rw [step_inside 1 lower upper value n least most bounded]
  rfl

theorem scan_next (count lower upper value n : Nat) (rest : Bytes) (least : lower ≤ 0x80 + n)
    (most : 0x80 + n ≤ upper) (bounded : upper < 0x100) :
    scan (.inside (count + 2) lower upper value) (UInt8.ofNat (0x80 + n) :: rest) =
      scan (.inside (count + 1) 0x80 0xBF (value * 0x40 + n)) rest := by
  change ((State.inside (count + 2) lower upper value).step _).1 ++ scan _ rest = _
  rw [step_inside (count + 2) lower upper value n least most bounded, if_neg (by omega)]
  rfl

/-! ### One character -/

theorem toNat_valid (c : Char) : c.toNat < 0xD800 ∨ 0xDFFF < c.toNat ∧ c.toNat < 0x110000 :=
  c.valid

theorem scan_encodeChar (c : Char) (rest : Bytes) :
    scan .start (encodeChar c ++ rest) = some c :: scan .start rest := by
  have valid := toNat_valid c
  have whole : Char.ofNat c.toNat = c := Char.ofNat_toNat c
  unfold encodeChar
  generalize c.toNat = n at valid whole
  -- Each branch reads back the digits of `n` in base 0x40 that the same branch of the writer put there.
  by_cases one : n < 0x80
  · rw [if_pos one, List.singleton_append, scan_start, lead_one n one, whole]
    rfl
  rw [if_neg one]
  by_cases two : n < 0x800
  · rw [if_pos two, List.cons_append, List.singleton_append, scan_start,
      lead_two (n / 0x40) (by omega) (by omega), List.nil_append,
      scan_last _ _ _ _ _ (by omega) (by omega) (by omega)]
    have sum : n / 0x40 * 0x40 + n % 0x40 = n := by omega
    rw [sum, whole]
  rw [if_neg two]
  by_cases three : n < 0x10000
  · rw [if_pos three]
    simp only [List.cons_append, List.nil_append]
    rw [scan_start, lead_three (n / 0x1000) (by omega), List.nil_append,
      scan_next 0 _ _ _ _ _ (by split <;> omega) (by split <;> omega) (by split <;> omega),
      scan_last _ _ _ _ _ (by omega) (by omega) (by omega)]
    have sum : (n / 0x1000 * 0x40 + n / 0x40 % 0x40) * 0x40 + n % 0x40 = n := by omega
    rw [sum, whole]
  rw [if_neg three]
  simp only [List.cons_append, List.nil_append]
  rw [scan_start, lead_four (n / 0x40000) (by omega), List.nil_append,
    scan_next 1 _ _ _ _ _ (by split <;> omega) (by split <;> omega) (by split <;> omega),
    scan_next 0 _ _ _ _ _ (by omega) (by omega) (by omega),
    scan_last _ _ _ _ _ (by omega) (by omega) (by omega)]
  have sum : ((n / 0x40000 * 0x40 + n / 0x1000 % 0x40) * 0x40 + n / 0x40 % 0x40) * 0x40 +
      n % 0x40 = n := by omega
  rw [sum, whole]

/-! ### Texts -/

theorem scan_encode (text : List Char) : scan .start (encode text) = text.map some := by
  induction text with
  | nil => rfl
  | cons c rest ih =>
      unfold encode
      rw [List.flatMap_cons, scan_encodeChar]
      exact congrArg (List.cons (some c)) ih

theorem decodeLossy_encode (text : List Char) : decodeLossy (encode text) = text := by
  unfold decodeLossy
  rw [scan_encode, List.map_map]
  exact List.map_id text

/-! ### How much is read -/

/-- A reader inside a character still owes one report for it. -/
def State.owed : State → Nat
  | .start => 0
  | .inside .. => 1

theorem lead_length (octet : UInt8) :
    (State.lead octet).1.length + (State.lead octet).2.owed ≤ 1 := by
  unfold State.lead
  dsimp only
  repeat' split
  all_goals exact Nat.le_refl 1

theorem step_length (state : State) (octet : UInt8) :
    (state.step octet).1.length + (state.step octet).2.owed ≤ 1 + state.owed := by
  have fresh := lead_length octet
  cases state with
  | start => exact fresh
  | inside count lower upper value =>
      unfold State.step
      dsimp only
      split
      · split
        · exact Nat.le_succ 1
        · exact Nat.le_succ 1
      · rw [List.length_cons]
        dsimp only [State.owed] at fresh ⊢
        omega

theorem scan_length (octets : Bytes) (state : State) :
    (scan state octets).length ≤ octets.length + state.owed := by
  induction octets generalizing state with
  | nil => cases state <;> exact Nat.le_refl _
  | cons octet rest ih =>
      have later := ih (state.step octet).2
      have reported := step_length state octet
      have scanned : scan state (octet :: rest) =
          (state.step octet).1 ++ scan (state.step octet).2 rest := by
        cases state <;> rfl
      rw [scanned, List.length_append, List.length_cons]
      omega

theorem decodeLossy_length (octets : Bytes) : (decodeLossy octets).length ≤ octets.length := by
  unfold decodeLossy
  rw [List.length_map]
  exact scan_length octets .start

end Utf8

end Stencil
