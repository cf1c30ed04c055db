import Stencil.Proofs.Text.Utf8

/-!
Texts in the order of their octets. In UTF-8 a greater character is written as greater octets
(`encodeChar_lt`): more octets start with a greater mark, and as many are compared digit by digit. So
texts that are in the order of their characters are in the order of their octets (`encode_lt`).
-/

namespace Stencil

namespace Utf8

/-- The mark of a first octet, and how many octets follow it. -/
def shape (n : Nat) : Nat × Nat :=
  if n < 0x80 then (0, 0)
  else if n < 0x800 then (0xC0, 1)
  else if n < 0x10000 then (0xE0, 2)
  else (0xF0, 3)

/-- A number by its digits in base 0x40, in one octet each. What is left in front is added to the mark. -/
def digits (mark : Nat) : Nat → Nat → Bytes
  | 0, n => [UInt8.ofNat (mark + n)]
  | count + 1, n => digits mark count (n / 0x40) ++ [UInt8.ofNat (0x80 + n % 0x40)]

/-- What is left of a number in front of its last digits. -/
def front : Nat → Nat → Nat
  | 0, n => n
  | count + 1, n => front count (n / 0x40)

theorem encodeChar_eq (c : Char) :
    encodeChar c = digits (shape c.toNat).1 (shape c.toNat).2 c.toNat := by
  unfold encodeChar shape
  generalize c.toNat = n
  by_cases one : n < 0x80
  · simp [one, digits]
  by_cases two : n < 0x800
  · simp [one, two, digits]
  by_cases three : n < 0x10000
  · simp [one, two, three, digits, Nat.div_div_eq_div_mul]
  · simp [one, two, three, digits, Nat.div_div_eq_div_mul]

theorem exists_digits (mark count n : Nat) :
    ∃ later, digits mark count n = UInt8.ofNat (mark + front count n) :: later := by
  induction count generalizing n with
  | zero => exact ⟨[], rfl⟩
  | succ count ih =>
      obtain ⟨later, first⟩ := ih (n / 0x40)
      rw [digits, first, List.cons_append]
      exact ⟨_, rfl⟩

theorem octet_lt (n m : Nat) (less : n < m) (small : m < 0x100) :
    UInt8.ofNat n < UInt8.ofNat m := by
  rw [UInt8.lt_iff_toNat_lt, toNat_octet n (by omega), toNat_octet m small]
  exact less

theorem digits_lt (mark count n m : Nat) (rest others : Bytes) (less : n < m)
    (small : mark + front count m < 0x100) :
    digits mark count n ++ rest < digits mark count m ++ others := by
  induction count generalizing n m rest others with
  | zero => exact List.cons_lt_cons_iff.mpr (Or.inl (octet_lt _ _ (Nat.add_lt_add_left less _) small))
  | succ count ih =>
      rw [digits, digits, List.append_assoc, List.append_assoc]
      by_cases before : n / 0x40 < m / 0x40
      · exact ih _ _ _ _ before small
      · have same : n / 0x40 = m / 0x40 := by omega
        rw [same]
        apply List.append_left_lt
        exact List.cons_lt_cons_iff.mpr (Or.inl (octet_lt _ _ (by omega) (by omega)))

theorem shape_cases (n : Nat) :
    shape n = (0, 0) ∧ n < 0x80 ∨ shape n = (0xC0, 1) ∧ 0x80 ≤ n ∧ n < 0x800 ∨
      shape n = (0xE0, 2) ∧ 0x800 ≤ n ∧ n < 0x10000 ∨ shape n = (0xF0, 3) ∧ 0x10000 ≤ n := by
  unfold shape
  by_cases one : n < 0x80
  · exact Or.inl ⟨if_pos one, one⟩
  by_cases two : n < 0x800
  · rw [if_neg one, if_pos two]
    exact Or.inr (Or.inl ⟨rfl, by omega, two⟩)
  by_cases three : n < 0x10000
  · rw [if_neg one, if_neg two, if_pos three]
    exact Or.inr (Or.inr (Or.inl ⟨rfl, by omega, three⟩))
  · rw [if_neg one, if_neg two, if_neg three]
    exact Or.inr (Or.inr (Or.inr ⟨rfl, by omega⟩))

/-- Characters are told apart by their first octets where they have different numbers of octets: more
octets have the greater mark. -/
theorem shape_lt (n m : Nat) (less : n < m) (valid : m < 0x110000) :
    (shape m).1 + front (shape m).2 m < 0x100 ∧
      (shape n = shape m ∨
        (shape n).1 + front (shape n).2 n < (shape m).1 + front (shape m).2 m) := by
  rcases shape_cases n with ⟨own, _⟩ | ⟨own, _, _⟩ | ⟨own, _, _⟩ | ⟨own, _⟩ <;>
    rcases shape_cases m with ⟨other, _⟩ | ⟨other, _, _⟩ | ⟨other, _, _⟩ | ⟨other, _⟩ <;>
    rw [own, other] <;> simp [front] <;> omega

theorem encodeChar_lt (c d : Char) (less : c < d) (rest others : Bytes) :
    encodeChar c ++ rest < encodeChar d ++ others := by
  have order : c.toNat < d.toNat := less
  have valid : d.toNat < 0x110000 := by
    have range := toNat_valid d
    omega
  obtain ⟨small, same | first⟩ := shape_lt c.toNat d.toNat order valid
  · rw [encodeChar_eq, encodeChar_eq, same]
    exact digits_lt _ _ _ _ rest others order small
  · obtain ⟨own, begins⟩ := exists_digits (shape c.toNat).1 (shape c.toNat).2 c.toNat
    obtain ⟨other, starts⟩ := exists_digits (shape d.toNat).1 (shape d.toNat).2 d.toNat
    rw [encodeChar_eq, encodeChar_eq, begins, starts]
    exact List.cons_lt_cons_iff.mpr (Or.inl (octet_lt _ _ first small))

/-- Texts in the order of their characters are in the order of their octets. -/
theorem encode_lt (text other : List Char) (less : text < other) : encode text < encode other := by
  induction text generalizing other with
  | nil =>
      cases other with
      | nil => exact absurd less (by simp)
      | cons d others =>
          obtain ⟨later, starts⟩ := exists_digits (shape d.toNat).1 (shape d.toNat).2 d.toNat
          unfold encode
          rw [List.flatMap_cons, encodeChar_eq, starts]
          exact List.Lex.nil
  | cons c rest ih =>
      cases other with
      | nil => exact absurd less (by simp)
      | cons d others =>
          unfold encode at ih ⊢
          rw [List.flatMap_cons, List.flatMap_cons]
          rcases List.cons_lt_cons_iff.mp less with first | ⟨rfl, later⟩
          · exact encodeChar_lt c d first _ _
          · exact List.append_left_lt (ih others later)

end Utf8

end Stencil
