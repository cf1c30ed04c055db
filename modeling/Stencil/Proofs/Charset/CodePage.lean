import Stencil.Charset.CodePage

/-!
Code pages read what they write. A page writes a character exactly if some octet stands for it, and
the octet it writes stands for the character.
-/

namespace Stencil

namespace CodePage

/-! ### The tables -/

theorem toNat_ofNat (n : Nat) (valid : n.isValidChar) : (Char.ofNat n).toNat = n := by
  unfold Char.ofNat
  rw [dif_pos valid]
  rfl

theorem points_length (page : CodePage) : page.points.length = 128 := by
  cases page <;> rfl

theorem points_valid (page : CodePage) : ∀ point ∈ page.points, point.isValidChar := by
  cases page <;> decide +kernel

theorem findFrom_getElem? (octet point : Nat) (points : List Nat) (found : Nat)
    (first : findFrom octet point points = some found) :
    ∃ place, found = octet + place ∧ points[place]? = some point := by
  induction points generalizing octet with
  | nil => cases first
  | cons held rest ih =>
      unfold findFrom at first
      by_cases same : held = point
      · rw [if_pos same] at first
        exact ⟨0, (Option.some.inj first).symm, congrArg some same⟩
      · rw [if_neg same] at first
        obtain ⟨place, shifted, there⟩ := ih (octet + 1) first
        exact ⟨place + 1, by omega, there⟩

theorem isSome_findFrom (octet point : Nat) (points : List Nat) (member : point ∈ points) :
    (findFrom octet point points).isSome = true := by
  induction points generalizing octet with
  | nil => cases member
  | cons held rest ih =>
      unfold findFrom
      by_cases same : held = point
      · rw [if_pos same]
        rfl
      · rw [if_neg same]
        exact ih (octet + 1) ((List.mem_cons.mp member).resolve_left (Ne.symm same))

/-! ### Octets and characters -/

theorem decodeOctet_low (page : CodePage) (octet : UInt8) (low : octet.toNat < 0x80) :
    page.decodeOctet octet = some (Char.ofNat octet.toNat) := by
  unfold decodeOctet
  rw [if_pos low]

theorem decodeOctet_high (page : CodePage) (octet : UInt8) (high : ¬ octet.toNat < 0x80) (c : Char) :
    page.decodeOctet octet = some c ↔
      ∃ point, page.points[octet.toNat - 0x80]? = some point ∧ point ≠ 0 ∧ c = Char.ofNat point := by
  have inside : octet.toNat - 0x80 < page.points.length := by
    have bound := octet.toNat_lt
    rw [points_length]
    omega
  unfold decodeOctet
  rw [if_neg high, List.getD_eq_getElem?_getD, List.getElem?_eq_getElem inside]
  simp only [Option.getD_some, Option.some.injEq, exists_eq_left']
  split
  · next empty => simp [empty]
  · next point filled =>
      rw [Option.some.injEq, and_iff_right filled]
      exact eq_comm

/-- What a page writes for a character stands for that character. -/
theorem decodeOctet_encodeChar (page : CodePage) (c : Char) (octet : UInt8)
    (written : page.encodeChar c = some octet) : page.decodeOctet octet = some c := by
  unfold encodeChar at written
  dsimp only at written
  by_cases low : c.toNat < 0x80
  · rw [if_pos low] at written
    have value : octet.toNat = c.toNat := by
      rw [← Option.some.inj written, UInt8.toNat_ofNat']
      exact Nat.mod_eq_of_lt (by omega)
    rw [decodeOctet_low page octet (by omega), value, Char.ofNat_toNat]
  · rw [if_neg low] at written
    obtain ⟨found, first, same⟩ := Option.map_eq_some_iff.mp written
    obtain ⟨place, shifted, there⟩ := findFrom_getElem? 0x80 c.toNat page.points found first
    have inside := (List.getElem?_eq_some_iff.mp there).1
    rw [points_length] at inside
    have value : octet.toNat = 0x80 + place := by
      rw [← same, UInt8.toNat_ofNat', shifted]
      exact Nat.mod_eq_of_lt (by omega)
    rw [decodeOctet_high page octet (by omega)]
    refine ⟨c.toNat, ?_, by omega, (Char.ofNat_toNat c).symm⟩
    rw [value, Nat.add_sub_cancel_left]
    exact there

/-- A page writes every character that an octet stands for. -/
theorem isSome_encodeChar (page : CodePage) (c : Char) :
    (page.encodeChar c).isSome = true ↔ ∃ octet, page.decodeOctet octet = some c := by
  constructor
  · intro written
    obtain ⟨octet, same⟩ := Option.isSome_iff_exists.mp written
    exact ⟨octet, page.decodeOctet_encodeChar c octet same⟩
  · rintro ⟨octet, stands⟩
    unfold encodeChar
    dsimp only
    by_cases low : c.toNat < 0x80
    · rw [if_pos low]
      rfl
    · rw [if_neg low, Option.isSome_map]
      by_cases ascii : octet.toNat < 0x80
      · rw [decodeOctet_low page octet ascii, Option.some.injEq] at stands
        rw [← stands, toNat_ofNat octet.toNat (Or.inl (by omega))] at low
        exact absurd ascii low
      · obtain ⟨point, there, _, same⟩ := (page.decodeOctet_high octet ascii c).mp stands
        have member := List.mem_of_getElem? there
        rw [same, toNat_ofNat point (page.points_valid point member)]
        exact isSome_findFrom 0x80 point page.points member

end CodePage

end Stencil
