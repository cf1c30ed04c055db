import Mathlib.Data.List.Basic
import Stencil.Charset.Index

/-!
Laws of indexes and grids. The pointer of a character tells that character (`pointer?_cell`), and the
octets of a pointer tell that pointer (`Grid.pointer?_octets`).
-/

namespace Stencil

namespace Index

/-! ### Cells -/

theorem char?_of_cell (index : Index) (pointer : Nat) (c : Char)
    (cell : index.cells[pointer]? = some c) (shown : c ≠ blank) : index.char? pointer = some c := by
  unfold char?
  rw [cell, Option.filter_some, if_pos (bne_iff_ne.mpr shown)]

theorem pointer?_cell (index : Index) (c : Char) (pointer : Nat)
    (told : index.pointer? c = some pointer) : index.cells[pointer]? = some c ∧ c ≠ blank := by
  unfold pointer? at told
  by_cases none : c = blank
  · rw [if_pos none] at told
    cases told
  · rw [if_neg none] at told
    obtain ⟨bound, same, _⟩ := List.idxOf?_eq_some_iff.mp told
    exact ⟨List.getElem?_eq_some_iff.mpr ⟨bound, same⟩, none⟩

theorem lastPointer?_cell (index : Index) (c : Char) (pointer : Nat)
    (told : index.lastPointer? c = some pointer) : index.cells[pointer]? = some c ∧ c ≠ blank := by
  unfold lastPointer? at told
  by_cases none : c = blank
  · rw [if_pos none] at told
    cases told
  · rw [if_neg none] at told
    obtain ⟨place, found, rfl⟩ := Option.map_eq_some_iff.mp told
    obtain ⟨bound, same, _⟩ := List.idxOf?_eq_some_iff.mp found
    rw [List.length_reverse] at bound
    refine ⟨?_, none⟩
    rw [← List.getElem?_reverse bound]
    exact List.getElem?_eq_some_iff.mpr ⟨_, same⟩

/-- What is left of an index has its characters where they were. -/
theorem without_cell (index : Index) (first count pointer : Nat) (c : Char)
    (cell : (index.without first count).cells[pointer]? = some c) (shown : c ≠ blank) :
    index.cells[pointer]? = some c ∧ (pointer < first ∨ first + count ≤ pointer) := by
  unfold without at cell
  rw [List.append_assoc, List.getElem?_append, List.length_take] at cell
  by_cases before : pointer < min first index.cells.length
  · rw [if_pos before, List.getElem?_take_of_lt (by omega)] at cell
    exact ⟨cell, Or.inl (by omega)⟩
  · rw [if_neg before, List.getElem?_append, List.length_replicate] at cell
    by_cases within : pointer - min first index.cells.length < count
    · rw [if_pos within, List.getElem?_replicate, if_pos within] at cell
      exact absurd (Option.some.inj cell).symm shown
    · rw [if_neg within, List.getElem?_drop] at cell
      obtain ⟨bound, _⟩ := List.getElem?_eq_some_iff.mp cell
      have place :
          first + count + (pointer - min first index.cells.length - count) = pointer := by omega
      rw [place] at cell
      exact ⟨cell, Or.inr (by omega)⟩

/-! ### Rows -/

theorem pad_length (width : Nat) (row : List Char) : (pad width row).length = width := by
  unfold pad
  rw [List.length_rightpad, List.length_take]
  omega

theorem length_flatMap_rows {α : Type} (row : α → List Char) (width : Nat)
    (whole : ∀ key, (row key).length = width) (keys : List α) :
    (keys.flatMap row).length = keys.length * width := by
  induction keys with
  | nil => rw [List.flatMap_nil, List.length_nil, List.length_nil, Nat.zero_mul]
  | cons key rest ih =>
      rw [List.flatMap_cons, List.length_append, whole, ih, List.length_cons, Nat.succ_mul,
        Nat.add_comm]

theorem length_ofRows (width : Nat) (rows : List String) :
    (ofRows width rows).cells.length = rows.length * width :=
  length_flatMap_rows (fun row : String => pad width row.toList) width
    (fun row => pad_length width row.toList) rows

theorem cells_ofRows_append (width : Nat) (rows more : List String) :
    (ofRows width (rows ++ more)).cells = (ofRows width rows).cells ++ (ofRows width more).cells :=
  List.flatMap_append

/-- Rows without characters are blank. -/
theorem cells_ofRows_empty (width count : Nat) :
    (ofRows width (List.replicate count "")).cells = List.replicate (count * width) blank := by
  have row : pad width "".toList = List.replicate width blank := by
    unfold pad
    rw [String.toList_empty, List.take_nil]
    rfl
  induction count with
  | zero => rw [Nat.zero_mul]; rfl
  | succ count ih =>
      unfold ofRows at ih ⊢
      dsimp only at ih ⊢
      rw [List.replicate_succ, List.flatMap_cons, row, ih, List.replicate_append_replicate,
        Nat.succ_mul, Nat.add_comm]

end Index

namespace Grid

/-! ### Octets -/

/-- Runs of octets, each behind those before it. -/
structure Spread (runs : List (Nat × Nat)) : Prop where
  apart : runs.Pairwise (fun run later => run.1 + run.2 ≤ later.1)
  octets : ∀ run ∈ runs, run.1 + run.2 ≤ 0x100

theorem place?_bounds (octet : Nat) (runs : List (Nat × Nat))
    (place : (place? octet runs).isSome = true) :
    ∃ run ∈ runs, run.1 ≤ octet ∧ octet < run.1 + run.2 := by
  fun_induction place? octet runs with
  | case1 => cases place
  | case2 first count rest inside => exact ⟨_, List.mem_cons_self, inside⟩
  | case3 first count rest outside ih =>
      rw [Option.isSome_map] at place
      obtain ⟨run, member, inside⟩ := ih place
      exact ⟨run, List.mem_cons_of_mem _ member, inside⟩

theorem octetAt_mem (runs : List (Nat × Nat)) (place : Nat) (bound : place < size runs) :
    ∃ run ∈ runs, run.1 ≤ octetAt place runs ∧ octetAt place runs < run.1 + run.2 := by
  fun_induction octetAt place runs with
  | case1 => exact absurd bound (Nat.not_lt_zero _)
  | case2 place first count rest within => exact ⟨_, List.mem_cons_self, by omega, by omega⟩
  | case3 place first count rest beyond ih =>
      unfold size at bound
      obtain ⟨run, member, inside⟩ := ih (by omega)
      exact ⟨run, List.mem_cons_of_mem _ member, inside⟩

theorem place?_octetAt (runs : List (Nat × Nat)) (spread : Spread runs) (place : Nat)
    (bound : place < size runs) : place? (octetAt place runs) runs = some place := by
  fun_induction octetAt place runs with
  | case1 => exact absurd bound (Nat.not_lt_zero _)
  | case2 place first count rest within =>
      unfold place?
      rw [if_pos ⟨by omega, by omega⟩, Nat.add_sub_cancel_left]
  | case3 place first count rest beyond ih =>
      unfold size at bound
      obtain ⟨front, later⟩ := List.pairwise_cons.mp spread.apart
      have tail : Spread rest := ⟨later, fun run member => spread.octets run (.tail _ member)⟩
      obtain ⟨run, member, low, _⟩ := octetAt_mem rest (place - count) (by omega)
      have behind := front run member
      unfold place?
      rw [if_neg (by omega), ih tail (by omega), Option.map_some]
      exact congrArg some (by omega)

theorem octetAt_toNat (runs : List (Nat × Nat)) (spread : Spread runs) (place : Nat)
    (bound : place < size runs) : (UInt8.ofNat (octetAt place runs)).toNat = octetAt place runs := by
  obtain ⟨run, member, _, high⟩ := octetAt_mem runs place bound
  have small := spread.octets run member
  rw [UInt8.toNat_ofNat']
  exact Nat.mod_eq_of_lt (by omega)

theorem pointer?_octets (grid : Grid) (leads : Spread grid.leads) (trails : Spread grid.trails)
    (pointer : Nat) (bound : pointer < size grid.leads * size grid.trails) :
    ∃ lead trail, grid.octets pointer = [lead, trail] ∧
      (place? lead.toNat grid.leads).isSome = true ∧ grid.pointer? lead trail = some pointer := by
  have width : 0 < size grid.trails := by
    by_contra none
    rw [Nat.eq_zero_of_not_pos none, Nat.mul_zero] at bound
    exact absurd bound (Nat.not_lt_zero _)
  have row : pointer / size grid.trails < size grid.leads := Nat.div_lt_of_lt_mul (by
    rw [Nat.mul_comm]
    exact bound)
  have cell : pointer % size grid.trails < size grid.trails := Nat.mod_lt _ width
  have lead := place?_octetAt _ leads _ row
  have trail := place?_octetAt _ trails _ cell
  rw [← octetAt_toNat _ leads _ row] at lead
  rw [← octetAt_toNat _ trails _ cell] at trail
  refine ⟨_, _, rfl, Option.isSome_iff_exists.mpr ⟨_, lead⟩, ?_⟩
  unfold pointer?
  rw [lead, trail]
  exact congrArg some (Nat.div_add_mod' pointer (size grid.trails))

end Grid

end Stencil
