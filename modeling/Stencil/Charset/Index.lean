import Stencil.Text.Utf8

/-!
Indexes of characters. An index has the characters of a standard by their pointers, and a grid tells a
pointer by two octets.
-/

namespace Stencil

/-- The characters of a standard in the order of their pointers, with a blank where there is none. -/
structure Index where
  cells : List Char

namespace Index

def blank : Char := ' '

/-- A row of `width` cells. -/
def pad (width : Nat) (row : List Char) : List Char :=
  (row.take width).rightpad width blank

def ofRows (width : Nat) (rows : List String) : Index :=
  ⟨rows.flatMap (fun row => pad width row.toList)⟩

def slice (first count : Nat) (text : List Char) : List Char :=
  (text.drop first).take count

/-- The characters of `count` code points from `point` on. -/
def consecutive (point count : Nat) : List Char :=
  (List.range' point count).map Char.ofNat

/-- Those of them that no row has. -/
def lacking (point count : Nat) (rows : List String) : List Char :=
  let held := (rows.flatMap String.toList).foldl
    (fun marks c => marks.setIfInBounds c.toNat true) (Array.replicate (point + count) false)
  (consecutive point count).filter (fun c => !held.getD c.toNat false)

def char? (index : Index) (pointer : Nat) : Option Char :=
  index.cells[pointer]?.filter (fun c => c != blank)

/-- The first pointer of a character. -/
def pointer? (index : Index) (c : Char) : Option Nat :=
  if c = blank then none else index.cells.idxOf? c

def lastPointer? (index : Index) (c : Char) : Option Nat :=
  if c = blank then none
  else (index.cells.reverse.idxOf? c).map (fun place => index.cells.length - 1 - place)

/-- An index without the characters of `count` pointers from `first` on. -/
def without (index : Index) (first count : Nat) : Index :=
  ⟨index.cells.take first ++ List.replicate count blank ++ index.cells.drop (first + count)⟩

end Index

/-- The octets that tell a row of an index and a cell of the row, in runs of consecutive octets: the
first octet of each run, and how many there are. -/
structure Grid where
  leads : List (Nat × Nat)
  trails : List (Nat × Nat)

namespace Grid

def size : List (Nat × Nat) → Nat
  | [] => 0
  | (_, count) :: rest => count + size rest

def place? (octet : Nat) : List (Nat × Nat) → Option Nat
  | [] => none
  | (first, count) :: rest =>
      if first ≤ octet ∧ octet < first + count then some (octet - first)
      else (place? octet rest).map (count + ·)

def octetAt (place : Nat) : List (Nat × Nat) → Nat
  | [] => 0
  | (first, count) :: rest => if place < count then first + place else octetAt (place - count) rest

def pointer? (grid : Grid) (lead trail : UInt8) : Option Nat :=
  match place? lead.toNat grid.leads, place? trail.toNat grid.trails with
  | some row, some cell => some (row * size grid.trails + cell)
  | _, _ => none

def octets (grid : Grid) (pointer : Nat) : Bytes :=
  [UInt8.ofNat (octetAt (pointer / size grid.trails) grid.leads),
    UInt8.ofNat (octetAt (pointer % size grid.trails) grid.trails)]

end Grid

end Stencil
