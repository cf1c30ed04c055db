import Mathlib.Data.List.Perm.Basic
import Mathlib.Data.String.Basic
import Stencil.Json.Value

/-!
The members of an object that is made from a list. Where each name stands once in the list, the object
has exactly the entries of the list (`ofMembers_perm`), and the order of the list does not matter
(`ofMembers_congr`).
-/

namespace Stencil

namespace Json

/-- Members in the order of their names, each name once. -/
def Ordered (members : List (String × Json)) : Prop :=
  members.Pairwise (fun first second => first.1 < second.1)

theorem insert_perm (name : String) (value : Json) (members : List (String × Json))
    (absent : name ∉ members.map Prod.fst) :
    (insert name value members).Perm ((name, value) :: members) := by
  induction members with
  | nil => exact List.Perm.refl _
  | cons member rest ih =>
      obtain ⟨other, held⟩ := member
      rw [List.map_cons, List.mem_cons, not_or] at absent
      by_cases below : name < other
      · rw [insert, if_pos below]
      · rw [insert, if_neg below, if_neg absent.1]
        exact ((ih absent.2).cons _).trans (List.Perm.swap _ _ _)

theorem insert_ordered (name : String) (value : Json) (members : List (String × Json))
    (absent : name ∉ members.map Prod.fst) (ordered : Ordered members) :
    Ordered (insert name value members) := by
  unfold Ordered at *
  induction members with
  | nil => exact List.pairwise_singleton _ _
  | cons member rest ih =>
      obtain ⟨other, held⟩ := member
      rw [List.map_cons, List.mem_cons, not_or] at absent
      obtain ⟨least, sorted⟩ := List.pairwise_cons.mp ordered
      by_cases below : name < other
      · rw [insert, if_pos below]
        refine List.pairwise_cons.mpr ⟨?_, ordered⟩
        intro entry present
        rcases List.mem_cons.mp present with first | later
        · rw [first]
          exact below
        · exact lt_trans below (least entry later)
      · rw [insert, if_neg below, if_neg absent.1]
        have above : other < name := lt_of_le_of_ne (not_lt.mp below) (Ne.symm absent.1)
        refine List.pairwise_cons.mpr ⟨?_, ih absent.2 sorted⟩
        intro entry present
        rcases List.mem_cons.mp ((insert_perm name value rest absent.2).mem_iff.mp present)
          with new | old
        · rw [new]
          exact above
        · exact least entry old

/-- Members gathered one after another: what was there and what comes, in the order of names. -/
theorem foldl_insert (members held : List (String × Json))
    (distinct : ((members ++ held).map Prod.fst).Nodup) (ordered : Ordered held) :
    Ordered (members.foldl (fun held member => insert member.1 member.2 held) held) ∧
      (members.foldl (fun held member => insert member.1 member.2 held) held).Perm
        (members ++ held) := by
  induction members generalizing held with
  | nil => exact ⟨ordered, List.Perm.refl _⟩
  | cons member rest ih =>
      obtain ⟨name, value⟩ := member
      have absent : name ∉ held.map Prod.fst := by
        rw [List.cons_append, List.map_cons, List.nodup_cons, List.map_append] at distinct
        exact fun present => distinct.1 (List.mem_append_right _ present)
      have moved : (rest ++ insert name value held).Perm ((name, value) :: rest ++ held) :=
        ((insert_perm name value held absent).append_left rest).trans List.perm_middle
      have later := (moved.map Prod.fst).nodup_iff.mpr distinct
      obtain ⟨sorted, gathered⟩ :=
        ih (insert name value held) later (insert_ordered name value held absent ordered)
      exact ⟨sorted, gathered.trans moved⟩

/-- An object has exactly the entries that it is made from. -/
theorem ofMembers_perm (members : List (String × Json))
    (distinct : (members.map Prod.fst).Nodup) :
    ∃ held, ofMembers members = .object held ∧ Ordered held ∧ held.Perm members := by
  obtain ⟨ordered, gathered⟩ :=
    foldl_insert members [] (by rw [List.append_nil]; exact distinct) List.Pairwise.nil
  rw [List.append_nil] at gathered
  exact ⟨_, rfl, ordered, gathered⟩

/-- The order in which the entries of an object come does not matter. -/
theorem ofMembers_congr (members others : List (String × Json)) (same : others.Perm members)
    (distinct : (members.map Prod.fst).Nodup) : ofMembers others = ofMembers members := by
  obtain ⟨held, made, ordered, gathered⟩ := ofMembers_perm members distinct
  obtain ⟨other, otherMade, otherOrdered, otherGathered⟩ :=
    ofMembers_perm others ((same.map Prod.fst).nodup_iff.mpr distinct)
  rw [made, otherMade]
  refine congrArg Json.object (List.Perm.eq_of_pairwise ?_ otherOrdered ordered
    (otherGathered.trans (same.trans gathered.symm)))
  intro first second _ _ below above
  exact absurd below (lt_asymm above)

end Json

end Stencil
