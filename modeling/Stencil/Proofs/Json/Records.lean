import Stencil.Proofs.Json.Kinds

/-!
Reading records. Where the fields of a record have meanings, an object is read exactly if each name stands
once and each member has a meaning (`Fits`), and then the record is changed by the members one after another
(`read_takes`); every other object is refused (`read_refuses`).
-/

namespace Stencil.Json

theorem SpellsMembers.length_le {first : Bool} {members : List (String × Json)} {text : List Char}
    (spelled : SpellsMembers first members text) : members.length ≤ text.length := by
  induction members generalizing first text with
  | nil => exact Nat.zero_le _
  | cons member members ih =>
      cases spelled with
      | cons _ _ _ _ _ _ others =>
          have behind := ih others
          simp only [List.length_append, List.length_cons]
          omega

/-- The fuel that an object is read with is enough. -/
theorem SpellsMembers.length_lt {first : Bool} {members : List (String × Json)} {text : List Char}
    (spelled : SpellsMembers first members text) (rest : List Char) :
    members.length < (text ++ rest).length + 1 := by
  have short := spelled.length_le
  rw [List.length_append]
  omega

namespace Record

variable {σ : Type}

/-- What the fields of a record make of values. -/
abbrev Meaning (σ : Type) := String → Json → Option (σ → σ)

/-- A record changed by a member, or as it was where the member has no meaning. -/
def change (meaning : Meaning σ) (value : σ) (member : String × Json) : σ :=
  (meaning member.1 member.2).getD id value

theorem change_eq {meaning : Meaning σ} {name : String} {json : Json} {put : σ → σ}
    (means : meaning name json = some put) (value : σ) :
    change meaning value (name, json) = put value := by
  unfold change
  rw [means, Option.getD_some]

/-- Members with names of their own, none of them met before, that all have a meaning. -/
structure Fits (meaning : Meaning σ) (seen : List String) (members : List (String × Json)) :
    Prop where
  once : (members.map Prod.fst).Nodup
  fresh : ∀ member ∈ members, member.1 ∉ seen
  known : ∀ member ∈ members, (meaning member.1 member.2).isSome = true

/-- What has a meaning is read by the field of its name. -/
def Takes (record : Record σ) (meaning : Meaning σ) : Prop :=
  ∀ name value put, meaning name value = some put →
    ∃ slot, record.slots.find? (fun slot => slot.name == name) = some slot ∧
      slot.read.Reads value put

/-- What has a meaning is read by the field of its name, and for anything else there is no field or the
field refuses it. -/
structure Decodes (record : Record σ) (meaning : Meaning σ) : Prop where
  takes : record.Takes meaning
  refuses : ∀ name value slot, meaning name value = none →
    record.slots.find? (fun slot => slot.name == name) = some slot → slot.read.Refuses value

/-! ### One member -/

theorem fits_cons (meaning : Meaning σ) (seen : List String) (name : String) (value : Json)
    (members : List (String × Json)) :
    Fits meaning seen ((name, value) :: members) ↔
      name ∉ seen ∧ (meaning name value).isSome = true ∧ Fits meaning (name :: seen) members := by
  constructor
  · rintro ⟨once, fresh, known⟩
    obtain ⟨absent, later⟩ := List.nodup_cons.mp once
    refine ⟨fresh _ List.mem_cons_self, known _ List.mem_cons_self, later, ?_, ?_⟩
    · intro member behind again
      rcases List.mem_cons.mp again with same | before
      · exact absent (List.mem_map.mpr ⟨member, behind, same⟩)
      · exact fresh member (List.mem_cons_of_mem _ behind) before
    · intro member behind
      exact known member (List.mem_cons_of_mem _ behind)
  · rintro ⟨new, own, once, fresh, known⟩
    refine ⟨List.nodup_cons.mpr ⟨?_, once⟩, ?_, ?_⟩
    · intro again
      obtain ⟨member, behind, same⟩ := List.mem_map.mp again
      exact fresh member behind (List.mem_cons.mpr (Or.inl same))
    · exact List.forall_mem_cons.mpr
        ⟨new, fun member behind => List.not_mem_of_not_mem_cons (fresh member behind)⟩
    · exact List.forall_mem_cons.mpr ⟨own, known⟩

theorem memberLoop_end {gap : List Char} (record : Record σ) (spaces : Spaces gap) (fuel : Nat)
    (first : Bool) (seen : List String) (value : σ) (tail : List Char) :
    record.memberLoop (fuel + 1) first seen value (gap ++ '\x7d' :: tail) =
      .ok (seen, value, gap ++ '\x7d' :: tail) := by
  rw [memberLoop, Reader.nextName_end spaces first tail]

theorem memberLoop_member {gap lead label before : List Char} {name : String} (record : Record σ)
    (spaces : Spaces gap) (leading : Spaces lead) (named : SpellsString name label)
    (between : Spaces before) (fuel : Nat) (first : Bool) (seen : List String) (value : σ)
    (rest : List Char) :
    record.memberLoop (fuel + 1) first seen value
        (gap ++ (separator first ++ (lead ++ (label ++ (before ++ ':' :: rest))))) =
      match record.slots.find? (fun slot => slot.name == name) with
      | none => .error (.loose (.unknownField name record.names) (before ++ ':' :: rest))
      | some slot =>
          if name ∈ seen then .error (.loose (.duplicateField name) (before ++ ':' :: rest))
          else
            match slot.read rest with
            | .error fault => .error (.placed fault)
            | .ok (put, rest) => record.memberLoop fuel false (name :: seen) (put value) rest := by
  rw [memberLoop, Reader.nextName_member spaces leading named]
  dsimp only
  have colon := Reader.colon_end between rest
  cases record.slots.find? (fun slot => slot.name == name) with
  | none => rfl
  | some slot =>
      by_cases again : name ∈ seen
      · exact (if_pos (List.contains_iff_mem.mpr again)).trans (if_pos again).symm
      · refine (if_neg (mt List.contains_iff_mem.mp again)).trans (Eq.trans ?_ (if_neg again).symm)
        exact colon ▸ rfl

/-! ### The members of an object -/

/-- Members that fit are read up to the end of the object, each changing the record. -/
theorem memberLoop_takes {record : Record σ} {meaning : Meaning σ} (takes : record.Takes meaning)
    (members : List (String × Json)) (fuel : Nat) (first : Bool) (seen : List String) (value : σ)
    (text tail : List Char) (fits : Fits meaning seen members)
    (spelled : SpellsMembers first members text) (enough : members.length < fuel) :
    ∃ gap names, Spaces gap ∧ record.memberLoop fuel first seen value (text ++ '\x7d' :: tail) =
      .ok (names, members.foldl (change meaning) value, gap ++ '\x7d' :: tail) := by
  -- The names that were met and the record change with each member, so the induction is over both.
  induction members generalizing fuel first seen value text with
  | nil =>
      obtain ⟨less, rfl⟩ := Nat.exists_eq_succ_of_ne_zero (Nat.ne_of_gt enough)
      cases spelled with
      | nil spaces =>
          exact ⟨text, seen, spaces, memberLoop_end record spaces less first seen value tail⟩
  | cons member members ih =>
      obtain ⟨less, rfl⟩ := Nat.exists_eq_succ_of_ne_zero (Nat.ne_of_gt (Nat.zero_lt_of_lt enough))
      cases spelled with
      | @cons _ name json _ gap lead label before after text rest spaces leading named between
          behind own others =>
          obtain ⟨new, known, later⟩ := (fits_cons ..).mp fits
          obtain ⟨put, means⟩ := Option.isSome_iff_exists.mp known
          obtain ⟨slot, found, reads⟩ := takes name json put means
          obtain ⟨last, names, lastSpaces, read⟩ :=
            ih less false (name :: seen) (put value) rest later others (Nat.lt_of_succ_lt_succ enough)
          refine ⟨last, names, lastSpaces, ?_⟩
          simp only [List.append_assoc, List.cons_append]
          rw [memberLoop_member record spaces leading named between, found, List.foldl_cons,
            change_eq means]
          dsimp only
          rw [if_neg new, reads after text (rest ++ '\x7d' :: tail) behind own]
          exact read

/-- The loop stops at the first member that does not fit. -/
theorem memberLoop_refuses {record : Record σ} {meaning : Meaning σ}
    (decodes : record.Decodes meaning) (members : List (String × Json)) (fuel : Nat) (first : Bool)
    (seen : List String) (value : σ) (text tail : List Char) (unfit : ¬ Fits meaning seen members)
    (spelled : SpellsMembers first members text) (enough : members.length < fuel) :
    ∃ trouble, record.memberLoop fuel first seen value (text ++ '\x7d' :: tail) =
      .error trouble := by
  induction members generalizing fuel first seen value text with
  | nil => exact absurd ⟨List.nodup_nil, List.forall_mem_nil _, List.forall_mem_nil _⟩ unfit
  | cons member members ih =>
      obtain ⟨less, rfl⟩ := Nat.exists_eq_succ_of_ne_zero (Nat.ne_of_gt (Nat.zero_lt_of_lt enough))
      cases spelled with
      | @cons _ name json _ gap lead label before after text rest spaces leading named between
          behind own others =>
          simp only [List.append_assoc, List.cons_append]
          rw [memberLoop_member record spaces leading named between]
          cases found : record.slots.find? (fun slot => slot.name == name) with
          | none => exact ⟨_, rfl⟩
          | some slot =>
              dsimp only
              by_cases again : name ∈ seen
              · exact ⟨_, if_pos again⟩
              rw [if_neg again]
              cases means : meaning name json with
              | none =>
                  obtain ⟨fault, refused⟩ := decodes.refuses name json slot means found after text
                    (rest ++ '\x7d' :: tail) behind own
                  exact ⟨.placed fault, by rw [refused]⟩
              | some put =>
                  obtain ⟨_, same, reads⟩ := decodes.takes name json put means
                  cases found.symm.trans same
                  have later : ¬ Fits meaning (name :: seen) members := fun fits =>
                    unfit ((fits_cons ..).mpr ⟨again, by rw [means]; rfl, fits⟩)
                  rw [reads after text (rest ++ '\x7d' :: tail) behind own]
                  exact ih less false (name :: seen) (put value) rest later others
                    (Nat.lt_of_succ_lt_succ enough)

/-! ### Objects -/

variable {α : Type} (finish : σ → Except Fault.Kind α)

theorem read_brace {gap : List Char} (record : Record σ) (spaces : Spaces gap)
    (inner tail : List Char) :
    record.read finish (gap ++ ('\x7b' :: (inner ++ ['\x7d']) ++ tail)) =
      match record.memberLoop ((inner ++ '\x7d' :: tail).length + 1) true [] record.start
          (inner ++ '\x7d' :: tail) with
      | .error trouble => .error (settle '\x7d' trouble)
      | .ok (_, value, rest) =>
          match finish value with
          | .error kind => .error (settle '\x7d' (.loose kind rest))
          | .ok result =>
              match Reader.closeObject rest with
              | .ok rest => .ok (result, rest)
              | .error fault => .error fault := by
  unfold read
  rw [List.cons_append, Reader.skipSpace_gap spaces _ _ (by decide), List.append_assoc,
    List.singleton_append]
  rfl

theorem read_takes {record : Record σ} {meaning : Meaning σ} (takes : record.Takes meaning)
    (members : List (String × Json)) (result : α) (fits : Fits meaning [] members)
    (finished : finish (members.foldl (change meaning) record.start) = .ok result) :
    (record.read finish).Reads (.object members) result := by
  intro gap text tail spaces spelled
  cases spelled with
  | @object _ inner parts =>
      obtain ⟨last, names, lastSpaces, read⟩ :=
        memberLoop_takes takes members _ true [] record.start inner tail fits parts
          (parts.length_lt _)
      rw [read_brace finish record spaces, read]
      dsimp only
      rw [finished]
      dsimp only
      rw [Reader.closeObject_end lastSpaces]

theorem read_refuses {record : Record σ} {meaning : Meaning σ} (decodes : record.Decodes meaning)
    (members : List (String × Json)) (unfit : ¬ Fits meaning [] members) :
    (record.read finish).Refuses (.object members) := by
  intro gap text tail spaces spelled
  cases spelled with
  | @object _ inner parts =>
      obtain ⟨trouble, refused⟩ :=
        memberLoop_refuses decodes members _ true [] record.start inner tail unfit parts
          (parts.length_lt _)
      exact ⟨settle '\x7d' trouble, by rw [read_brace finish record spaces, refused]⟩

end Record

/-! ### Whole texts -/

namespace Reader

variable {α : Type}

theorem whole_reads {reader : Reader α} {value : Json} {result : α} {text : List Char}
    (reads : reader.Reads value result) (document : Document value text) :
    whole reader text = .ok result := by
  cases document with
  | @around before inner after leading spelled trailing =>
      have none : skipSpace after = [] := by
        have skipped := skipSpace_spaces trailing []
        rw [List.append_nil] at skipped
        exact skipped
      unfold whole
      rw [reads before inner after leading spelled]
      dsimp only
      rw [none]

theorem whole_refuses {reader : Reader α} {value : Json} {text : List Char}
    (refuses : reader.Refuses value) (document : Document value text) :
    ∃ fault, whole reader text = .error fault := by
  cases document with
  | @around before inner after leading spelled trailing =>
      obtain ⟨fault, refused⟩ := refuses before inner after leading spelled
      exact ⟨fault, by rw [whole, refused]⟩

end Reader

end Stencil.Json
