import Mathlib.Data.List.Basic
import Stencil.Proofs.Engine.Session

/-!
Who has which engine, read off the record of a run alone. `tenant` follows what each context was given
last and has not given back, and `isSome_tenant_iff` says when there is such an engine.
-/

namespace Stencil

namespace Provider

namespace Session

variable {ε : Type}

/-- The context that was given an engine, and the engine. -/
def given? (turn : Turn (Session ε) Operation Outcome) : Option (Nat × EngineHandle) :=
  match turn.operation, turn.outcome with
  | .engine context, .engine (.ok engine) => some (context.id, engine)
  | _, _ => none

/-- The context that was released, and whether it had an engine. -/
def freed? (turn : Turn (Session ε) Operation Outcome) : Option (Nat × Bool) :=
  match turn.operation, turn.outcome with
  | .release context, .released found => some (context.id, found)
  | _, _ => none

def given (history : List (Turn (Session ε) Operation Outcome)) : List (Nat × EngineHandle) :=
  history.filterMap given?

/-- No release of a context. -/
def Keeps (context : Nat) (history : List (Turn (Session ε) Operation Outcome)) : Prop :=
  ∀ turn ∈ history, ∀ found, freed? turn ≠ some (context, found)

/-- The engine of a context after a turn, where it was `current` before. -/
def tenantAfter (context : Nat) (current : Option EngineHandle)
    (turn : Turn (Session ε) Operation Outcome) : Option EngineHandle :=
  match given? turn with
  | some (other, engine) => if other = context then some engine else current
  | none =>
      match freed? turn with
      | some (other, _) => if other = context then none else current
      | none => current

/-- The engine that a context was given last and has not given back. -/
def tenant (context : Nat) (current : Option EngineHandle)
    (history : List (Turn (Session ε) Operation Outcome)) : Option EngineHandle :=
  history.foldl (tenantAfter context) current

/-! ### Reading a record -/

theorem tenant_append (context : Nat) (current : Option EngineHandle)
    (first second : List (Turn (Session ε) Operation Outcome)) :
    tenant context current (first ++ second) =
      tenant context (tenant context current first) second :=
  List.foldl_append

theorem tenantAfter_given (context other : Nat) (engine : EngineHandle)
    (current : Option EngineHandle) (turn : Turn (Session ε) Operation Outcome)
    (gave : given? turn = some (other, engine)) :
    tenantAfter context current turn = if other = context then some engine else current := by
  unfold tenantAfter
  rw [gave]

theorem tenantAfter_freed (context other : Nat) (found : Bool) (current : Option EngineHandle)
    (turn : Turn (Session ε) Operation Outcome) (gaveNone : given? turn = none)
    (released : freed? turn = some (other, found)) :
    tenantAfter context current turn = if other = context then none else current := by
  unfold tenantAfter
  rw [gaveNone, released]

theorem tenantAfter_quiet (context : Nat) (current : Option EngineHandle)
    (turn : Turn (Session ε) Operation Outcome) (gaveNone : given? turn = none)
    (freedNone : freed? turn = none) : tenantAfter context current turn = current := by
  unfold tenantAfter
  rw [gaveNone, freedNone]

theorem given?_of_freed? (turn : Turn (Session ε) Operation Outcome) (context : Nat) (found : Bool)
    (released : freed? turn = some (context, found)) : given? turn = none := by
  obtain ⟨before, operation, outcome, after⟩ := turn
  cases operation with
  | release other => rfl
  | enter name => simp [freed?] at released
  | clone other => simp [freed?] at released
  | drop other => simp [freed?] at released
  | engine other => simp [freed?] at released
  | purge => simp [freed?] at released
  | write files => simp [freed?] at released

theorem tenantAfter_eq_some (context : Nat) (current : Option EngineHandle)
    (turn : Turn (Session ε) Operation Outcome) (engine : EngineHandle)
    (owned : tenantAfter context current turn = some engine) :
    current = some engine ∨ given? turn = some (context, engine) := by
  cases gave : given? turn with
  | some pair =>
      obtain ⟨other, handle⟩ := pair
      rw [tenantAfter_given context other handle current turn gave] at owned
      split at owned
      · next same => exact Or.inr (by rw [same, Option.some.inj owned])
      · exact Or.inl owned
  | none =>
      cases released : freed? turn with
      | some pair =>
          obtain ⟨other, found⟩ := pair
          rw [tenantAfter_freed context other found current turn gave released] at owned
          split at owned
          · cases owned
          · exact Or.inl owned
      | none =>
          rw [tenantAfter_quiet context current turn gave released] at owned
          exact Or.inl owned

theorem mem_given_iff (history : List (Turn (Session ε) Operation Outcome)) (context : Nat)
    (engine : EngineHandle) :
    (context, engine) ∈ given history ↔
      ∃ turn ∈ history, given? turn = some (context, engine) :=
  List.mem_filterMap

theorem mem_given_of_tenant (context : Nat) (current : Option EngineHandle)
    (history : List (Turn (Session ε) Operation Outcome)) (engine : EngineHandle)
    (owned : tenant context current history = some engine) :
    current = some engine ∨ (context, engine) ∈ given history := by
  induction history generalizing current with
  | nil => exact Or.inl owned
  | cons turn rest ih =>
      have later : tenant context (tenantAfter context current turn) rest = some engine := owned
      rcases ih _ later with now | after
      · rcases tenantAfter_eq_some context current turn engine now with before | gave
        · exact Or.inl before
        · exact Or.inr ((mem_given_iff _ context engine).mpr ⟨turn, List.mem_cons_self, gave⟩)
      · obtain ⟨chosen, member, gave⟩ := (mem_given_iff rest context engine).mp after
        exact Or.inr ((mem_given_iff _ context engine).mpr
          ⟨chosen, List.mem_cons_of_mem turn member, gave⟩)

theorem tenant_eq_none (context : Nat) (history : List (Turn (Session ε) Operation Outcome))
    (never : ∀ turn ∈ history, ∀ engine, given? turn ≠ some (context, engine)) :
    tenant context none history = none := by
  cases owned : tenant context none history with
  | none => rfl
  | some engine =>
      rcases mem_given_of_tenant context none history engine owned with impossible | member
      · cases impossible
      · obtain ⟨turn, present, gave⟩ := List.mem_filterMap.mp member
        exact absurd gave (never turn present engine)

/-- A context was given an engine, and was not released afterwards. -/
def Holds (context : Nat) (history : List (Turn (Session ε) Operation Outcome)) : Prop :=
  ∃ earlier turn since engine, history = earlier ++ turn :: since ∧
    given? turn = some (context, engine) ∧ Keeps context since

theorem keeps_cons (context : Nat) (turn : Turn (Session ε) Operation Outcome)
    (rest : List (Turn (Session ε) Operation Outcome)) :
    Keeps context (turn :: rest) ↔
      (∀ found, freed? turn ≠ some (context, found)) ∧ Keeps context rest := by
  simp [Keeps]

theorem holds_cons (context : Nat) (turn : Turn (Session ε) Operation Outcome)
    (rest : List (Turn (Session ε) Operation Outcome)) :
    Holds context (turn :: rest) ↔
      ((∃ engine, given? turn = some (context, engine)) ∧ Keeps context rest) ∨
        Holds context rest := by
  constructor
  · rintro ⟨earlier, chosen, since, engine, parts, gave, quiet⟩
    cases earlier with
    | nil =>
        rw [List.nil_append, List.cons.injEq] at parts
        rw [parts.1, parts.2]
        exact Or.inl ⟨⟨engine, gave⟩, quiet⟩
    | cons first others =>
        rw [List.cons_append, List.cons.injEq] at parts
        exact Or.inr ⟨others, chosen, since, engine, parts.2, gave, quiet⟩
  · rintro (⟨⟨engine, gave⟩, quiet⟩ | ⟨earlier, chosen, since, engine, parts, gave, quiet⟩)
    · exact ⟨[], turn, rest, engine, rfl, gave, quiet⟩
    · refine ⟨turn :: earlier, chosen, since, engine, ?_, gave, quiet⟩
      rw [parts, List.cons_append]

/-- A context has an engine exactly if it was given one and has not been released since. -/
theorem isSome_tenant_iff (context : Nat) (current : Option EngineHandle)
    (history : List (Turn (Session ε) Operation Outcome)) :
    (tenant context current history).isSome = true ↔
      (current.isSome = true ∧ Keeps context history) ∨ Holds context history := by
  induction history generalizing current with
  | nil => simp [tenant, Keeps, Holds]
  | cons turn rest ih =>
      have unfolded : tenant context current (turn :: rest) =
          tenant context (tenantAfter context current turn) rest := rfl
      rw [unfolded, ih, holds_cons, keeps_cons]
      cases gave : given? turn with
      | some pair =>
          obtain ⟨other, engine⟩ := pair
          have freedNone : ∀ found, freed? turn ≠ some (context, found) := by
            intro found released
            rw [given?_of_freed? turn context found released] at gave
            cases gave
          rw [tenantAfter_given context other engine current turn gave]
          by_cases same : other = context
          · simp [same]
            tauto
          · simp [same, freedNone]
      | none =>
          cases released : freed? turn with
          | some pair =>
              obtain ⟨other, found⟩ := pair
              rw [tenantAfter_freed context other found current turn gave released]
              by_cases same : other = context
              · simp [same]
              · simp [same]
          | none =>
              rw [tenantAfter_quiet context current turn gave released]
              simp

end Session

end Provider

end Stencil
