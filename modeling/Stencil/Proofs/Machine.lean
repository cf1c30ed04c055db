/-!
Runs of a machine that takes operations one after another and answers each of them. `turns` is the
record of a run; `turns_split` finds the state in which any turn of it was taken, `turns_invariant`
carries a property of record and state along a run, `outcomes_filter` cuts a run down to the
operations of one side, and `outcomes_eq_of_related` lets two machines run side by side.
-/

namespace Stencil

/-- One operation with its outcome and the states around it. -/
structure Turn (σ α ω : Type) where
  before : σ
  operation : α
  outcome : ω
  after : σ

namespace Machine

variable {σ α ω : Type}

def turn (step : σ → α → ω × σ) (state : σ) (operation : α) : Turn σ α ω :=
  ⟨state, operation, (step state operation).1, (step state operation).2⟩

def turns (step : σ → α → ω × σ) : σ → List α → List (Turn σ α ω)
  | _, [] => []
  | state, operation :: rest =>
      turn step state operation :: turns step (step state operation).2 rest

def finish (step : σ → α → ω × σ) (state : σ) (operations : List α) : σ :=
  operations.foldl (fun held operation => (step held operation).2) state

theorem finish_cons (step : σ → α → ω × σ) (state : σ) (operation : α) (rest : List α) :
    finish step state (operation :: rest) = finish step (step state operation).2 rest :=
  rfl

/-- Every turn of a run was taken in the state that the turns before it lead to. -/
theorem turns_split (step : σ → α → ω × σ) (state : σ) (operations : List α)
    (past : List (Turn σ α ω)) (now : Turn σ α ω) (future : List (Turn σ α ω))
    (split : turns step state operations = past ++ now :: future) :
    ∃ before operation after, operations = before ++ operation :: after ∧
      past = turns step state before ∧
      now = turn step (finish step state before) operation ∧
      future = turns step now.after after := by
  induction operations generalizing state past with
  | nil => simp [turns] at split
  | cons operation rest ih =>
      rw [turns] at split
      cases past with
      | nil =>
          rw [List.nil_append, List.cons.injEq] at split
          refine ⟨[], operation, rest, rfl, rfl, split.1.symm, ?_⟩
          rw [← split.1, ← split.2]
          rfl
      | cons first others =>
          rw [List.cons_append, List.cons.injEq] at split
          obtain ⟨before, chosen, after, operationsEq, pastEq, nowEq, futureEq⟩ :=
            ih (step state operation).2 others split.2
          refine ⟨operation :: before, chosen, after, ?_, ?_, nowEq, futureEq⟩
          · rw [operationsEq, List.cons_append]
          · rw [turns, ← pastEq, split.1]

/-- What every turn adds to the record keeps holds of the whole record. -/
theorem turns_invariant (step : σ → α → ω × σ) (keeps : List (Turn σ α ω) → σ → Prop)
    (preserved : ∀ history state operation, keeps history state →
      keeps (history ++ [turn step state operation]) (step state operation).2)
    (operations : List α) (history : List (Turn σ α ω)) (state : σ) (held : keeps history state) :
    keeps (history ++ turns step state operations) (finish step state operations) := by
  induction operations generalizing history state with
  | nil =>
      rw [turns, List.append_nil]
      exact held
  | cons operation rest ih =>
      rw [turns, List.append_cons]
      exact ih (history ++ [turn step state operation]) (step state operation).2
        (preserved history state operation held)

theorem finish_invariant (step : σ → α → ω × σ) (keeps : σ → Prop)
    (preserved : ∀ state operation, keeps state → keeps (step state operation).2)
    (operations : List α) (state : σ) (held : keeps state) :
    keeps (finish step state operations) := by
  induction operations generalizing state with
  | nil => exact held
  | cons operation rest ih =>
      exact ih (step state operation).2 (preserved state operation held)

/-! ### Runs seen from one side -/

/-- The operations of a run with what they were answered. -/
def outcomes (step : σ → α → ω × σ) (state : σ) (operations : List α) : List (α × ω) :=
  (turns step state operations).map (fun turn => (turn.operation, turn.outcome))

theorem outcomes_cons (step : σ → α → ω × σ) (state : σ) (operation : α) (rest : List α) :
    outcomes step state (operation :: rest) =
      (operation, (step state operation).1) :: outcomes step (step state operation).2 rest :=
  rfl

theorem map_fst_outcomes (step : σ → α → ω × σ) (state : σ) (operations : List α) :
    (outcomes step state operations).map Prod.fst = operations := by
  induction operations generalizing state with
  | nil => rfl
  | cons operation rest ih => rw [outcomes_cons, List.map_cons, ih]

/-- Where one side sees only a part of the state, its own operations act on that part alone, and no
other operation touches the part, it is answered as a machine is that has only the part. -/
theorem outcomes_filter {τ : Type} (step : σ → α → ω × σ) (solo : τ → α → ω × τ)
    (sight : σ → τ) (own : α → Bool) (keeps : σ → Prop)
    (preserved : ∀ state operation, keeps state → keeps (step state operation).2)
    (acts : ∀ state operation, keeps state → own operation = true →
      (step state operation).1 = (solo (sight state) operation).1 ∧
        sight (step state operation).2 = (solo (sight state) operation).2)
    (rests : ∀ state operation, keeps state → own operation = false →
      sight (step state operation).2 = sight state)
    (operations : List α) (state : σ) (held : keeps state) :
    (outcomes step state operations).filter (fun entry => own entry.1) =
      outcomes solo (sight state) (operations.filter own) := by
  induction operations generalizing state with
  | nil => rfl
  | cons operation rest ih =>
      have later := ih (step state operation).2 (preserved state operation held)
      rw [outcomes_cons]
      cases mine : own operation with
      | true =>
          obtain ⟨answered, seen⟩ := acts state operation held mine
          rw [List.filter_cons_of_pos (by exact mine), List.filter_cons_of_pos mine, later,
            outcomes_cons, answered, seen]
      | false =>
          have seen := rests state operation held mine
          rw [List.filter_cons_of_neg (by simp [mine]), List.filter_cons_of_neg (by simp [mine]),
            later, seen]

/-- Two machines that answer alike and stay related, operation by operation, answer a run alike. -/
theorem outcomes_eq_of_related {τ : Type} (step : σ → α → ω × σ) (other : τ → α → ω × τ)
    (related : σ → τ → Prop) (allowed : α → Prop)
    (agrees : ∀ state mate operation, related state mate → allowed operation →
      (step state operation).1 = (other mate operation).1 ∧
        related (step state operation).2 (other mate operation).2)
    (operations : List α) (all : ∀ operation ∈ operations, allowed operation) (state : σ) (mate : τ)
    (start : related state mate) :
    outcomes step state operations = outcomes other mate operations := by
  induction operations generalizing state mate with
  | nil => rfl
  | cons operation rest ih =>
      obtain ⟨answered, next⟩ := agrees state mate operation start (all operation List.mem_cons_self)
      have later := ih (fun own member => all own (List.mem_cons_of_mem _ member)) _ _ next
      rw [outcomes_cons, outcomes_cons, answered, later]

end Machine

end Stencil
