import Stencil.Proofs.Entries
import Stencil.Proofs.View.Origin

/-!
What a resolver keeps. Each operation is told by what it does to the views that are looked up
(`lookup_forget`, `resolve_kept`, `resolve_built`), and a view that is built is new and has the address
of its name (`buildNew_ok`).
-/

namespace Stencil

variable {ε : Type}

namespace Resolver

/-! ### What is kept -/

section

variable (resolver : Resolver ε) (name : String)

theorem mem_names_iff :
    name ∈ resolver.kept.map Prod.fst ↔ (resolver.kept.lookup name).isSome = true :=
  Entries.mem_names_iff name resolver.kept

theorem forget_found : (resolver.forget name).1 = (resolver.kept.lookup name).isSome := by
  unfold forget
  rw [Bool.eq_iff_iff, ← mem_names_iff, List.any_eq_true, List.mem_map]
  simp only [decide_eq_true_eq]

theorem lookup_forget (other : String) :
    (resolver.forget name).2.kept.lookup other =
      if other = name then none else resolver.kept.lookup other :=
  Entries.lookup_without name other resolver.kept

theorem keep_absent (id : Nat) (absent : resolver.kept.lookup name = none) :
    resolver.keep name id = (id, { resolver with kept := resolver.kept ++ [(name, id)] }) := by
  unfold keep
  rw [absent]

end

/-! ### Resolving -/

/-- What a resolver adds to the views that it keeps when it builds one. -/
def addition (resolver : Resolver ε) (name : String) (answer : Except ViewError Nat) :
    List (String × Nat) :=
  if resolver.keeps then (answer.toOption.map fun id => (name, id)).toList else []

theorem addition_ok (resolver : Resolver ε) (keeps : resolver.keeps = true) (name : String)
    (id : Nat) : resolver.addition name (.ok id) = [(name, id)] :=
  if_pos keeps

theorem addition_error (resolver : Resolver ε) (name : String) (fault : ViewError) :
    resolver.addition name (.error fault) = [] :=
  ite_self []

theorem addition_unkept (resolver : Resolver ε) (keeps : resolver.keeps = false) (name : String)
    (answer : Except ViewError Nat) : resolver.addition name answer = [] := by
  unfold addition
  rw [keeps]
  rfl

/-- A view is only added under a name that has none. -/
theorem nodup_addition (resolver : Resolver ε) (distinct : (resolver.kept.map Prod.fst).Nodup)
    (name : String) (answer : Except ViewError Nat)
    (absent : resolver.keeps = true → resolver.kept.lookup name = none) :
    ((resolver.kept ++ resolver.addition name answer).map Prod.fst).Nodup := by
  cases keeps : resolver.keeps with
  | false =>
      rw [resolver.addition_unkept keeps, List.append_nil]
      exact distinct
  | true =>
      cases answer with
      | error fault =>
          rw [resolver.addition_error, List.append_nil]
          exact distinct
      | ok id =>
          rw [resolver.addition_ok keeps, List.map_append, List.map_singleton]
          refine List.nodup_append.mpr ⟨distinct, List.pairwise_singleton _ name, ?_⟩
          intro key member other added same
          rw [same, List.mem_singleton.mp added, mem_names_iff, absent keeps] at member
          cases member

section

variable [ScriptEngine ε] (resolver : Resolver ε) (name : String) (site : Site ε)

theorem resolve_kept (keeps : resolver.keeps = true) (id : Nat)
    (found : resolver.kept.lookup name = some id) :
    resolver.resolve name site = (.ok id, resolver, site) := by
  unfold resolve
  rw [if_pos keeps, found]

theorem resolve_built (absent : resolver.keeps = true → resolver.kept.lookup name = none) :
    resolver.resolve name site =
      ((resolver.buildNew name site).1,
        { resolver with
          kept := resolver.kept ++ resolver.addition name (resolver.buildNew name site).1 },
        (resolver.buildNew name site).2) := by
  unfold resolve addition
  by_cases keeps : resolver.keeps = true
  · rw [if_pos keeps, if_pos keeps, absent keeps]
    rcases resolver.buildNew name site with ⟨answer, last⟩
    cases answer with
    | error fault => simp [Except.toOption]
    | ok id =>
        dsimp only
        rw [resolver.keep_absent name id (absent keeps)]
        rfl
  · rw [if_neg keeps, if_neg keeps, List.append_nil]

/-- A view that is built for a name is new, and has the address of the name. -/
theorem buildNew_ok (id : Nat) (built : (resolver.buildNew name site).1 = .ok id) :
    id = site.views.length ∧
      ∃ view, (resolver.buildNew name site).2.view? id = some view ∧
        view.url = resolver.url name := by
  unfold buildNew at built ⊢
  rcases site.build_views resolver.environment
      { resolver.builder with url := some (resolver.url name) } with
    ⟨fault, refused, _⟩ | ⟨plan, provider, planned, answered, placed⟩
  · rw [refused] at built
    cases built
  · rw [answered] at built
    have number : id = site.views.length := (Except.ok.inj built).symm
    refine ⟨number, plan.view provider, ?_, ?_⟩
    · unfold Site.view?
      rw [placed, number, List.getElem?_concat_length]
    · have address := ((ViewBuilder.plan_eq_ok_iff _ _ _ _).mp planned).1
      rw [Option.filter_eq_some_iff] at address
      exact (Option.some.inj address.1).symm

end

theorem url_injective (resolver : Resolver ε) {name other : String}
    (same : resolver.url name = resolver.url other) : name = other := by
  unfold url at same
  rw [String.append_left_inj, String.append_right_inj] at same
  exact same

end Resolver

end Stencil
