import Mathlib.Data.List.Induction
import Stencil.Proofs.View.Keeping

/-!
A resolver at work. Names are resolved and forgotten in any order, while the views are used and the
files change. `Session.view?` reads off the record of a run which view was given last for a name and
not forgotten since, and `Session.Sound`, which every step keeps, says that a resolver keeps just these
views.
-/

namespace Stencil

variable {ε : Type}

namespace Resolver

/-- What can be asked of a resolver, and what can be done on its site. -/
inductive Operation (ε : Type) where
  | resolve (name : String)
  | forget (name : String)
  | clear
  | count
  | work (operation : Site.Operation ε)

inductive Outcome where
  | resolved (answer : Except ViewError Nat)
  | forgot (found : Bool)
  | counted (count : Nat)
  | worked (outcome : Site.Outcome)
  | done

structure Session (ε : Type) where
  resolver : Resolver (Logged ε)
  site : Site (Logged ε)

namespace Session

/-- The view of a name after a turn, where it was `current` before. -/
def viewAfter (name : String) (current : Option Nat)
    (turn : Turn (Session ε) (Operation ε) Outcome) : Option Nat :=
  match turn.operation, turn.outcome with
  | .resolve other, .resolved (.ok id) => if other = name then some id else current
  | .forget other, _ => if other = name then none else current
  | .clear, _ => none
  | _, _ => current

/-- The view that was given last for a name, unless the name was forgotten since. -/
def view? (name : String) (history : List (Turn (Session ε) (Operation ε) Outcome)) : Option Nat :=
  history.foldl (viewAfter name) none

theorem view?_concat (name : String) (history : List (Turn (Session ε) (Operation ε) Outcome))
    (turn : Turn (Session ε) (Operation ε) Outcome) :
    view? name (history ++ [turn]) = viewAfter name (view? name history) turn :=
  List.foldl_concat ..

variable [ScriptEngine ε]

def step (session : Session ε) : Operation ε → Outcome × Session ε
  | .resolve name =>
      let resolved := session.resolver.resolve name session.site
      (.resolved resolved.1, ⟨resolved.2.1, resolved.2.2⟩)
  | .forget name =>
      let forgot := session.resolver.forget name
      (.forgot forgot.1, { session with resolver := forgot.2 })
  | .clear => (.done, { session with resolver := session.resolver.clear })
  | .count => (.counted session.resolver.count, session)
  | .work operation =>
      let worked := session.site.step operation
      (.worked worked.1, { session with site := worked.2 })

def turns (session : Session ε) (operations : List (Operation ε)) :
    List (Turn (Session ε) (Operation ε) Outcome) :=
  Machine.turns step session operations

/-- A name is looked up, or else its view is built. -/
theorem step_resolve (session : Session ε) (name : String) :
    (∃ id, session.resolver.keeps = true ∧ session.resolver.kept.lookup name = some id ∧
        session.step (.resolve name) = (.resolved (.ok id), session)) ∨
      (session.resolver.keeps = true → session.resolver.kept.lookup name = none) ∧
        session.step (.resolve name) =
          (.resolved (session.resolver.buildNew name session.site).1,
            ⟨{ session.resolver with
                kept := session.resolver.kept ++
                  session.resolver.addition name (session.resolver.buildNew name session.site).1 },
              (session.resolver.buildNew name session.site).2⟩) := by
  unfold step
  dsimp only
  by_cases held : ∃ id, session.resolver.keeps = true ∧
      session.resolver.kept.lookup name = some id
  · obtain ⟨id, keeps, found⟩ := held
    rw [session.resolver.resolve_kept name session.site keeps id found]
    exact Or.inl ⟨id, keeps, found, rfl⟩
  · have absent : session.resolver.keeps = true → session.resolver.kept.lookup name = none := by
      intro keeps
      cases found : session.resolver.kept.lookup name with
      | none => rfl
      | some id => exact absurd ⟨id, keeps, found⟩ held
    rw [session.resolver.resolve_built name session.site absent]
    exact Or.inr ⟨absent, rfl⟩

theorem step_site (session : Session ε) (operation : Operation ε) :
    session.site.Extends (session.step operation).2.site := by
  cases operation with
  | resolve name =>
      rcases session.step_resolve name with ⟨id, _, _, same⟩ | ⟨_, built⟩
      · rw [same]
        exact Site.Extends.of_eq rfl
      · rw [built]
        exact session.site.build_extends _ _
  | forget name => exact Site.Extends.of_eq rfl
  | clear => exact Site.Extends.of_eq rfl
  | count => exact Site.Extends.of_eq rfl
  | work operation => exact session.site.step_extends operation

/-! ### Reading a record -/

section

omit [ScriptEngine ε]

/-- What is kept after a build, under any name. -/
theorem lookup_addition (resolver : Resolver (Logged ε)) (keeps : resolver.keeps = true)
    (name other : String) (absent : resolver.kept.lookup name = none)
    (answer : Except ViewError Nat) (before after : Session ε) :
    (resolver.kept ++ resolver.addition name answer).lookup other =
      viewAfter other (resolver.kept.lookup other)
        ⟨before, .resolve name, .resolved answer, after⟩ := by
  cases answer with
  | error fault =>
      rw [resolver.addition_error, List.append_nil]
      rfl
  | ok id =>
      rw [resolver.addition_ok keeps, List.lookup_append, List.lookup_cons]
      by_cases same : name = other
      · rw [← same, absent, BEq.rfl]
        exact (if_pos rfl).symm
      · have different : (other == name) = false := beq_eq_false_iff_ne.mpr (Ne.symm same)
        rw [different]
        exact Option.or_none.trans (if_neg same).symm

theorem exists_turn_of_view? (name : String) (id : Nat)
    (history : List (Turn (Session ε) (Operation ε) Outcome))
    (held : view? name history = some id) :
    ∃ turn ∈ history, turn.operation = .resolve name ∧ turn.outcome = .resolved (.ok id) := by
  induction history using List.reverseRecOn with
  | nil => cases held
  | append_singleton history turn ih =>
      -- Either the last turn gave the view, or the view comes from the turns before it.
      rw [view?_concat] at held
      have last : turn ∈ history ++ [turn] := List.mem_append_right _ (List.mem_singleton.mpr rfl)
      have earlier : view? name history = some id →
          ∃ own ∈ history ++ [turn],
            own.operation = .resolve name ∧ own.outcome = .resolved (.ok id) := by
        intro old
        obtain ⟨own, member, asked⟩ := ih old
        exact ⟨own, List.mem_append_left _ member, asked⟩
      unfold viewAfter at held
      split at held
      · next other fresh asked answered =>
          split at held
          · next same =>
              rw [same] at asked
              rw [Option.some.inj held] at answered
              exact ⟨turn, last, asked, answered⟩
          · exact earlier held
      · split at held
        · cases held
        · exact earlier held
      · cases held
      · exact earlier held

/-- Without a resolve of a name that has no view, it gets none. -/
theorem foldl_viewAfter_none (name : String)
    (between : List (Turn (Session ε) (Operation ε) Outcome))
    (others : ∀ turn ∈ between, turn.operation ≠ .resolve name) :
    between.foldl (viewAfter name) none = none := by
  induction between with
  | nil => rfl
  | cons turn rest ih =>
      have still : viewAfter name none turn = none := by
        unfold viewAfter
        split
        · next other fresh asked answered =>
            rw [if_neg]
            intro same
            rw [same] at asked
            exact others turn List.mem_cons_self asked
        · exact ite_self none
        · rfl
        · rfl
      rw [List.foldl_cons, still]
      exact ih fun own member => others own (List.mem_cons_of_mem _ member)

end

/-! ### What a resolver keeps -/

/-- A resolver keeps the views that the record of its run tells, each under its name, and every view
that was given has the address of its name. -/
structure Sound (resolver : Resolver (Logged ε))
    (history : List (Turn (Session ε) (Operation ε) Outcome)) (session : Session ε) : Prop where
  same : session.resolver = { resolver with kept := session.resolver.kept }
  distinct : (session.resolver.kept.map Prod.fst).Nodup
  recalls : resolver.keeps = true → ∀ name,
    session.resolver.kept.lookup name = view? name history
  empty : resolver.keeps = false → session.resolver.kept = []
  addressed : ∀ turn ∈ history, ∀ name id, turn.operation = .resolve name →
    turn.outcome = .resolved (.ok id) →
    ∃ view, session.site.view? id = some view ∧ view.url = resolver.url name

omit [ScriptEngine ε] in
theorem sound_start (resolver : Resolver (Logged ε)) (unused : resolver.kept = [])
    (site : Site (Logged ε)) : Sound resolver [] ⟨resolver, site⟩ where
  same := rfl
  distinct := by
    rw [unused]
    exact List.nodup_nil
  recalls _ name := by
    dsimp only
    rw [unused]
    rfl
  empty _ := unused
  addressed turn member := absurd member List.not_mem_nil

variable {resolver : Resolver (Logged ε)}
  {history : List (Turn (Session ε) (Operation ε) Outcome)} {session : Session ε}
  (sound : Sound resolver history session)

include sound

omit [ScriptEngine ε] in
theorem Sound.keeps : session.resolver.keeps = resolver.keeps := by
  rw [sound.same]

theorem Sound.buildNew (name : String) (site : Site (Logged ε)) :
    session.resolver.buildNew name site = resolver.buildNew name site := by
  rw [sound.same]
  rfl

/-- A view that a turn gives for a name has the address of the name. -/
theorem Sound.addressed_turn (name : String) (id : Nat)
    (given : (session.step (.resolve name)).1 = .resolved (.ok id)) :
    ∃ view, (session.step (.resolve name)).2.site.view? id = some view ∧
      view.url = resolver.url name := by
  rcases session.step_resolve name with ⟨own, keeps, found, kept⟩ | ⟨absent, built⟩
  · rw [kept] at given ⊢
    cases given
    rw [sound.keeps] at keeps
    rw [sound.recalls keeps] at found
    obtain ⟨turn, member, asked, answered⟩ := exists_turn_of_view? name id history found
    exact sound.addressed turn member name id asked answered
  · rw [built, sound.buildNew] at given ⊢
    rw [Outcome.resolved.injEq] at given
    exact (resolver.buildNew_ok name session.site id given).2

theorem Sound.addressed_step (operation : Operation ε) (turn : Turn (Session ε) (Operation ε) Outcome)
    (member : turn ∈ history ++ [Machine.turn Session.step session operation]) (name : String) (id : Nat)
    (asked : turn.operation = .resolve name) (answered : turn.outcome = .resolved (.ok id)) :
    ∃ view, (session.step operation).2.site.view? id = some view ∧
      view.url = resolver.url name := by
  rcases List.mem_append.mp member with earlier | now
  · obtain ⟨view, found, address⟩ := sound.addressed turn earlier name id asked answered
    obtain ⟨last, there, alike⟩ := (session.step_site operation).view? found
    exact ⟨last, there, alike.1.trans address⟩
  · rw [List.mem_singleton] at now
    rw [now] at asked answered
    have operated : operation = .resolve name := asked
    rw [operated] at answered ⊢
    exact sound.addressed_turn name id answered

theorem Sound.step_resolve (name : String) :
    Sound resolver (history ++ [Machine.turn Session.step session (.resolve name)])
      (session.step (.resolve name)).2 := by
  have addressed := sound.addressed_step (.resolve name)
  rcases session.step_resolve name with ⟨id, _, found, kept⟩ | ⟨absent, built⟩
  · -- The session stays as it is, and the record tells the same of the name once more.
    have turn : Machine.turn Session.step session (.resolve name) =
        ⟨session, .resolve name, .resolved (.ok id), session⟩ := by
      unfold Machine.turn
      rw [kept]
    rw [turn, kept] at addressed ⊢
    refine ⟨sound.same, sound.distinct, ?_, sound.empty, addressed⟩
    intro keeps other
    rw [view?_concat]
    by_cases same : name = other
    · rw [← same, found]
      exact (if_pos rfl).symm
    · rw [sound.recalls keeps]
      exact (if_neg same).symm
  · have turn : Machine.turn Session.step session (.resolve name) =
        ⟨session, .resolve name, .resolved (session.resolver.buildNew name session.site).1,
          (session.step (.resolve name)).2⟩ := by
      unfold Machine.turn
      rw [built]
    rw [turn, built] at addressed ⊢
    refine ⟨?_, session.resolver.nodup_addition sound.distinct name _ absent, ?_, ?_, addressed⟩
    · dsimp only
      rw [sound.same]
    · intro keeps other
      have on : session.resolver.keeps = true := sound.keeps.trans keeps
      rw [view?_concat, ← sound.recalls keeps]
      exact lookup_addition session.resolver on name other (absent on) _ _ _
    · intro off
      dsimp only
      rw [session.resolver.addition_unkept (sound.keeps.trans off), List.append_nil]
      exact sound.empty off

theorem Sound.step_forget (name : String) :
    Sound resolver (history ++ [Machine.turn Session.step session (.forget name)])
      (session.step (.forget name)).2 where
  same := congrArg (fun held => (held.forget name).2) sound.same
  distinct := sound.distinct.sublist (List.filter_sublist.map Prod.fst)
  recalls := by
    intro keeps other
    rw [view?_concat, ← sound.recalls keeps]
    refine (session.resolver.lookup_forget name other).trans ?_
    by_cases same : other = name
    · exact (if_pos same).trans (if_pos same.symm).symm
    · exact (if_neg same).trans (if_neg (Ne.symm same)).symm
  empty := by
    intro off
    have none : session.resolver.kept.filter (fun entry => entry.1 != name) = [] := by
      rw [sound.empty off]
      rfl
    exact none
  addressed := sound.addressed_step (.forget name)

theorem Sound.step (operation : Operation ε) :
    Sound resolver (history ++ [Machine.turn Session.step session operation])
      (session.step operation).2 := by
  have addressed := sound.addressed_step operation
  cases operation with
  | resolve name => exact sound.step_resolve name
  | forget name => exact sound.step_forget name
  | clear =>
      have same := congrArg Resolver.clear sound.same
      refine ⟨same, List.nodup_nil, ?_, fun _ => rfl, addressed⟩
      intro keeps other
      rw [view?_concat]
      rfl
  | count =>
      refine ⟨sound.same, sound.distinct, ?_, sound.empty, addressed⟩
      intro keeps name
      rw [view?_concat]
      exact sound.recalls keeps name
  | work operation =>
      refine ⟨sound.same, sound.distinct, ?_, sound.empty, addressed⟩
      intro keeps name
      rw [view?_concat]
      exact sound.recalls keeps name

omit sound in
theorem sound_turn (resolver : Resolver (Logged ε)) (unused : resolver.kept = [])
    (site : Site (Logged ε)) (operations : List (Operation ε))
    (past : List (Turn (Session ε) (Operation ε) Outcome))
    (turn : Turn (Session ε) (Operation ε) Outcome)
    (future : List (Turn (Session ε) (Operation ε) Outcome))
    (split : (Session.mk resolver site).turns operations = past ++ turn :: future) :
    Sound resolver past turn.before ∧
      turn = Machine.turn step turn.before turn.operation := by
  obtain ⟨before, operation, _, _, pastEq, turnEq, _⟩ :=
    Machine.turns_split step ⟨resolver, site⟩ operations past turn future split
  have reached := Machine.turns_invariant step (Sound resolver)
    (fun _ _ operation held => held.step operation) before [] ⟨resolver, site⟩
    (sound_start resolver unused site)
  rw [List.nil_append, ← pastEq] at reached
  rw [turnEq]
  exact ⟨reached, rfl⟩

end Session

end Resolver

end Stencil
