import Stencil.Engine.Recorder
import Stencil.Proofs.View.Naming

/-!
What the turns of a resolver are answered. Where views are kept, a turn is answered by what the turns
before it tell of its name (`Recalls`); where none are kept, each resolve builds a new view (`Renews`).
`resolutions` says so of every turn of every run, and that no two names share a view.
-/

namespace Stencil

variable {ε : Type}

namespace Resolver

namespace Session

section

variable [ScriptEngine ε] (resolver : Resolver (Logged ε))
  (past : List (Turn (Session ε) (Operation ε) Outcome))
  (turn : Turn (Session ε) (Operation ε) Outcome)
  (future : List (Turn (Session ε) (Operation ε) Outcome))

/-- The turn builds the view of a name, at the address of the name. -/
def Builds (name : String) : Prop :=
  let built := turn.before.site.build resolver.environment
    { resolver.builder with url := some (resolver.lead ++ name ++ resolver.trail) }
  turn.outcome = .resolved built.1 ∧ turn.after.site = built.2

/-- A name that has a view is given it again and nothing is done; otherwise the view is built. A build
that fails leaves what is kept as it was, and the next resolve of the name builds again. -/
structure Recalls : Prop where
  hit : ∀ name id, turn.operation = .resolve name → view? name past = some id →
    turn.outcome = .resolved (.ok id) ∧ turn.after = turn.before
  miss : ∀ name, turn.operation = .resolve name → view? name past = none →
    Builds resolver turn name
  failed : ∀ name fault, turn.operation = .resolve name →
    turn.outcome = .resolved (.error fault) →
    turn.after.resolver = turn.before.resolver ∧
      ∀ between next rest, future = between ++ next :: rest →
        (∀ other ∈ between, other.operation ≠ .resolve name) → next.operation = .resolve name →
        Builds resolver next name
  forgot : ∀ name, turn.operation = .forget name →
    turn.outcome = .forgot (view? name past).isSome
  counted : turn.operation = .count → ∃ names : List String, names.Nodup ∧
    (∀ name, name ∈ names ↔ (view? name past).isSome = true) ∧
    turn.outcome = .counted names.length

/-- Each resolve builds, and a view that it gives was not there before. -/
structure Renews : Prop where
  built : ∀ name, turn.operation = .resolve name → Builds resolver turn name
  fresh : ∀ name id, turn.operation = .resolve name → turn.outcome = .resolved (.ok id) →
    turn.before.site.view? id = none ∧ ∀ earlier ∈ past, ∀ other,
      earlier.operation = .resolve other → earlier.outcome ≠ .resolved (.ok id)
  empty : turn.after.resolver.kept = []
  forgot : ∀ name, turn.operation = .forget name → turn.outcome = .forgot false
  counted : turn.operation = .count → turn.outcome = .counted 0

end

/-! ### Steps -/

section

variable [ScriptEngine ε] {resolver : Resolver (Logged ε)}
  {history : List (Turn (Session ε) (Operation ε) Outcome)} {session : Session ε}

theorem resolver_of_failed (name : String) (fault : ViewError)
    (failed : (session.step (.resolve name)).1 = .resolved (.error fault)) :
    (session.step (.resolve name)).2.resolver = session.resolver := by
  rcases session.step_resolve name with ⟨_, _, _, kept⟩ | ⟨_, built⟩
  · rw [kept]
  · rw [built, Outcome.resolved.injEq] at failed
    rw [built, failed, session.resolver.addition_error, List.append_nil]

variable (sound : Sound resolver history session)

include sound

theorem Sound.hit (keeps : resolver.keeps = true) (name : String) (id : Nat)
    (held : view? name history = some id) :
    session.step (.resolve name) = (.resolved (.ok id), session) := by
  rw [← sound.recalls keeps] at held
  rcases session.step_resolve name with ⟨own, _, found, kept⟩ | ⟨absent, _⟩
  · rw [found] at held
    rw [kept, Option.some.inj held]
  · rw [absent (sound.keeps.trans keeps)] at held
    cases held

theorem Sound.builds (name : String) (absent : resolver.keeps = true → view? name history = none) :
    Builds resolver (Machine.turn Session.step session (.resolve name)) name := by
  rcases session.step_resolve name with ⟨own, keeps, found, _⟩ | ⟨_, built⟩
  · rw [sound.keeps] at keeps
    rw [sound.recalls keeps, absent keeps] at found
    cases found
  · rw [sound.buildNew] at built
    unfold Builds Machine.turn
    rw [built]
    exact ⟨rfl, rfl⟩

omit [ScriptEngine ε] in
/-- The names that have views are those under which a resolver keeps them. -/
theorem Sound.counted (keeps : resolver.keeps = true) :
    ∃ names : List String, names.Nodup ∧
      (∀ name, name ∈ names ↔ (view? name history).isSome = true) ∧
      session.resolver.count = names.length := by
  refine ⟨session.resolver.kept.map Prod.fst, sound.distinct, ?_, ?_⟩
  · intro name
    rw [← sound.recalls keeps]
    exact session.resolver.mem_names_iff name
  · rw [List.length_map]
    rfl

theorem Sound.fresh (off : resolver.keeps = false) (name : String) (id : Nat)
    (given : (session.step (.resolve name)).1 = .resolved (.ok id)) :
    session.site.view? id = none ∧ ∀ turn ∈ history, ∀ other, turn.operation = .resolve other →
      turn.outcome ≠ .resolved (.ok id) := by
  have unkept : resolver.keeps = true → view? name history = none := by
    rw [off]
    exact nofun
  have built := (sound.builds name unkept).1
  rw [Machine.turn, given, Outcome.resolved.injEq] at built
  have number := (resolver.buildNew_ok name session.site id built.symm).1
  have absent : session.site.view? id = none := by
    rw [number]
    exact List.getElem?_eq_none (Nat.le_refl _)
  refine ⟨absent, ?_⟩
  intro turn member other asked answered
  obtain ⟨view, found, _⟩ := sound.addressed turn member other id asked answered
  rw [absent] at found
  cases found

end

/-! ### Turns -/

section

variable [ScriptEngine ε] {resolver : Resolver (Logged ε)}
  {past : List (Turn (Session ε) (Operation ε) Outcome)}
  {turn : Turn (Session ε) (Operation ε) Outcome}
  {future : List (Turn (Session ε) (Operation ε) Outcome)}
  (sound : Sound resolver past turn.before)
  (turnEq : turn = Machine.turn Session.step turn.before turn.operation)

include sound turnEq

theorem Sound.after : Sound resolver (past ++ [turn]) turn.after := by
  rw [turnEq]
  exact sound.step turn.operation

/-- A name whose build failed has no view until it is resolved again. -/
theorem Sound.absent_of_failed (keeps : resolver.keeps = true) (name : String) (fault : ViewError)
    (asked : turn.operation = .resolve name) (failed : turn.outcome = .resolved (.error fault))
    (between : List (Turn (Session ε) (Operation ε) Outcome))
    (others : ∀ other ∈ between, other.operation ≠ .resolve name) :
    view? name (past ++ turn :: between) = none := by
  have answer : turn.outcome = (turn.before.step turn.operation).1 := congrArg Turn.outcome turnEq
  have unheld : view? name past = none := by
    cases held : view? name past with
    | none => rfl
    | some id =>
        rw [asked, sound.hit keeps name id held, failed] at answer
        cases answer
  have now : viewAfter name (view? name past) turn = none := by
    unfold viewAfter
    rw [asked, failed, unheld]
  unfold view? at now ⊢
  rw [List.foldl_append, List.foldl_cons, now]
  exact foldl_viewAfter_none name between others

theorem Sound.recalls_turn (keeps : resolver.keeps = true)
    (later : ∀ between next rest, future = between ++ next :: rest →
      Sound resolver (past ++ turn :: between) next.before ∧
        next = Machine.turn Session.step next.before next.operation) :
    Recalls resolver past turn future := by
  have answer : turn.outcome = (turn.before.step turn.operation).1 := congrArg Turn.outcome turnEq
  have last : turn.after = (turn.before.step turn.operation).2 := congrArg Turn.after turnEq
  constructor
  · intro name id asked held
    rw [asked, sound.hit keeps name id held] at answer last
    exact ⟨answer, last⟩
  · intro name asked absent
    rw [turnEq, asked]
    exact sound.builds name fun _ => absent
  · intro name fault asked failed
    -- What comes after is a turn of the same run, whose record still tells nothing of the name.
    constructor
    · rw [asked] at answer last
      rw [last]
      exact resolver_of_failed name fault (answer.symm.trans failed)
    · intro between next rest futureEq others again
      obtain ⟨soundNext, nextEq⟩ := later between next rest futureEq
      have absent := sound.absent_of_failed turnEq keeps name fault asked failed between others
      rw [nextEq, again]
      exact soundNext.builds name fun _ => absent
  · intro name asked
    rw [asked] at answer
    rw [answer, ← sound.recalls keeps]
    exact congrArg Outcome.forgot (turn.before.resolver.forget_found name)
  · intro asked
    rw [asked] at answer
    obtain ⟨names, distinct, known, count⟩ := sound.counted keeps
    exact ⟨names, distinct, known, answer.trans (congrArg Outcome.counted count)⟩

theorem Sound.renews_turn (off : resolver.keeps = false) : Renews resolver past turn := by
  have answer : turn.outcome = (turn.before.step turn.operation).1 := congrArg Turn.outcome turnEq
  have nothing := sound.empty off
  constructor
  · intro name asked
    rw [turnEq, asked]
    exact sound.builds name fun on => absurd (off.symm.trans on) Bool.false_ne_true
  · intro name id asked given
    rw [asked] at answer
    exact sound.fresh off name id (answer.symm.trans given)
  · exact (sound.after turnEq).empty off
  · intro name asked
    rw [asked] at answer
    have found := turn.before.resolver.forget_found name
    rw [nothing] at found
    exact answer.trans (congrArg Outcome.forgot found)
  · intro asked
    rw [asked] at answer
    have count : turn.before.resolver.count = 0 := by
      unfold count
      rw [nothing, List.length_nil]
    exact answer.trans (congrArg Outcome.counted count)

/-- A view has one name, which its address tells. -/
theorem Sound.named_turn (name : String) (id : Nat) (asked : turn.operation = .resolve name)
    (given : turn.outcome = .resolved (.ok id)) :
    (∃ view, turn.after.site.view? id = some view ∧ view.url = resolver.url name) ∧
      ∀ earlier ∈ past, ∀ other, earlier.operation = .resolve other →
        earlier.outcome = .resolved (.ok id) → other = name := by
  have after := sound.after turnEq
  have now : turn ∈ past ++ [turn] := List.mem_append_right _ (List.mem_singleton.mpr rfl)
  obtain ⟨view, found, address⟩ := after.addressed turn now name id asked given
  refine ⟨⟨view, found, address⟩, ?_⟩
  intro earlier member other askedBefore givenBefore
  obtain ⟨old, there, own⟩ :=
    after.addressed earlier (List.mem_append_left _ member) other id askedBefore givenBefore
  rw [found] at there
  rw [← Option.some.inj there, address] at own
  exact (resolver.url_injective own).symm

end

/-- Over every run of a new resolver, with anything else done on the site in between. A resolver that
keeps views answers with the view that it gave last for the name and did not forget since, and builds
only where there is none. One that keeps no views builds a new one each time. A view has the address of
the name that it is given for, so no two names share one. Forgetting and counting leave the views and
the engines alone. -/
theorem resolutions [ScriptEngine ε] (resolver : Resolver (Logged ε)) (unused : resolver.kept = [])
    (site : Site (Logged ε)) (operations : List (Operation ε))
    (past : List (Turn (Session ε) (Operation ε) Outcome))
    (turn : Turn (Session ε) (Operation ε) Outcome)
    (future : List (Turn (Session ε) (Operation ε) Outcome))
    (split : (Session.mk resolver site).turns operations = past ++ turn :: future) :
    (resolver.keeps = true → Recalls resolver past turn future) ∧
      (resolver.keeps = false → Renews resolver past turn) ∧
      (∀ name id, turn.operation = .resolve name → turn.outcome = .resolved (.ok id) →
        (∃ view, turn.after.site.view? id = some view ∧
          view.url = resolver.lead ++ name ++ resolver.trail) ∧
        ∀ earlier ∈ past, ∀ other, earlier.operation = .resolve other →
          earlier.outcome = .resolved (.ok id) → other = name) ∧
      ((∀ name, turn.operation ≠ .resolve name) →
        (∀ operation, turn.operation ≠ .work operation) → turn.after.site = turn.before.site) := by
  obtain ⟨sound, turnEq⟩ := sound_turn resolver unused site operations past turn future split
  refine ⟨?_, sound.renews_turn turnEq, sound.named_turn turnEq, ?_⟩
  · intro keeps
    refine sound.recalls_turn turnEq keeps ?_
    intro between next rest futureEq
    refine sound_turn resolver unused site operations _ next rest ?_
    rw [split, futureEq, List.append_assoc, List.cons_append]
  · intro unresolved unworked
    have last : turn.after = (turn.before.step turn.operation).2 := congrArg Turn.after turnEq
    rw [last]
    cases asked : turn.operation with
    | resolve name => exact absurd asked (unresolved name)
    | forget name => rfl
    | clear => rfl
    | count => rfl
    | work operation => exact absurd asked (unworked operation)

def pages : Resolver (Logged Recorder) where
  environment := Environment.logged ⟨.memory [("pages/home.html", [104, 105])],
    Registry.ofFactories [Recorder.factory 0 "recording" [] ⟨["render"], [], false⟩ none],
    [{ engineName := some "recording", renderFunction := some "render" }]⟩
  lead := "pages/"
  trail := ".html"

/-- A name is resolved twice, forgotten and resolved again. -/
def visits : List (Operation Recorder) :=
  [.resolve "home", .resolve "home", .forget "home", .count, .resolve "home"]

theorem resolutions_pages :
    (Machine.finish Session.step ⟨pages, ⟨{ files := ⟨[], []⟩ }, []⟩⟩ visits).site.views.length = 2 ∧
      ∃ first second rest,
        (Session.mk pages ⟨{ files := ⟨[], []⟩ }, []⟩).turns visits = [first] ++ second :: rest ∧
          Recalls pages [first] second rest := by
  refine ⟨by decide +kernel, _, _, _, rfl, ?_⟩
  exact (resolutions pages rfl ⟨{ files := ⟨[], []⟩ }, []⟩ visits [_] _ _ rfl).1 rfl

end Session

end Resolver

end Stencil
