import Stencil.Proofs.View.Resolutions

/-!
Addresses of views whose resolver is set anew while it is in use. A view keeps the address that it was
built at, so a resolver that keeps views may give one whose address its settings no longer tell.
`address_iff` says of every turn of every run whether it does: the record tells at which address the
kept view of a name was built (`builtAt?`).
-/

namespace Stencil

variable {ε : Type}

namespace Resolver

namespace Session

/-- What can be done with a resolver that is in use, its settings included. -/
inductive Action (ε : Type) where
  | set (setting : Setting)
  | perform (operation : Operation ε)

section

variable [ScriptEngine ε]

def act (session : Session ε) : Action ε → Outcome × Session ε
  | .set setting => (.done, { session with resolver := session.resolver.set setting })
  | .perform operation => session.step operation

def acts (session : Session ε) (actions : List (Action ε)) :
    List (Turn (Session ε) (Action ε) Outcome) :=
  Machine.turns act session actions

end

/-! ### Reading a record -/

/-- The address at which the kept view of a name was built, after a turn. It is the one in force when
the view was built and does not change with the settings. -/
def builtAfter (name : String) (current : Option String)
    (turn : Turn (Session ε) (Action ε) Outcome) : Option String :=
  match turn.operation, turn.outcome with
  | .perform (.resolve other), .resolved (.ok _) =>
      if other = name ∧ turn.before.resolver.keeps = true then
        current.or (some (turn.before.resolver.url name))
      else current
  | .perform (.forget other), _ => if other = name then none else current
  | .perform .clear, _ => none
  | _, _ => current

def builtAt? (name : String) (history : List (Turn (Session ε) (Action ε) Outcome)) :
    Option String :=
  history.foldl (builtAfter name) none

theorem builtAt?_concat (name : String) (history : List (Turn (Session ε) (Action ε) Outcome))
    (turn : Turn (Session ε) (Action ε) Outcome) :
    builtAt? name (history ++ [turn]) = builtAfter name (builtAt? name history) turn :=
  List.foldl_concat ..

/-- The turn built the view of a name, at the address that was in force. -/
structure Erects (turn : Turn (Session ε) (Action ε) Outcome) (name : String) (id : Nat)
    (address : String) : Prop where
  asked : turn.operation = .perform (.resolve name)
  answered : turn.outcome = .resolved (.ok id)
  new : turn.before.site.view? id = none
  inForce : address = turn.before.resolver.url name

/-- A view has an address, and a turn of the record built it there. -/
def StandsAt (history : List (Turn (Session ε) (Action ε) Outcome)) (site : Site (Logged ε))
    (name : String) (id : Nat) (address : String) : Prop :=
  (∃ view, site.view? id = some view ∧ view.url = address) ∧
    ∃ turn ∈ history, Erects turn name id address

theorem StandsAt.later {history : List (Turn (Session ε) (Action ε) Outcome)}
    {site after : Site (Logged ε)} {name : String} {id : Nat} {address : String}
    (stands : StandsAt history site name id address) (grown : site.Extends after)
    (turn : Turn (Session ε) (Action ε) Outcome) :
    StandsAt (history ++ [turn]) after name id address := by
  obtain ⟨⟨view, found, own⟩, built, member, erects⟩ := stands
  obtain ⟨last, there, alike⟩ := grown.view? found
  exact ⟨⟨last, there, alike.1.trans own⟩, built, List.mem_append_left _ member, erects⟩

/-! ### What is kept -/

/-- Every kept view stands at the address that the record tells for its name, and the record tells an
address for no other name. -/
def Recorded (history : List (Turn (Session ε) (Action ε) Outcome)) (session : Session ε) : Prop :=
  ∀ name, Option.Rel (StandsAt history session.site name) (session.resolver.kept.lookup name)
    (builtAt? name history)

theorem recorded_start (resolver : Resolver (Logged ε)) (unused : resolver.kept = [])
    (site : Site (Logged ε)) : Recorded [] ⟨resolver, site⟩ := by
  intro name
  dsimp only
  rw [unused]
  exact Option.Rel.none

section

variable (resolver : Resolver (Logged ε)) (name other : String) (answer : Except ViewError Nat)

/-- A build adds nothing under a name unless it is the build of the name and its view is kept. -/
theorem lookup_addition_of_not
    (idle : ∀ id, answer = .ok id → ¬ (name = other ∧ resolver.keeps = true)) :
    (resolver.kept ++ resolver.addition name answer).lookup other = resolver.kept.lookup other := by
  cases keeps : resolver.keeps with
  | false => rw [resolver.addition_unkept keeps, List.append_nil]
  | true =>
      cases answer with
      | error fault => rw [resolver.addition_error, List.append_nil]
      | ok id =>
          have different : (other == name) = false :=
            beq_eq_false_iff_ne.mpr fun same => idle id rfl ⟨same.symm, keeps⟩
          rw [resolver.addition_ok keeps, List.lookup_append, List.lookup_cons, different]
          exact Option.or_none

theorem lookup_addition_self (keeps : resolver.keeps = true) (id : Nat)
    (absent : resolver.kept.lookup name = none) :
    (resolver.kept ++ resolver.addition name (.ok id)).lookup name = some id := by
  rw [resolver.addition_ok keeps, List.lookup_append, List.lookup_cons, absent, BEq.rfl]
  rfl

theorem builtAfter_of_not
    (idle : ∀ id, answer = .ok id → ¬ (name = other ∧ resolver.keeps = true))
    (current : Option String) (site : Site (Logged ε)) (after : Session ε) :
    builtAfter other current
      ⟨⟨resolver, site⟩, .perform (.resolve name), .resolved answer, after⟩ = current := by
  cases answer with
  | error fault => rfl
  | ok id => exact if_neg (idle id rfl)

end

section

variable {history : List (Turn (Session ε) (Action ε) Outcome)} {session : Session ε}
  (recorded : Recorded history session) (name : String)

include recorded

theorem Recorded.of_some (id : Nat) (held : session.resolver.kept.lookup name = some id) :
    ∃ address, builtAt? name history = some address ∧
      StandsAt history session.site name id address := by
  have told := recorded name
  rw [held] at told
  generalize builtAt? name history = known at told ⊢
  cases told with
  | some stands => exact ⟨_, rfl, stands⟩

theorem Recorded.of_none (absent : session.resolver.kept.lookup name = none) :
    builtAt? name history = none := by
  have told := recorded name
  rw [absent] at told
  generalize builtAt? name history = known at told ⊢
  cases told with
  | none => rfl

/-- A turn that leaves what is kept under a name, and what is told of it, leaves it recorded. -/
theorem Recorded.still (turn : Turn (Session ε) (Action ε) Outcome) (after : Session ε)
    (grown : session.site.Extends after.site)
    (kept : after.resolver.kept.lookup name = session.resolver.kept.lookup name)
    (told : builtAfter name (builtAt? name history) turn = builtAt? name history) :
    Option.Rel (StandsAt (history ++ [turn]) after.site name) (after.resolver.kept.lookup name)
      (builtAt? name (history ++ [turn])) := by
  rw [builtAt?_concat, told, kept]
  cases held : session.resolver.kept.lookup name with
  | none =>
      rw [recorded.of_none name held]
      exact Option.Rel.none
  | some id =>
      obtain ⟨address, known, stands⟩ := recorded.of_some name id held
      rw [known]
      exact Option.Rel.some (stands.later grown turn)

end

/-! ### Steps -/

section

variable [ScriptEngine ε] {history : List (Turn (Session ε) (Action ε) Outcome)}
  {session : Session ε}

/-- A view that is built for a name stands at the address in force. -/
theorem standsAt_built (name : String) (id : Nat) (after : Session ε)
    (answered : (session.resolver.buildNew name session.site).1 = .ok id)
    (site : after.site = (session.resolver.buildNew name session.site).2) :
    StandsAt (history ++
        [⟨session, .perform (.resolve name), .resolved (.ok id), after⟩]) after.site name id
      (session.resolver.url name) := by
  obtain ⟨number, view, found, address⟩ :=
    session.resolver.buildNew_ok name session.site id answered
  rw [site]
  refine ⟨⟨view, found, address⟩, _, List.mem_concat_self, rfl, rfl, ?_, rfl⟩
  rw [number]
  exact List.getElem?_eq_none (Nat.le_refl _)

variable (recorded : Recorded history session)

include recorded

omit [ScriptEngine ε] in
theorem Recorded.resolve_kept (name : String) (id : Nat)
    (found : session.resolver.kept.lookup name = some id) :
    Recorded (history ++ [⟨session, .perform (.resolve name), .resolved (.ok id), session⟩])
      session := by
  obtain ⟨address, known, _⟩ := recorded.of_some name id found
  intro other
  refine recorded.still other _ _ (Site.Extends.of_eq rfl) rfl ?_
  -- The address of a view that is kept stays told when the view is given again.
  unfold builtAfter
  dsimp only
  split
  · next own => rw [← own.1, known, Option.some_or]
  · rfl

theorem Recorded.resolve_built (name : String)
    (absent : session.resolver.keeps = true → session.resolver.kept.lookup name = none)
    (answer : Except ViewError Nat) (after : Session ε)
    (answered : (session.resolver.buildNew name session.site).1 = answer)
    (site : after.site = (session.resolver.buildNew name session.site).2)
    (kept : after.resolver.kept = session.resolver.kept ++ session.resolver.addition name answer) :
    Recorded (history ++ [⟨session, .perform (.resolve name), .resolved answer, after⟩]) after := by
  have grown : session.site.Extends after.site := by
    rw [site]
    exact session.site.build_extends _ _
  intro other
  by_cases adds : ∀ id, answer = .ok id → ¬ (name = other ∧ session.resolver.keeps = true)
  · refine recorded.still other _ _ grown ?_ ?_
    · rw [kept]
      exact lookup_addition_of_not session.resolver name other answer adds
    · exact builtAfter_of_not session.resolver name other answer adds _ _ _
  · -- The name had no view, so the record told nothing of it before this build.
    push Not at adds
    obtain ⟨id, given, own, keeps⟩ := adds
    subst own given
    have told : builtAfter name (builtAt? name history)
        ⟨session, .perform (.resolve name), .resolved (.ok id), after⟩ =
          some (session.resolver.url name) := by
      rw [recorded.of_none name (absent keeps)]
      exact if_pos ⟨rfl, keeps⟩
    rw [builtAt?_concat, told, kept,
      lookup_addition_self session.resolver name keeps id (absent keeps)]
    exact Option.Rel.some (standsAt_built name id after answered site)

theorem Recorded.step (action : Action ε) :
    Recorded (history ++ [Machine.turn act session action]) (session.act action).2 := by
  cases action with
  | set setting =>
      intro name
      refine recorded.still name _ _ (Site.Extends.of_eq rfl) ?_ rfl
      cases setting <;> rfl
  | perform operation =>
      have grown := session.step_site operation
      cases operation with
      | resolve name =>
          have turn : Machine.turn act session (.perform (.resolve name)) =
              ⟨session, .perform (.resolve name), (session.step (.resolve name)).1,
                (session.step (.resolve name)).2⟩ := rfl
          have after : (session.act (.perform (.resolve name))).2 =
              (session.step (.resolve name)).2 := rfl
          rw [turn, after]
          rcases session.step_resolve name with ⟨id, _, found, same⟩ | ⟨absent, built⟩
          · rw [same]
            exact recorded.resolve_kept name id found
          · rw [built]
            exact recorded.resolve_built name absent _ _ rfl rfl rfl
      | forget name =>
          intro other
          have told : builtAfter other (builtAt? other history)
              (Machine.turn act session (.perform (.forget name))) =
                if name = other then none else builtAt? other history := rfl
          have lookup := session.resolver.lookup_forget name other
          by_cases same : other = name
          · rw [if_pos same.symm] at told
            rw [if_pos same] at lookup
            rw [builtAt?_concat, told]
            exact lookup ▸ Option.Rel.none
          · rw [if_neg (Ne.symm same)] at told
            rw [if_neg same] at lookup
            exact recorded.still other _ _ grown lookup told
      | clear =>
          intro name
          rw [builtAt?_concat]
          exact Option.Rel.none
      | count =>
          intro name
          exact recorded.still name _ _ grown rfl rfl
      | work operation =>
          intro name
          exact recorded.still name _ _ grown rfl rfl

omit recorded in
theorem recorded_turn (resolver : Resolver (Logged ε)) (unused : resolver.kept = [])
    (site : Site (Logged ε)) (actions : List (Action ε))
    (past : List (Turn (Session ε) (Action ε) Outcome))
    (turn : Turn (Session ε) (Action ε) Outcome)
    (future : List (Turn (Session ε) (Action ε) Outcome))
    (split : (Session.mk resolver site).acts actions = past ++ turn :: future) :
    Recorded past turn.before ∧ turn = Machine.turn act turn.before turn.operation := by
  obtain ⟨before, action, _, _, pastEq, turnEq, _⟩ :=
    Machine.turns_split act ⟨resolver, site⟩ actions past turn future split
  have run := Machine.turns_invariant act Recorded
    (fun history state own held => Recorded.step held own) before [] ⟨resolver, site⟩
    (recorded_start resolver unused site)
  rw [List.nil_append, ← pastEq] at run
  rw [turnEq]
  exact ⟨run, rfl⟩

/-- A view that is given for a name has the address that the settings tell for it exactly if the record
tells no other: either no view of the name is kept, or the kept one was built at that address. Its
address is the one that was in force when it was built. -/
theorem Recorded.given (name : String) (id : Nat)
    (given : (session.step (.resolve name)).1 = .resolved (.ok id)) :
    ∃ view, (session.step (.resolve name)).2.site.view? id = some view ∧
      (view.url = session.resolver.url name ↔ (session.resolver.keeps = true →
        ∀ address, builtAt? name history = some address → address = session.resolver.url name)) ∧
      ∃ built ∈ history ++ [Machine.turn act session (.perform (.resolve name))],
        Erects built name id view.url := by
  rcases session.step_resolve name with ⟨own, keeps, found, same⟩ | ⟨absent, built⟩
  · rw [same] at given ⊢
    cases given
    obtain ⟨address, known, ⟨view, there, url⟩, built, member, erects⟩ :=
      recorded.of_some name id found
    subst url
    refine ⟨view, there, ?_, built, List.mem_append_left _ member, erects⟩
    rw [known]
    constructor
    · intro own _ address told
      rw [← Option.some.inj told, own]
    · intro told
      exact told keeps _ rfl
  · rw [built] at given ⊢
    rw [Outcome.resolved.injEq] at given
    have turn : Machine.turn act session (.perform (.resolve name)) =
        ⟨session, .perform (.resolve name), .resolved (.ok id),
          (session.step (.resolve name)).2⟩ := by
      rw [← given]
      exact congrArg (fun done => (⟨session, .perform (.resolve name), done.1,
        (session.step (.resolve name)).2⟩ : Turn _ (Action ε) _)) built
    have last : (session.step (.resolve name)).2.site =
        (session.resolver.buildNew name session.site).2 :=
      congrArg (fun done => done.2.site) built
    have stands : StandsAt (history ++ [⟨session, .perform (.resolve name), .resolved (.ok id),
        (session.step (.resolve name)).2⟩]) (session.step (.resolve name)).2.site name id
          (session.resolver.url name) :=
      standsAt_built name id (session.step (.resolve name)).2 given last
    obtain ⟨⟨view, found, url⟩, erected⟩ := stands
    rw [← url, ← turn] at erected
    rw [last] at found
    refine ⟨view, found, ?_, erected⟩
    constructor
    · intro _ keeps address told
      rw [recorded.of_none name (absent keeps)] at told
      cases told
    · intro _
      exact url

end

/-- Over every run of a new resolver, with any setting changed at any time. A view that is given for a
name has the address that the settings tell for the name at that moment exactly if views are not kept,
or no view of the name is, or the one that is kept was built at just that address. The address of a
view is the one that was in force when it was built. -/
theorem address_iff [ScriptEngine ε] (resolver : Resolver (Logged ε)) (unused : resolver.kept = [])
    (site : Site (Logged ε)) (actions : List (Action ε))
    (past : List (Turn (Session ε) (Action ε) Outcome))
    (turn : Turn (Session ε) (Action ε) Outcome)
    (future : List (Turn (Session ε) (Action ε) Outcome))
    (split : (Session.mk resolver site).acts actions = past ++ turn :: future)
    (name : String) (id : Nat) (asked : turn.operation = .perform (.resolve name))
    (given : turn.outcome = .resolved (.ok id)) :
    ∃ view, turn.after.site.view? id = some view ∧
      (view.url = turn.before.resolver.lead ++ name ++ turn.before.resolver.trail ↔
        (turn.before.resolver.keeps = true → ∀ address, builtAt? name past = some address →
          address = turn.before.resolver.lead ++ name ++ turn.before.resolver.trail)) ∧
      ∃ built ∈ past ++ [turn], Erects built name id view.url := by
  obtain ⟨recorded, turnEq⟩ := recorded_turn resolver unused site actions past turn future split
  rw [asked] at turnEq
  rw [turnEq] at given ⊢
  exact recorded.given name id given

/-- A name is resolved before and after its address changes. -/
def moved : List (Action Recorder) :=
  [.perform (.resolve "home"), .set (.lead "drafts/"), .perform (.resolve "home")]

theorem address_iff_moved :
    ∃ past turn, (Session.mk pages ⟨{ files := ⟨[], []⟩ }, []⟩).acts moved = past ++ [turn] ∧
      turn.operation = .perform (.resolve "home") ∧ turn.outcome = .resolved (.ok 0) ∧
      turn.before.resolver.url "home" = "drafts/home.html" ∧
      builtAt? "home" past = some "pages/home.html" ∧
      ∃ view, turn.after.site.view? 0 = some view ∧
        view.url ≠ turn.before.resolver.lead ++ "home" ++ turn.before.resolver.trail := by
  refine ⟨[_, _], _, rfl, rfl, rfl, rfl, rfl, ?_⟩
  obtain ⟨view, found, settled, _⟩ :=
    address_iff pages rfl ⟨{ files := ⟨[], []⟩ }, []⟩ moved [_, _] _ [] rfl "home" 0 rfl rfl
  refine ⟨view, found, ?_⟩
  intro current
  have same : "pages/home.html" = "drafts/home.html" := settled.mp current rfl _ rfl
  exact absurd same (by decide)

/-- Not every view that a resolver gives has the address that its settings tell. -/
theorem address_stale :
    ¬ ∀ (resolver : Resolver (Logged Recorder)), resolver.kept = [] →
      ∀ (site : Site (Logged Recorder)) (actions : List (Action Recorder))
        (past : List (Turn (Session Recorder) (Action Recorder) Outcome))
        (turn : Turn (Session Recorder) (Action Recorder) Outcome)
        (future : List (Turn (Session Recorder) (Action Recorder) Outcome)),
        (Session.mk resolver site).acts actions = past ++ turn :: future →
        ∀ name id view, turn.operation = .perform (.resolve name) →
          turn.outcome = .resolved (.ok id) → turn.after.site.view? id = some view →
          view.url = turn.before.resolver.url name := by
  intro current
  have same : "pages/home.html" = "drafts/home.html" :=
    current pages rfl ⟨{ files := ⟨[], []⟩ }, []⟩ moved [_, _] _ [] rfl "home" 0 _ rfl rfl rfl
  exact absurd same (by decide)

end Session

end Resolver

end Stencil
