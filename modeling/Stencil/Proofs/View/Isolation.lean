import Stencil.Engine.Recorder
import Stencil.Proofs.View.Session

/-!
Contexts do not see each other. Whatever is done through other contexts, and however often engines are
purged, a context of a view with an engine per context is answered as if it were alone.
-/

namespace Stencil

namespace View

namespace Session

variable {ε : Type}

def glance (session : Session ε) (context : RenderContext) : Solo ε :=
  ⟨session.host.handles.getD context.id 0,
    if 0 < session.host.handles.getD context.id 0 then
      Provider.serving session.view.provider.held session.host context.id
    else none⟩

/-- What the context of a label sees of a session, where the label is in use. -/
def sight (label : Nat) (session : Session ε) : Option (Solo ε) :=
  (session.contexts.lookup label).map session.glance

/-- What the sessions of a view have in common: only the provider of the view changes, its entries
keep their rules, the files stay, and labels stand for contexts of their own. -/
structure Settled (view : View ε) (factory : Factory ε) (files : FileSystem)
    (session : Session ε) : Prop where
  only : session.view = { view with provider := session.view.provider }
  sound : Provider.Session.Sound view.provider.bootstrap factory
    ⟨session.view.provider, session.host⟩
  files : session.host.files = files
  entered : ∀ label context, session.contexts.lookup label = some context →
    context.id < session.host.handles.length
  apart : ∀ label other context neighbour, session.contexts.lookup label = some context →
    session.contexts.lookup other = some neighbour → context.id = neighbour.id → label = other

theorem glance_live (session : Session ε) (context : RenderContext)
    (live : session.host.isLive context.id = true) :
    session.glance context = ⟨session.host.handles.getD context.id 0,
      Provider.serving session.view.provider.held session.host context.id⟩ := by
  have positive : 0 < session.host.handles.getD context.id 0 := by simpa [Host.isLive] using live
  unfold glance
  rw [if_pos positive]

theorem glance_eq (session after : Session ε) (context : RenderContext)
    (handles : after.host.handles.getD context.id 0 = session.host.handles.getD context.id 0)
    (serves : session.host.isLive context.id = true →
      Provider.serving after.view.provider.held after.host context.id =
        Provider.serving session.view.provider.held session.host context.id) :
    after.glance context = session.glance context := by
  unfold glance
  rw [handles]
  by_cases positive : 0 < session.host.handles.getD context.id 0
  · rw [if_pos positive, if_pos positive, serves (by simpa [Host.isLive] using positive)]
  · rw [if_neg positive, if_neg positive]

/-- What was done through one context: it is answered and left as expected, no other context sees it,
and the session stays settled. -/
structure Local (view : View ε) (factory : Factory ε) (files : FileSystem) (session : Session ε)
    (context : RenderContext) (result : Outcome ε × Session ε) (expected : Outcome ε × Solo ε) :
    Prop where
  answer : result.1 = expected.1
  own : result.2.glance context = expected.2
  others : ∀ other : RenderContext, other.id ≠ context.id →
    result.2.glance other = session.glance other
  contexts : result.2.contexts = session.contexts
  settled : Settled view factory files result.2

variable {view : View ε} {factory : Factory ε} {files : FileSystem} {session : Session ε}

theorem Settled.change (settled : Settled view factory files session)
    (after : Provider.Session ε)
    (sound : Provider.Session.Sound view.provider.bootstrap factory after)
    (sameFiles : after.host.files = session.host.files)
    (handles : after.host.handles.length = session.host.handles.length) :
    Settled view factory files
      ⟨{ session.view with provider := after.provider }, after.host, session.contexts⟩ where
  only := by rw [settled.only]
  sound := sound
  files := sameFiles.trans settled.files
  entered := by
    intro label context found
    rw [handles]
    exact settled.entered label context found
  apart := settled.apart

theorem Settled.confined (settled : Settled view factory files session) (context : RenderContext)
    (live : session.host.isLive context.id = true) (after : Provider.Session ε)
    (engine : Option (String × ε)) (answer expected : Outcome ε) (answered : answer = expected)
    (confined : Provider.Session.Confined view.provider.bootstrap factory
      ⟨session.view.provider, session.host⟩ after context.id engine) :
    Local view factory files session context
      (answer, ⟨{ session.view with provider := after.provider }, after.host, session.contexts⟩)
      (expected, ⟨(session.glance context).handles, engine⟩) where
  answer := answered
  own := by
    have still : after.host.isLive context.id = true := by
      rw [Host.isLive_congr _ _ confined.handles]
      exact live
    rw [glance_live _ context still, glance_live session context live, confined.own,
      confined.handles]
  others := by
    intro other different
    refine glance_eq session _ other ?_ (confined.others other.id different)
    rw [confined.handles]
  contexts := rfl
  settled := settled.change after confined.sound confined.files
    (congrArg List.length confined.handles)

theorem Settled.handles (settled : Settled view factory files session) (context : RenderContext)
    (change : Nat → Nat) (engine : Option (String × ε)) (host : Host ε)
    (changed : host = { session.host with
      handles := session.host.handles.modify context.id change })
    (live : session.host.isLive context.id = true)
    (kept : engine = if 0 < change (session.host.handles.getD context.id 0) then
      (session.glance context).engine else none) :
    Local view factory files session context (.done, { session with host := host })
      (.done, ⟨change (session.glance context).handles, engine⟩) where
  answer := rfl
  own := by
    have inside := session.host.lt_of_isLive context.id live
    have count : host.handles.getD context.id 0 =
        change (session.host.handles.getD context.id 0) := by
      rw [changed, List.getD_eq_getElem?_getD, List.getD_eq_getElem?_getD,
        List.getElem?_modify_eq, List.getElem?_eq_getElem inside]
      rfl
    rw [kept, glance_live session context live]
    unfold glance
    rw [count, changed]
    rfl
  others := by
    intro other different
    refine glance_eq session _ other ?_ ?_
    · rw [changed, List.getD_eq_getElem?_getD, List.getD_eq_getElem?_getD,
        List.getElem?_modify_ne _ _ (Ne.symm different)]
    · intro _live
      rw [changed]
      rfl
  contexts := rfl
  settled := by
    have length : host.handles.length = session.host.handles.length := by
      rw [changed, List.length_modify]
    refine settled.change ⟨session.view.provider, host⟩ ?_ (by rw [changed]) length
    exact settled.sound.host host (Nat.le_of_eq length.symm) (by simp [changed])

variable [ScriptEngine ε]

/-- A render to a text is of one context only, and is answered by its own engine. -/
theorem Settled.renderText (settled : Settled view factory files session)
    (alike : ∀ request, factory.make request = factory.make 0) (context : RenderContext)
    (live : session.host.isLive context.id = true) (model : List (String × Json)) :
    ∃ after : Provider.Session ε,
      session.view.renderText context model session.host =
        ⟨((session.glance context).renderText view factory files model).1,
          { session.view with provider := after.provider }, after.host⟩ ∧
      Provider.Session.Confined view.provider.bootstrap factory
        ⟨session.view.provider, session.host⟩ after context.id
        ((session.glance context).renderText view factory files model).2 := by
  have entered := session.host.lt_of_isLive context.id live
  have template : session.view.template session.host.files = view.template files := by
    rw [settled.only, settled.files]
    rfl
  have url : session.view.url = view.url := by rw [settled.only]
  have settings : session.view.settings = view.settings := by rw [settled.only]
  rw [glance_live session context live]
  unfold Solo.renderText Solo.obtain
  cases read : view.template files with
  | error fault =>
      have unread := template.trans read
      refine ⟨⟨session.view.provider, session.host.report
        (.renderFailed session.view.url (.rendering session.view.url fault))⟩, ?_, ?_⟩
      · rw [session.view.renderText_unread context model session.host fault unread, url]
      · exact ⟨rfl, fun _ _ _ => rfl, settled.sound.host _ (Nat.le_refl _) (Nat.le_refl _), rfl,
          rfl⟩
  | ok text =>
      have readable := template.trans read
      rcases served : session.view.provider.engine context session.host with ⟨answer, provider, last⟩
      have shows := (settled.sound.serving_engine alike ⟨provider, last⟩ context answer served).1
      have confined := settled.sound.confined_engine alike ⟨provider, last⟩ context entered answer
        served
      dsimp only at shows confined
      rw [settled.files] at shows confined
      cases obtained : Provider.obtained view.provider.bootstrap factory files
          (Provider.serving session.view.provider.held session.host context.id) with
      | error fault =>
          rw [obtained] at shows confined
          have failed := Provider.eq_error_of_shown last answer fault shows
          rw [failed] at served
          refine ⟨⟨provider, last.report
            (.renderFailed session.view.url (.rendering session.view.url fault))⟩, ?_,
            confined.report [_]⟩
          simp only [session.view.renderText_unserved context model session.host last text provider
            fault readable served, url]
      | ok own =>
          obtain ⟨name, state⟩ := own
          rw [obtained] at shows confined
          obtain ⟨engine, gave, named, found⟩ :=
            Provider.eq_ok_of_shown last answer name state shows
          rw [gave] at served
          have kept := settled.sound.kept_of_engine_ok ⟨provider, last⟩ context entered
            engine served
          obtain ⟨noted, rendered⟩ := session.view.renderText_served context model session.host last
            text provider engine state readable served found
          refine ⟨⟨provider, last.withEngine engine.id (invoke view.settings state
            [.string text, .ofMembers model]).engine noted⟩, ?_, ?_⟩
          · simp only [rendered, settings, url]
          · have called := confined.withEngine engine kept (invoke view.settings state
              [.string text, .ofMembers model]).engine noted
            rw [named] at called
            exact called

/-- Whatever is done through a context, it is answered as if it were alone, and no other context sees
it. -/
theorem Settled.perform (settled : Settled view factory files session)
    (alike : ∀ request, factory.make request = factory.make 0) (context : RenderContext)
    (live : session.host.isLive context.id = true) (act : Act) :
    Local view factory files session context (session.perform context act)
      ((session.glance context).perform view factory files act) := by
  have positive : 0 < session.host.handles.getD context.id 0 := by simpa [Host.isLive] using live
  have settings : session.view.settings = view.settings := by rw [settled.only]
  cases act with
  | clone =>
      refine settled.handles context (fun count => count + 1) _ _
        (session.host.cloneContext_eq context) live ?_
      rw [if_pos (Nat.succ_pos _)]
  | drop =>
      refine settled.handles context (fun count => count - 1) _ _
        (session.host.dropContext_eq context) live ?_
      have last : 0 < session.host.handles.getD context.id 0 - 1 ↔
          1 < (session.glance context).handles := by
        change _ ↔ 1 < session.host.handles.getD context.id 0
        omega
      simp only [last]
  | render model =>
      obtain ⟨after, rendered, confined⟩ := settled.renderText alike context live model
      obtain ⟨events, wrapped⟩ := session.view.render_eq context model session.host
      rw [rendered] at wrapped
      simp only [Session.perform, Solo.perform, wrapped]
      exact settled.confined context live ⟨after.provider, events.foldl Host.report after.host⟩ _ _ _
        (by rw [settings]) (confined.report events)
  | renderText model =>
      obtain ⟨after, rendered, confined⟩ := settled.renderText alike context live model
      simp only [Session.perform, Solo.perform, rendered]
      exact settled.confined context live after _ _ _ rfl confined
  | engine =>
      rcases served : session.view.provider.engine context session.host with ⟨answer, provider, last⟩
      have shows := (settled.sound.serving_engine alike ⟨provider, last⟩ context answer served).1
      have confined := settled.sound.confined_engine alike ⟨provider, last⟩ context
        (session.host.lt_of_isLive context.id live) answer served
      dsimp only at shows confined
      rw [settled.files] at shows confined
      rw [glance_live session context live]
      simp only [Session.perform, Solo.perform, View.engine, Solo.obtain, served]
      exact settled.confined context live ⟨provider, last⟩ _ _ _ (by rw [shows]) confined
  | release =>
      have confined := settled.sound.confined_release context
      have found : (session.view.provider.release context).1 =
          (session.glance context).engine.isSome := by
        rw [glance_live session context live]
        exact settled.sound.release_found context
      exact settled.confined context live ⟨(session.view.provider.release context).2, session.host⟩
        _ _ _ (congrArg Outcome.released found) confined

/-! ### One operation -/

theorem step_enter (label : Nat) (name : Option String)
    (unused : session.contexts.lookup label = none) :
    session.step (.enter label name) =
      (.done, ⟨session.view, (session.host.openContext name).2,
        (label, .new session.host.handles.length name) :: session.contexts⟩) := by
  simp only [Session.step, unused]
  rfl

theorem lookup_other (label other : Nat) (context : RenderContext)
    (contexts : List (Nat × RenderContext)) (different : other ≠ label) :
    List.lookup other ((label, context) :: contexts) = contexts.lookup other := by
  rw [List.lookup_cons, beq_false_of_ne different]

theorem Settled.enter (settled : Settled view factory files session) (label : Nat)
    (name : Option String) (unused : session.contexts.lookup label = none) :
    Settled view factory files (session.step (.enter label name)).2 := by
  rw [step_enter label name unused]
  refine ⟨settled.only, settled.sound.host _ (by simp) (Nat.le_refl _), settled.files, ?_, ?_⟩
  · intro other context found
    rw [Host.openContext_handles, List.length_append, List.length_singleton]
    by_cases same : other = label
    · rw [same, List.lookup_cons_self] at found
      rw [← Option.some.inj found]
      exact Nat.lt_succ_self _
    · rw [lookup_other label other _ _ same] at found
      exact Nat.lt_succ_of_lt (settled.entered other context found)
  · intro first second context neighbour firstFound secondFound same
    by_cases firstNew : first = label
    · by_cases secondNew : second = label
      · rw [firstNew, secondNew]
      · rw [firstNew, List.lookup_cons_self] at firstFound
        rw [lookup_other label second _ _ secondNew] at secondFound
        have older := settled.entered second neighbour secondFound
        rw [← same, ← Option.some.inj firstFound] at older
        exact absurd older (Nat.lt_irrefl _)
    · rw [lookup_other label first _ _ firstNew] at firstFound
      by_cases secondNew : second = label
      · rw [secondNew, List.lookup_cons_self] at secondFound
        have older := settled.entered first context firstFound
        rw [same, ← Option.some.inj secondFound] at older
        exact absurd older (Nat.lt_irrefl _)
      · rw [lookup_other label second _ _ secondNew] at secondFound
        exact settled.apart first second context neighbour firstFound secondFound same

theorem Settled.sight_enter (settled : Settled view factory files session) (label : Nat)
    (name : Option String) (unused : session.contexts.lookup label = none) :
    (session.step (.enter label name)).2.sight label = some ⟨1, none⟩ := by
  have absent : Provider.kept session.view.provider.held session.host.handles.length = none :=
    settled.sound.kept_eq_none _ (Nat.le_refl _)
  rw [step_enter label name unused]
  unfold sight glance
  rw [List.lookup_cons_self]
  simp [Provider.serving_of_kept_eq_none _ _ _ absent]

theorem Settled.sight_enter_other (settled : Settled view factory files session)
    (label other : Nat) (name : Option String) (unused : session.contexts.lookup label = none)
    (different : other ≠ label) :
    (session.step (.enter label name)).2.sight other = session.sight other := by
  rw [step_enter label name unused]
  unfold sight
  rw [lookup_other label other _ _ different]
  cases found : session.contexts.lookup other with
  | none => rfl
  | some context =>
      refine congrArg some (glance_eq session _ context ?_ (fun _live => rfl))
      rw [Host.openContext_handles, List.getD_eq_getElem?_getD, List.getD_eq_getElem?_getD,
        List.getElem?_append_left (settled.entered other context found)]

theorem Settled.purge (settled : Settled view factory files session) :
    Settled view factory files (session.step .purge).2 ∧
      ∀ label, (session.step .purge).2.sight label = session.sight label := by
  have frame := settled.sound.purge_frame
  refine ⟨settled.change _ settled.sound.purge frame.2 (congrArg List.length frame.1), ?_⟩
  intro label
  unfold sight
  cases found : session.contexts.lookup label with
  | none => simp [Session.step, found]
  | some context =>
      simp only [Session.step, found, Option.map_some]
      refine congrArg some (glance_eq session _ context ?_ ?_)
      · rw [frame.1]
      · exact settled.sound.serving_purge context.id

theorem Settled.act (settled : Settled view factory files session)
    (alike : ∀ request, factory.make request = factory.make 0) (label : Nat) (act : Act) :
    Settled view factory files (session.step (.act label act)).2 ∧
      ((session.step (.act label act)).1 =
          (Solo.step view factory files (session.sight label) (.act label act)).1 ∧
        (session.step (.act label act)).2.sight label =
          (Solo.step view factory files (session.sight label) (.act label act)).2) ∧
      ∀ other, other ≠ label →
        (session.step (.act label act)).2.sight other = session.sight other := by
  cases found : session.contexts.lookup label with
  | none =>
      have unseen : session.sight label = none := by simp [sight, found]
      simp only [Session.step, Solo.step, found, unseen]
      exact ⟨settled, ⟨trivial, trivial⟩, fun _ _ => trivial⟩
  | some context =>
      have seen : session.sight label = some (session.glance context) := by simp [sight, found]
      have counted : session.host.isLive context.lease =
          decide (0 < (session.glance context).handles) := session.host.isLive_lease context
      simp only [Session.step, Solo.step, found, seen, counted, decide_eq_true_eq]
      by_cases live : 0 < (session.glance context).handles
      · have done := settled.perform alike context (decide_eq_true live) act
        simp only [if_pos live]
        refine ⟨done.settled, ⟨done.answer, ?_⟩, ?_⟩
        · unfold sight
          rw [done.contexts, found, Option.map_some, done.own]
        · intro other different
          unfold sight
          rw [done.contexts]
          cases foundOther : session.contexts.lookup other with
          | none => rfl
          | some neighbour =>
              refine congrArg some (done.others neighbour ?_)
              intro same
              exact different (settled.apart other label neighbour context foundOther found same)
      · simp only [if_neg live]
        exact ⟨settled, ⟨trivial, seen⟩, fun _ _ => trivial⟩

theorem Settled.step (settled : Settled view factory files session)
    (alike : ∀ request, factory.make request = factory.make 0) (operation : Operation) :
    Settled view factory files (session.step operation).2 := by
  cases operation with
  | enter label name =>
      cases found : session.contexts.lookup label with
      | none => exact settled.enter label name found
      | some context =>
          simp only [Session.step, found]
          exact settled
  | act label act => exact (settled.act alike label act).1
  | purge => exact settled.purge.1

/-- The operations of a context are answered by what it sees, and change what it sees, as if it were
alone. -/
theorem Settled.step_own (settled : Settled view factory files session)
    (alike : ∀ request, factory.make request = factory.make 0) (label : Nat)
    (operation : Operation) (own : operation.concerns label = true) :
    (session.step operation).1 =
        (Solo.step view factory files (session.sight label) operation).1 ∧
      (session.step operation).2.sight label =
        (Solo.step view factory files (session.sight label) operation).2 := by
  cases operation with
  | enter other name =>
      have same : other = label := beq_iff_eq.mp own
      subst same
      cases found : session.contexts.lookup other with
      | none =>
          have unseen : session.sight other = none := by simp [sight, found]
          rw [settled.sight_enter other name found, step_enter other name found, unseen]
          exact ⟨rfl, rfl⟩
      | some context =>
          have seen : session.sight other = some (session.glance context) := by
            simp [sight, found]
          simp only [Session.step, Solo.step, found, seen]
          exact ⟨trivial, trivial⟩
  | act other act =>
      have same : other = label := beq_iff_eq.mp own
      subst same
      exact (settled.act alike other act).2.1
  | purge => cases own

theorem Settled.step_other (settled : Settled view factory files session)
    (alike : ∀ request, factory.make request = factory.make 0) (label : Nat)
    (operation : Operation) (foreign : operation.concerns label = false) :
    (session.step operation).2.sight label = session.sight label := by
  cases operation with
  | enter other name =>
      have different : label ≠ other := (beq_eq_false_iff_ne.mp foreign).symm
      cases found : session.contexts.lookup other with
      | none => exact settled.sight_enter_other other label name found different
      | some context => simp only [Session.step, found]
  | act other act =>
      have different : label ≠ other := (beq_eq_false_iff_ne.mp foreign).symm
      exact (settled.act alike other act).2.2 label different
  | purge => exact settled.purge.2 label

/-! ### Runs -/

omit [ScriptEngine ε] in
theorem settled_start (view : View ε) (factory : Factory ε) (bootstrap : Bootstrap) (host : Host ε)
    (lends : view.provider = .perContext factory bootstrap) :
    Settled view factory host.files ⟨view, host, []⟩ where
  only := rfl
  sound := by
    rw [lends]
    exact Provider.Session.sound_start bootstrap factory host
  files := rfl
  entered := by simp
  apart := by simp

/-- The operations of a context are answered as its own machine answers them. -/
theorem outcomes_alone (view : View ε) (factory : Factory ε) (bootstrap : Bootstrap)
    (host : Host ε) (lends : view.provider = .perContext factory bootstrap)
    (alike : ∀ request, factory.make request = factory.make 0) (operations : List Operation)
    (label : Nat) :
    ((Session.mk view host []).outcomes operations).filter
        (fun entry => entry.1.concerns label) =
      Machine.outcomes (Solo.step view factory host.files) none
        (operations.filter (Operation.concerns label)) :=
  Machine.outcomes_filter Session.step (Solo.step view factory host.files) (sight label)
    (Operation.concerns label) (Settled view factory host.files)
    (fun _ operation settled => settled.step alike operation)
    (fun _ operation settled own => settled.step_own alike label operation own)
    (fun _ operation settled foreign => settled.step_other alike label operation foreign)
    operations ⟨view, host, []⟩ (settled_start view factory bootstrap host lends)

/-- With an engine per context, where every request to the factory is answered alike, the outcomes of
the operations of a context are those of the run without the operations of other contexts and without
purges. -/
theorem isolation (view : View ε) (factory : Factory ε) (bootstrap : Bootstrap) (host : Host ε)
    (lends : view.provider = .perContext factory bootstrap)
    (alike : ∀ request, factory.make request = factory.make 0) (operations : List Operation)
    (label : Nat) :
    ((Session.mk view host []).outcomes operations).filter
        (fun entry => entry.1.concerns label) =
      (Session.mk view host []).outcomes (operations.filter (Operation.concerns label)) := by
  have alone := outcomes_alone view factory bootstrap host lends alike
    (operations.filter (Operation.concerns label)) label
  rw [List.filter_filter] at alone
  simp only [Bool.and_self] at alone
  rw [outcomes_alone view factory bootstrap host lends alike operations label, ← alone,
    List.filter_eq_self]
  intro entry member
  have own : entry.1 ∈ operations.filter (Operation.concerns label) := by
    rw [← Machine.map_fst_outcomes Session.step ⟨view, host, []⟩
      (operations.filter (Operation.concerns label))]
    exact List.mem_map_of_mem member
  exact (List.mem_filter.mp own).2

def recorded : View Recorder :=
  ⟨"t", ⟨.named "recording", ["a.js"], none, "render", .utf8, .utf8, "text/html", "", some false⟩,
    .memory [("t", [104, 105]), ("a.js", [])],
    .perContext (Recorder.factory 0 "recording" [] ⟨["render"], [], false⟩ none)
      ⟨["a.js"], .memory [("t", [104, 105]), ("a.js", [])], .utf8⟩⟩

def interleaved : List Operation :=
  [.enter 0 none, .enter 1 none, .act 1 (.renderText []), .act 0 (.renderText []), .purge,
    .act 1 .drop, .act 1 .clone, .act 0 (.renderText []), .act 0 .release, .act 0 .release]

/-- What a release or a render to a text was answered. -/
def plain : Outcome ε → Option (Bool ⊕ String)
  | .released found => some (.inl found)
  | .text (.ok text) => some (.inr text)
  | _ => none

theorem isolation_interleaved :
    (((Session.mk recorded { files := ⟨[], []⟩ } []).outcomes interleaved).filter
        (fun entry => entry.1.concerns 0)).map (fun entry => plain entry.2) =
      [none, some (.inr "render(hi, \x7b\x7d)"), some (.inr "render(hi, \x7b\x7d)"),
        some (.inl true), some (.inl false)] := by
  rw [isolation recorded (Recorder.factory 0 "recording" [] ⟨["render"], [], false⟩ none)
    ⟨["a.js"], .memory [("t", [104, 105]), ("a.js", [])], .utf8⟩ { files := ⟨[], []⟩ } rfl
    (fun _ => rfl) interleaved 0]
  rfl

end Session

end View

end Stencil
