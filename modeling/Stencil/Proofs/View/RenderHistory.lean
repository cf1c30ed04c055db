import Stencil.Proofs.Machine
import Stencil.Proofs.View.Calls

/-!
The history of renders. A `Stage` is a view over recorders at work: files change, contexts come and
go, engines are released, and renders are asked for in any way. The calls that the recorders keep over
a run are those of the renders that were answered, each with the template as it was at that moment.
-/

namespace Stencil

namespace View

/-- A way to render; a sink may have been given something before. -/
inductive Way where
  | text
  | response
  | intoText (earlier : String)
  | intoResponse (earlier : Response)

/-- A model: each name once, in any order. -/
structure Model where
  entries : List (String × Json)
  distinct : (entries.map Prod.fst).Nodup

section

variable {ε : Type} [ScriptEngine ε]

def renderBy (view : View ε) (way : Way) (context : RenderContext) (model : Model)
    (host : Host ε) : Rendered ε Unit :=
  match way with
  | .text =>
      let rendered := view.renderText context model.entries host
      ⟨rendered.answer.map (fun _ => ()), rendered.view, rendered.host⟩
  | .response =>
      let rendered := view.render context model.entries host
      ⟨rendered.answer.map (fun _ => ()), rendered.view, rendered.host⟩
  | .intoText earlier => (view.renderTo context model.entries earlier host).1
  | .intoResponse earlier => (view.renderTo context model.entries earlier host).1

theorem renderBy_follows (view : View ε) (way : Way) (context : RenderContext) (model : Model)
    (host : Host ε) :
    (view.renderBy way context model host).Follows (view.renderText context model.entries host)
      (fun _ => ()) := by
  cases way with
  | text => exact ⟨rfl, rfl, rfl⟩
  | response =>
      have follows := view.render_follows context model.entries host
      refine ⟨?_, follows.view, follows.host⟩
      unfold renderBy
      dsimp only
      rw [follows.answer]
      cases (view.renderText context model.entries host).answer <;> rfl
  | intoText earlier => exact view.renderTo_follows context model.entries host earlier (fun _ => rfl)
  | intoResponse earlier =>
      exact view.renderTo_follows context model.entries host earlier (fun _ => rfl)

end

structure Stage where
  view : View Recorder
  host : Host Recorder

namespace Stage

inductive Operation where
  /-- Files are written or removed: from then on they are as given. -/
  | write (files : FileSystem)
  | enter (name : Option String)
  | clone (context : RenderContext)
  | drop (context : RenderContext)
  | render (way : Way) (context : RenderContext) (model : Model)
  | engine (context : RenderContext)
  | release (context : RenderContext)
  | purge

/-- Only a render is answered. -/
abbrev Outcome : Type :=
  Option (Except ViewError Unit)

def step (stage : Stage) : Operation → Outcome × Stage
  | .write files => (none, ⟨stage.view, { stage.host with files := files }⟩)
  | .enter name => (none, ⟨stage.view, (stage.host.openContext name).2⟩)
  | .clone context => (none, ⟨stage.view, stage.host.cloneContext context⟩)
  | .drop context => (none, ⟨stage.view, stage.host.dropContext context⟩)
  | .render way context model =>
      let rendered := stage.view.renderBy way context model stage.host
      (some rendered.answer, ⟨rendered.view, rendered.host⟩)
  | .engine context =>
      let served := stage.view.engine context stage.host
      (none, ⟨served.view, served.host⟩)
  | .release context => (none, ⟨(stage.view.release context).2, stage.host⟩)
  | .purge =>
      let purged := stage.view.provider.purge stage.host
      (none, ⟨{ stage.view with provider := purged.2.1 }, purged.2.2⟩)

/-! ### What a turn adds -/

/-- The call that a turn makes, with the number of the engine. Only a render that is answered makes
one, on the engine of its context, with the template that is there at that moment and the model. -/
inductive Makes (view : View Recorder) (turn : Turn Stage Operation Outcome) :
    Option (Nat × Invocation) → Prop where
  | nothing (unanswered : turn.outcome ≠ some (.ok ())) : Makes view turn none
  | call (way : Way) (context : RenderContext) (model : Model) (engine : EngineHandle)
      (content : Bytes) (members : List (String × Json))
      (asked : turn.operation = .render way context model)
      (answered : turn.outcome = some (.ok ()))
      (serves : turn.before.view.provider.Serves turn.after.view.provider context.id
        turn.before.host engine)
      (present : (view.loader.get turn.before.host.files view.url).exists?
        turn.before.host.files = true)
      (read : (view.loader.get turn.before.host.files view.url).read turn.before.host.files =
        .ok content)
      (exactly : members.Perm model.entries)
      (anyOrder : ∀ other : Model, other.entries.Perm model.entries →
        Json.ofMembers other.entries = .object members) :
      Makes view turn (some (engine.id,
        ⟨view.settings.renderObject, view.settings.renderFunction,
          [.string (view.settings.charset.decodeString content), .object members]⟩))

def callsOn (id : Nat) : Option (Nat × Invocation) → List Invocation
  | none => []
  | some (own, invocation) => if id = own then [invocation] else []

/-- A turn adds the call that it makes to the calls of its engine and nothing else, and gives no source
to an engine that was there. -/
structure Records (view : View Recorder) (turn : Turn Stage Operation Outcome)
    (call : Option (Nat × Invocation)) : Prop where
  makes : Makes view turn call
  invocations : ∀ id, Recorder.invocationsAt turn.after.host.engines id =
    Recorder.invocationsAt turn.before.host.engines id ++ callsOn id call
  evaluated : ∀ id < turn.before.host.engines.length,
    Recorder.evaluatedAt turn.after.host.engines id =
      Recorder.evaluatedAt turn.before.host.engines id

theorem records_quiet {view : View Recorder} {turn : Turn Stage Operation Outcome}
    (unanswered : turn.outcome ≠ some (.ok ()))
    (joined : Recorder.Joined turn.before.host.engines turn.after.host.engines) :
    Records view turn none where
  makes := .nothing unanswered
  invocations := by
    intro id
    rw [joined.invocationsAt_eq]
    exact (List.append_nil _).symm
  evaluated := joined.evaluatedAt_eq

/-- Only the engines of the view change, and all of them are there. -/
structure Sound (view : View Recorder) (stage : Stage) : Prop where
  only : stage.view = { view with provider := stage.view.provider }
  staffed : stage.view.provider.Staffed stage.host.engines

variable {view : View Recorder} {stage : Stage}

theorem Sound.change (sound : Sound view stage) (provider : Provider Recorder)
    (host : Host Recorder) (staffed : provider.Staffed host.engines) :
    Sound view ⟨{ stage.view with provider := provider }, host⟩ where
  only := by rw [sound.only]
  staffed := staffed

theorem Sound.render (sound : Sound view stage) (way : Way) (context : RenderContext)
    (model : Model) :
    Sound view (stage.step (.render way context model)).2 ∧
      ∃ call, Records view (Machine.turn step stage (.render way context model)) call := by
  have follows := stage.view.renderBy_follows way context model stage.host
  obtain ⟨calls, staffed⟩ :=
    stage.view.renderText_calls context model.entries stage.host sound.staffed
  have engines := congrArg Host.engines follows.host
  unfold Host.unreported at engines
  rw [← engines, ← follows.view] at staffed calls
  have url : stage.view.url = view.url := by rw [sound.only]
  have settings : stage.view.settings = view.settings := by rw [sound.only]
  have loader : stage.view.loader = view.loader := by rw [sound.only]
  refine ⟨⟨?_, staffed⟩, ?_⟩
  · dsimp only [step]
    rw [follows.view]
    rcases stage.view.renderText_view context stage.host model.entries with same | other
    · rw [same]
      exact sound.only
    · rw [other, sound.only]
  · -- Every way to render answers as rendering to a text does, so the calls are those of the latter.
    have answer := follows.answer
    cases plain : (stage.view.renderText context model.entries stage.host).answer with
    | error fault =>
        rw [plain] at calls answer
        cases calls with
        | failed _ joined =>
            refine ⟨none, records_quiet ?_ joined⟩
            dsimp only [Machine.turn, step]
            rw [answer]
            nofun
    | ok text =>
        rw [plain] at calls answer
        cases calls with
        | made _ engine content met recorder serves present read joined found called =>
            obtain ⟨members, made, _, exactly⟩ :=
              Json.ofMembers_perm model.entries model.distinct
            rw [made, settings] at called
            rw [url, loader] at present read
            refine ⟨_, .call way context model engine content members rfl (congrArg some answer)
              serves present read exactly ?_, ?_, ?_⟩
            · intro other same
              rw [Json.ofMembers_congr model.entries other.entries same model.distinct, made]
            · intro id
              dsimp only [Machine.turn, step]
              rw [called, Recorder.invocationsAt_set met engine.id recorder found,
                joined.invocationsAt_eq]
              rfl
            · intro id there
              dsimp only [Machine.turn, step]
              rw [called, Recorder.evaluatedAt_set met engine.id recorder found,
                joined.evaluatedAt_eq id there]

theorem Sound.step (sound : Sound view stage) (operation : Operation) :
    Sound view (stage.step operation).2 ∧
      ∃ call, Records view (Machine.turn Stage.step stage operation) call := by
  have quiet : ∀ {turn : Turn Stage Operation Outcome}, turn.outcome = none →
      Recorder.Joined turn.before.host.engines turn.after.host.engines →
      ∃ call, Records view turn call := by
    intro turn silent joined
    refine ⟨none, records_quiet ?_ joined⟩
    rw [silent]
    nofun
  cases operation with
  | write files | enter name | clone context | drop context =>
      exact ⟨⟨sound.only, sound.staffed⟩, quiet rfl (.refl _)⟩
  | render way context model => exact sound.render way context model
  | engine context =>
      have lent := sound.staffed.lent context
      exact ⟨sound.change _ _ lent.staffed, quiet rfl lent.joined⟩
  | release context =>
      exact ⟨sound.change _ _ (sound.staffed.release context), quiet rfl (.refl _)⟩
  | purge =>
      refine ⟨sound.change _ _ (sound.staffed.purge), quiet rfl ?_⟩
      dsimp only [Machine.turn, Stage.step]
      rw [Provider.purge_engines]
      exact .refl _

/-! ### Runs -/

theorem Sound.history (sound : Sound view stage) (operations : List Operation) :
    ∃ calls, List.Forall₂ (Records view) (Machine.turns Stage.step stage operations) calls ∧
      ∀ id, Recorder.invocationsAt (Machine.finish Stage.step stage operations).host.engines id =
        Recorder.invocationsAt stage.host.engines id ++ calls.flatMap (callsOn id) := by
  -- Soundness carries the induction: it is what the next turn needs and what `Sound.step` gives back.
  induction operations generalizing stage with
  | nil => exact ⟨[], .nil, fun id => (List.append_nil _).symm⟩
  | cons operation rest ih =>
      obtain ⟨next, call, records⟩ := sound.step operation
      obtain ⟨calls, later, kept⟩ := ih next
      refine ⟨call :: calls, .cons records later, ?_⟩
      intro id
      have added := records.invocations id
      dsimp only [Machine.turn] at added
      rw [Machine.finish_cons, kept id, added, List.flatMap_cons, List.append_assoc]

/-- Over every run of a view over recorders that were not called before they came to it, a render that
is answered adds one call to the calls of the engine of its context and of no other, with the template
as it is then and the entries of the model in any order. Every other turn, a render that fails
included, adds none, and no engine that is there is given a source again. So the calls at the end are
those of the answered renders. -/
theorem render_history (builder : ViewBuilder) (environment : Environment Recorder)
    (host last : Host Recorder) (view : View Recorder)
    (uncalled : ∀ name factory, environment.registry.find? name = some factory → factory.Uncalled)
    (supplied : ∀ resolved engine, builder.Resolves environment resolved →
      resolved.engine = .instance engine → engine.id < host.engines.length)
    (built : builder.build environment host = (.ok view, last)) (operations : List Operation) :
    ∃ calls, List.Forall₂ (Records view) (Machine.turns Stage.step ⟨view, last⟩ operations) calls ∧
      ∀ id, Recorder.invocationsAt
          (Machine.finish Stage.step ⟨view, last⟩ operations).host.engines id =
        Recorder.invocationsAt last.engines id ++ calls.flatMap (callsOn id) := by
  have staffed := ViewBuilder.build_staffed uncalled supplied built
  have sound : Sound view ⟨view, last⟩ := ⟨rfl, staffed⟩
  exact sound.history operations

/-! A template that goes and comes back, while two contexts are rendered in. -/

def page : List Char → FileSystem
  | [] => ⟨[(["site"], .directory)], []⟩
  | text => ⟨[(["site"], .directory), (["site", "t"], .file (Utf8.encode text))], []⟩

def recording : Factory Recorder :=
  Recorder.factory 0 "recording" [] ⟨["render"], [], false⟩ none

def displayed : ViewBuilder where
  url := some "t"
  settings := { engineName := some "recording", renderFunction := some "render",
                shared := some false }
  loader := some (.classpath ["/site"])

def furnished : Environment Recorder where
  loader := .memory []
  registry := ⟨[("recording", recording)]⟩
  templates := [{}]

def exhibited : View Recorder :=
  ⟨"t", ⟨.named "recording", [], none, "render", .utf8, .utf8, "text/html;charset=UTF-8",
    "classpath:", some false⟩, .classpath ["/site"],
    .perContext recording ⟨[], .classpath ["/site"], .utf8⟩⟩

def visits : List Operation :=
  [.enter none, .enter none, .render .text (.new 0 none) ⟨[], .nil⟩, .write (page []),
    .render .response (.new 0 none) ⟨[], .nil⟩, .write (page ['b']),
    .render (.intoText "") (.new 1 none) ⟨[], .nil⟩, .release (.new 0 none),
    .render .text (.new 0 none) ⟨[], .nil⟩]

theorem render_history_two_contexts :
    ∃ calls,
      List.Forall₂ (Records exhibited) (Machine.turns Stage.step
        ⟨exhibited, (displayed.build furnished { files := page ['a'] }).2⟩ visits) calls ∧
      calls.flatMap (callsOn 0) = [⟨none, "render", [.string "a", .object []]⟩] ∧
      calls.flatMap (callsOn 1) = [⟨none, "render", [.string "b", .object []]⟩] ∧
      calls.flatMap (callsOn 2) = [⟨none, "render", [.string "b", .object []]⟩] := by
  obtain ⟨calls, records, kept⟩ := render_history displayed furnished { files := page ['a'] }
    (displayed.build furnished { files := page ['a'] }).2 exhibited (by
      intro name factory found
      obtain ⟨before, after, split, _⟩ := List.lookup_eq_some_iff.mp found
      have member : (name, factory) ∈ [("recording", recording)] := by
        change [("recording", recording)] = _ at split
        rw [split]
        exact List.mem_append_right before List.mem_cons_self
      rw [(Prod.mk.inj (List.mem_singleton.mp member)).2]
      exact Recorder.factory_uncalled 0 "recording" [] _ none) (by
      intro resolved engine settled source
      obtain ⟨template, only, resolves⟩ := settled
      cases only
      cases resolves
      cases source) rfl visits
  exact ⟨calls, records, (kept 0).symm, (kept 1).symm, (kept 2).symm⟩

end Stage

end View

end Stencil
