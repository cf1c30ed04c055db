import Stencil.Proofs.View.Render

/-!
The ways to render agree. Whether a view renders to a text, into a sink or to a response, it answers
alike and leaves the same engines behind; a sink is told the content type and given the body once,
after everything that can fail, and is left alone when rendering fails. `Watched` makes the calls of a
sink visible.
-/

namespace Stencil

/-- A call of a sink. -/
inductive SinkCall where
  | contentType (contentType : String)
  | body (text : String) (charset : Charset)
  deriving DecidableEq, Repr

/-- A sink with the calls that were made to it, in their order. -/
structure Watched (σ : Type) where
  sink : σ
  calls : List SinkCall := []

instance {σ : Type} [Sink σ] : Sink (Watched σ) where
  setContentType watched contentType :=
    ⟨Sink.setContentType watched.sink contentType, watched.calls ++ [.contentType contentType]⟩
  writeBody watched body charset :=
    let written := Sink.writeBody watched.sink body charset
    { answer := written.answer
      sink := ⟨written.sink, watched.calls ++ [.body body charset]⟩
      events := written.events }

variable {ε : Type}

/-- The host without what was reported on it. -/
def Host.unreported (host : Host ε) : Host ε :=
  { host with journal := host.lookups.map Entry.lookedUp }

theorem Host.unreported_foldl_report (host : Host ε) (events : List Event) :
    (events.foldl Host.report host).unreported = host.unreported := by
  unfold Host.unreported
  rw [Host.foldl_report_lookups, Host.foldl_report]

/-- Another way to render answers as rendering to a text does, and leaves the same view and the same
host behind, apart from what is reported. -/
structure Rendered.Follows {α : Type} (other : Rendered ε α) (plain : Rendered ε String)
    (give : String → α) : Prop where
  answer : other.answer = plain.answer.map give
  view : other.view = plain.view
  host : other.host.unreported = plain.host.unreported

theorem Rendered.Follows.of_ok {α : Type} {other : Rendered ε α} {plain : Rendered ε String}
    {give : String → α} (follows : other.Follows plain give) (value : α)
    (ok : other.answer = .ok value) : ∃ text, plain.answer = .ok text ∧ value = give text := by
  have same := follows.answer
  rw [ok] at same
  cases answered : plain.answer with
  | error fault => simp [answered, Except.map] at same
  | ok text =>
      rw [answered] at same
      exact ⟨text, rfl, Except.ok.inj same⟩

namespace View

variable {σ : Type} [Sink σ]

/-- A body in a sink, after its content type. -/
def deliver (settings : Resolved) (text : String) (sink : σ) : Written σ :=
  Sink.writeBody (Sink.setContentType sink settings.contentType) text settings.outputCharset

variable [ScriptEngine ε] (view : View ε) (context : RenderContext) (model : List (String × Json))
  (host : Host ε)

section

variable (sink : σ)

/-- What a sink becomes: nothing is done to it when rendering fails. -/
theorem renderTo_sink :
    (view.renderTo context model sink host).2 =
      match (view.renderText context model host).answer with
      | .error _ => sink
      | .ok text => (deliver view.settings text sink).sink := by
  unfold renderTo
  rcases view.renderText context model host with ⟨answer, after, last⟩
  cases answer with
  | error fault => rfl
  | ok text =>
      dsimp only
      unfold deliver
      cases (Sink.writeBody (Sink.setContentType sink view.settings.contentType) text
        view.settings.outputCharset).answer <;> rfl

/-- A sink that takes every body is no way for a render to fail. -/
theorem renderTo_follows
    (takes : ∀ text, (deliver view.settings text sink).answer = .ok ()) :
    (view.renderTo context model sink host).1.Follows (view.renderText context model host)
      (fun _ => ()) := by
  unfold renderTo
  rcases view.renderText context model host with ⟨answer, after, last⟩
  cases answer with
  | error fault => exact ⟨rfl, rfl, rfl⟩
  | ok text =>
      have taken := takes text
      unfold deliver at taken
      simp only [taken]
      exact ⟨rfl, rfl, Host.unreported_foldl_report last _⟩

theorem renderTo_watched (watched : Watched σ) :
    (view.renderTo context model watched host).1 =
      (view.renderTo context model watched.sink host).1 := by
  unfold renderTo
  rcases view.renderText context model host with ⟨answer, after, last⟩
  cases answer with
  | error fault => rfl
  | ok text =>
      dsimp only [Sink.setContentType, Sink.writeBody]
      cases (Sink.writeBody (Sink.setContentType watched.sink view.settings.contentType) text
        view.settings.outputCharset).answer <;> rfl

end

theorem render_follows :
    (view.render context model host).Follows (view.renderText context model host)
      (respond view.settings) := by
  obtain ⟨events, rendered⟩ := view.render_eq context model host
  rw [rendered]
  exact ⟨rfl, rfl, Host.unreported_foldl_report _ events⟩

/-- Rendering to a text, into a text, into a response and to a new response all fail with one error or
all succeed, and leave the same view, with its engines, and the same host behind. A sink of any kind is
left alone, with no call made to it, when rendering fails; otherwise it is told the content type of the
view once and then given the text once. So a text grows by what is rendered, and a response holds it in
the output charset. -/
theorem entries_agree (text : String) (response : Response) :
    (view.renderTo context model text host).1.Follows (view.renderText context model host)
        (fun _ => ()) ∧
      (view.renderTo context model response host).1.Follows (view.renderText context model host)
        (fun _ => ()) ∧
      (view.render context model host).Follows (view.renderText context model host)
        (respond view.settings) ∧
      (∀ (σ : Type) [Sink σ] (watched : Watched σ),
        (view.renderTo context model watched host).1 =
            (view.renderTo context model watched.sink host).1 ∧
          (view.renderTo context model watched host).2.sink =
            (view.renderTo context model watched.sink host).2 ∧
          match (view.renderText context model host).answer with
          | .error _ => (view.renderTo context model watched host).2 = watched
          | .ok out =>
              (view.renderTo context model watched host).2.calls = watched.calls ++
                [.contentType view.settings.contentType,
                  .body out view.settings.outputCharset]) ∧
      match (view.renderText context model host).answer with
      | .error _ =>
          (view.renderTo context model text host).2 = text ∧
            (view.renderTo context model response host).2 = response
      | .ok out =>
          (view.renderTo context model text host).2 = text ++ out ∧
            (view.renderTo context model response host).2 =
              ⟨view.settings.contentType, view.settings.outputCharset.encode out.toList,
                view.settings.outputCharset.output⟩ := by
  refine ⟨view.renderTo_follows context model host text (fun _ => rfl),
    view.renderTo_follows context model host response (fun _ => rfl),
    view.render_follows context model host, ?_, ?_⟩
  · intro σ _ watched
    refine ⟨view.renderTo_watched context model host watched, ?_, ?_⟩
    · rw [renderTo_sink, renderTo_sink]
      cases (view.renderText context model host).answer <;> rfl
    · rw [renderTo_sink]
      cases (view.renderText context model host).answer with
      | error fault => rfl
      | ok out => exact List.append_assoc _ _ _
  · rw [renderTo_sink, renderTo_sink]
    cases (view.renderText context model host).answer with
    | error fault => exact ⟨rfl, rfl⟩
    | ok out => exact ⟨rfl, rfl⟩

end View

end Stencil
