import Stencil.Engine.Recorder
import Stencil.Proofs.View.Origin
import Stencil.Proofs.View.Sinks

/-!
What a response says about its body. The settings of a view hold the charset that its bodies are
written in (`resolve_charset`), and a response is given that charset, the body in it and a content type
that names it (`responses_declare`).
-/

namespace Stencil

namespace Settings

theorem checkedCharset_eq_ok (settings : Settings) (charset : Charset)
    (known : settings.checkedCharset = .ok charset) :
    Charset.ofLabel? (settings.charset.getD defaultCharset) = some charset := by
  unfold checkedCharset at known
  cases labelled : Charset.ofLabel? (settings.charset.getD defaultCharset) with
  | none => simp [labelled] at known
  | some own =>
      simp only [labelled, Except.ok.injEq] at known
      rw [known]

/-- The charset of a label, the one that is written in its place, and how it is named by default. -/
theorem resolve_charset (settings : Settings) (resolved : Resolved)
    (ok : settings.resolve = .ok resolved) :
    Charset.ofLabel? (settings.charset.getD defaultCharset) = some resolved.charset ∧
      resolved.outputCharset = resolved.charset.output ∧
      (settings.contentType = none →
        resolved.contentType = "text/html;charset=" ++ resolved.outputCharset.name) := by
  obtain ⟨_, _, charset, _, _, _, known, rfl⟩ := (resolve_eq_ok_iff settings resolved).mp ok
  refine ⟨checkedCharset_eq_ok settings charset known, rfl, ?_⟩
  intro unset
  dsimp only
  rw [unset]
  rfl

end Settings

/-- A response has a charset, and a text as its body in that charset. -/
structure Response.Declares (response : Response) (charset : Charset) (text : String) : Prop where
  named : response.charset = charset
  body : response.body = charset.encode text.toList

namespace View

variable {ε : Type} [ScriptEngine ε] (view : View ε) (context : RenderContext)
  (model : List (String × Json)) (host : Host ε)

/-- A render gives a response: a new one, or one that was handed to it. -/
def Gives (response : Response) : Prop :=
  (view.render context model host).answer = .ok response ∨
    ∃ held : Response, (view.renderTo context model held host).1.answer = .ok () ∧
      (view.renderTo context model held host).2 = response

/-- Whatever a response held before, it is what the rendered text makes of it. -/
theorem Gives.respond {response : Response} (gives : view.Gives context model host response) :
    ∃ text, (view.renderText context model host).answer = .ok text ∧
      response = View.respond view.settings text := by
  rcases gives with rendered | ⟨held, rendered, same⟩
  · exact (view.render_follows context model host).of_ok response rendered
  · obtain ⟨text, plain, _⟩ :=
      (view.renderTo_follows context model host held (fun _ => rfl)).of_ok () rendered
    refine ⟨text, plain, ?_⟩
    rw [← same, renderTo_sink, plain]
    rfl

theorem respond_declares (settings : Resolved)
    (own : settings.outputCharset.output = settings.outputCharset) (text : String) :
    (respond settings text).Declares settings.outputCharset text where
  named := own
  body := rfl

end View

namespace Site

variable {ε : Type} [ScriptEngine ε]

/-- Every view of a run was built from settings that name a known charset. Its output charset is the
one written in place of that, and nothing is written in place of it again. Whenever a render of the
view gives a response, in whatever state the host is, the response has the output charset, its body is
the rendered text in that charset, and unless a layer sets a content type, the one of the response
names it. -/
theorem responses_declare (host : Host (Logged ε)) (operations : List (Operation ε)) (number : Nat)
    (view : View (Logged ε))
    (there : ((Site.mk host []).finish operations).view? number = some view) :
    ∃ turn ∈ (Site.mk host []).turns operations, ∃ environment builder template,
      Builds turn number environment builder ∧ environment.templates = [template] ∧
        (builder.settings.withFallback template).resolve = .ok view.settings ∧
        Charset.ofLabel? ((builder.settings.charset.or template.charset).getD "UTF-8") =
          some view.settings.charset ∧
        view.settings.outputCharset = view.settings.charset.output ∧
        view.settings.outputCharset.output = view.settings.outputCharset ∧
        ∀ context model later response, view.Gives context model later response →
          ∃ text, (view.renderText context model later).answer = .ok text ∧
            response.Declares view.settings.outputCharset text ∧
            (builder.settings.contentType = none → template.contentType = none →
              response.contentType = "text/html;charset=" ++ response.charset.name) := by
  obtain ⟨turn, member, environment, builder, builds, template, only, ok⟩ :=
    exists_build host operations number view there
  obtain ⟨labelled, written, typed⟩ := Settings.resolve_charset _ _ ok
  -- A body is written in the output of the output charset, which is that charset again.
  have own : view.settings.outputCharset.output = view.settings.outputCharset := by
    rw [written, Charset.output_output]
  refine ⟨turn, member, environment, builder, template, builds, only, ok, labelled, written, own, ?_⟩
  intro context model later response gives
  obtain ⟨text, rendered, same⟩ := View.Gives.respond view context model later gives
  have declares := View.respond_declares view.settings own text
  rw [← same] at declares
  refine ⟨text, rendered, declares, ?_⟩
  intro unset unsetBelow
  have bare : (builder.settings.withFallback template).contentType = none := by
    unfold Settings.withFallback
    rw [unset, unsetBelow]
    rfl
  rw [declares.named, ← typed bare, same]
  rfl

def wide : Environment Recorder :=
  ⟨.memory [("t", [104, 105])],
    Registry.ofFactories [Recorder.factory 0 "recording" [] ⟨["render"], [], false⟩ none],
    [{ engineName := some "recording", renderFunction := some "render", charset := some "utf-16" }]⟩

/-- A view whose template is read as UTF-16. -/
def wideSite : Site (Logged Recorder) :=
  (Site.mk { files := ⟨[], []⟩ } []).finish [.build wide { url := some "t" }]

theorem responses_declare_wide :
    ∃ view response, wideSite.view? 0 = some view ∧ view.settings.charset = .utf16le ∧
      (view.render (.new 0 none) [] wideSite.host).answer = .ok response ∧
      response.contentType = "text/html;charset=UTF-8" ∧
      ∃ text, (view.renderText (.new 0 none) [] wideSite.host).answer = .ok text ∧
        response.Declares .utf8 text := by
  have answered : (wideSite.view? 0).map (fun view =>
      (view.settings.charset, view.settings.outputCharset,
        (view.render (.new 0 none) [] wideSite.host).answer.toOption)) =
      some (.utf16le, .utf8, some ⟨"text/html;charset=UTF-8",
        [114, 101, 110, 100, 101, 114, 40, 230, 165, 168, 44, 32, 123, 125, 41], .utf8⟩) := by
    decide +kernel
  obtain ⟨view, found, same⟩ := Option.map_eq_some_iff.mp answered
  rw [Prod.mk.injEq, Prod.mk.injEq] at same
  obtain ⟨charset, written, response⟩ := same
  cases rendered : (view.render (.new 0 none) [] wideSite.host).answer with
  | error fault => simp [rendered, Except.toOption] at response
  | ok held =>
      rw [rendered] at response
      obtain ⟨_, _, _, _, _, _, _, _, _, _, _, declared⟩ :=
        responses_declare { files := ⟨[], []⟩ } [.build wide { url := some "t" }] 0 view found
      obtain ⟨text, plain, declares, _⟩ :=
        declared (.new 0 none) [] wideSite.host held (Or.inl rendered)
      rw [written] at declares
      exact ⟨view, held, found, charset, rendered,
        congrArg Response.contentType (Option.some.inj response), text, plain, declares⟩

end Site

end Stencil
