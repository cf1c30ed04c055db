import Mathlib.Data.List.Forall2
import Stencil.Engine.Recorder
import Stencil.Proofs.Charset.Marks
import Stencil.Proofs.View.Render

/-!
Templates and scripts behind byte order marks. A resource that holds a text behind a mark is read as the
text in every charset (`readText_marked`), so a script is run as that text (`pass_marked`) and the render
function is called with it.
-/

namespace Stencil

namespace Resource

/-- The resource can be read, and holds a text behind a byte order mark. -/
def HoldsMarked (files : FileSystem) (resource : Resource) (text : String) : Prop :=
  ∃ octets, resource.read files = .ok octets ∧ Charset.Marked text.toList octets

variable (files : FileSystem) (resource : Resource)

/-- What can be read is there. -/
theorem exists?_of_read (octets : Bytes) (read : resource.read files = .ok octets) :
    resource.exists? files = true := by
  obtain ⟨location, content⟩ := resource
  cases content with
  | file path =>
      change files.exists? path = true
      change files.read path = .ok octets at read
      unfold FileSystem.read at read
      unfold FileSystem.exists?
      cases found : files.look path with
      | error fault => simp only [found, reduceCtorEq] at read
      | ok node => rfl
  | memory content => rfl
  | missing => cases read

theorem readText_marked (charset : Charset) (text : String)
    (holds : resource.HoldsMarked files text) : resource.readText files charset = .ok text := by
  obtain ⟨octets, read, marked⟩ := holds
  unfold readText
  rw [read]
  exact congrArg Except.ok (charset.decodeString_marked text octets marked)

theorem exists?_of_marked (text : String) (holds : resource.HoldsMarked files text) :
    resource.exists? files = true := by
  obtain ⟨octets, read, _⟩ := holds
  exact resource.exists?_of_read files octets read

end Resource

variable {ε : Type}

theorem View.template_marked (view : View ε) (files : FileSystem) (text : String)
    (holds : (view.loader.get files view.url).HoldsMarked files text) :
    view.template files = .ok text := by
  unfold View.template
  dsimp only
  rw [Resource.exists?_of_marked files _ text holds, if_pos rfl,
    Resource.readText_marked files _ view.settings.charset text holds]

namespace Bootstrap

variable [ScriptEngine ε]

/-- Texts that an engine is given one after another, each under its name, until it refuses one. -/
def evalAll : ε → List (String × String) → Except ViewError Unit × ε
  | state, [] => (.ok (), state)
  | state, (location, text) :: rest =>
      let reply := ScriptEngine.eval state text (some location)
      match reply.answer with
      | .error cause => (.error (.scriptLoad location (.failed cause)), reply.engine)
      | .ok _ => evalAll reply.engine rest

/-- Each location has a resource that holds its text behind a byte order mark. -/
def AllMarked (bootstrap : Bootstrap) (files : FileSystem) (scripts texts : List String) : Prop :=
  List.Forall₂ (fun location text =>
    (bootstrap.loader.get files location).HoldsMarked files text) scripts texts

theorem pass_marked (bootstrap : Bootstrap) (files : FileSystem) (state : ε)
    (scripts texts : List String) (holds : bootstrap.AllMarked files scripts texts) :
    bootstrap.pass files state scripts = evalAll state (scripts.zip texts) := by
  induction holds generalizing state with
  | nil => rfl
  | @cons location text rest others first later ih =>
      have readable := bootstrap.source_eq_ok files location text
        (Resource.exists?_of_marked files _ text first)
        (Resource.readText_marked files _ bootstrap.charset text first)
      rw [bootstrap.pass_cons files state location rest text readable, List.zip_cons_cons, evalAll]
      cases (ScriptEngine.eval state text (some location)).answer with
      | error cause => rfl
      | ok done => exact ih _

end Bootstrap

namespace View

variable [ScriptEngine ε]

/-- A text behind a byte order mark is read as that text, to the last character and with no mark, in
every charset. So whatever the settings of a view say, its render function is called with the text of
its template, and engines run the texts of its scripts, each under its name, until one of them fails:
reading them never fails. -/
theorem marks_overrule :
    (∀ (files : FileSystem) (resource : Resource) (text : String),
      resource.HoldsMarked files text →
        ∀ charset, resource.readText files charset = .ok text) ∧
    (∀ (view : View ε) (context : RenderContext) (model : List (String × Json))
      (host after : Host ε) (text : String) (provider : Provider ε) (engine : EngineHandle)
      (state : ε),
      (view.loader.get host.files view.url).HoldsMarked host.files text →
        view.provider.engine context host = (.ok engine, provider, after) →
        after.engines[engine.id]? = some state →
        ∃ noted, view.renderText context model host =
          ⟨answered view.url
              (invoke view.settings state [.string text, .ofMembers model]).answer,
            { view with provider := provider },
            after.withEngine engine.id
              (invoke view.settings state [.string text, .ofMembers model]).engine noted⟩) ∧
    ∀ (bootstrap : Bootstrap) (engine : EngineHandle) (host : Host ε) (state : ε)
      (texts : List String), bootstrap.AllMarked host.files bootstrap.scripts texts →
        host.engines[engine.id]? = some state →
        ∃ noted, bootstrap.load engine host =
          ((Bootstrap.evalAll state (bootstrap.scripts.zip texts)).1,
            host.withEngine engine.id
              (Bootstrap.evalAll state (bootstrap.scripts.zip texts)).2 noted) := by
  refine ⟨?_, ?_, ?_⟩
  · intro files resource text holds charset
    exact resource.readText_marked files charset text holds
  · intro view context model host after text provider engine state holds served found
    exact view.renderText_served context model host after text provider engine state
      (view.template_marked host.files text holds) served found
  · intro bootstrap engine host state texts holds found
    have loaded := bootstrap.load_eq engine host state found
    rw [bootstrap.pass_marked host.files state bootstrap.scripts texts holds] at loaded
    exact loaded

/-- A character of two units, behind a mark that belongs to the text. -/
def doubleMarked : String := "\uFEFFé😀"

/-- The text with each of the three marks in front. -/
def markedThrice : Loader :=
  .memory [("t", [0xEF, 0xBB, 0xBF, 0xEF, 0xBB, 0xBF, 0xC3, 0xA9, 0xF0, 0x9F, 0x98, 0x80]),
    ("a.js", [0xFF, 0xFE, 0xFF, 0xFE, 0xE9, 0x00, 0x3D, 0xD8, 0x00, 0xDE]),
    ("b.js", [0xFE, 0xFF, 0xFE, 0xFF, 0x00, 0xE9, 0xD8, 0x3D, 0xDE, 0x00])]

/-- Read in a charset of one octet for each character, were it not for the marks. -/
def markedView : View Recorder where
  url := "t"
  settings :=
    { engine := .named "recording", scripts := ["a.js", "b.js"], renderObject := none
      renderFunction := "render", charset := .page .windows1252
      outputCharset := .page .windows1252, contentType := "", loaderPath := "", shared := none }
  loader := markedThrice
  provider := ⟨⟨["a.js", "b.js"], markedThrice, .page .windows1252⟩, .shared ⟨0, "recording"⟩⟩

def markedHost : Host Recorder where
  files := ⟨[], []⟩
  engines := [{ callables := { functions := ["render"] } }]

theorem marks_overrule_thrice :
    (markedThrice.get ⟨[], []⟩ "b.js").readText ⟨[], []⟩ .replacement = .ok doubleMarked ∧
      (markedView.renderText (.new 0 none) [] markedHost).answer =
        .ok ("render(" ++ doubleMarked ++ ", {})") ∧
      (markedView.provider.bootstrap.load ⟨0, "recording"⟩ markedHost).2.engines.map
        Recorder.evaluated = [[doubleMarked, doubleMarked]] := by
  have template : (markedThrice.get ⟨[], []⟩ "t").HoldsMarked ⟨[], []⟩ doubleMarked :=
    ⟨_, rfl, .utf8⟩
  have first : (markedThrice.get ⟨[], []⟩ "a.js").HoldsMarked ⟨[], []⟩ doubleMarked :=
    ⟨_, rfl, .utf16le⟩
  have second : (markedThrice.get ⟨[], []⟩ "b.js").HoldsMarked ⟨[], []⟩ doubleMarked :=
    ⟨_, rfl, .utf16be⟩
  obtain ⟨reads, renders, loads⟩ := marks_overrule (ε := Recorder)
  obtain ⟨_, rendered⟩ := renders markedView (.new 0 none) [] markedHost markedHost doubleMarked
    markedView.provider ⟨0, "recording"⟩ _ template rfl rfl
  obtain ⟨_, loaded⟩ := loads markedView.provider.bootstrap ⟨0, "recording"⟩ markedHost _
    [doubleMarked, doubleMarked] (.cons first (.cons second .nil)) rfl
  refine ⟨reads _ _ _ second .replacement, ?_, ?_⟩
  · rw [rendered]
    dsimp only
    decide +kernel
  · rw [loaded, Host.withEngine_engines]
    decide +kernel

end View

end Stencil
