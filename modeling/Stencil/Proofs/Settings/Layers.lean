import Mathlib.Logic.Basic
import Stencil.Settings.Resolved

/-!
Layers of settings. However layers are merged, every field of the result is the first one that a
layer sets, and `layered` says of the layers themselves when the result can be resolved, which rule
is named where it cannot, and what the resolved settings hold.
-/

namespace Stencil

namespace Settings

/-! ### Merging -/

/-- The settings whose fields are the first ones set. -/
def firsts (layers : List Settings) : Settings where
  engine := layers.findSome? Settings.engine
  engineName := layers.findSome? Settings.engineName
  scripts := layers.findSome? Settings.scripts
  renderObject := layers.findSome? Settings.renderObject
  renderFunction := layers.findSome? Settings.renderFunction
  charset := layers.findSome? Settings.charset
  contentType := layers.findSome? Settings.contentType
  loaderPath := layers.findSome? Settings.loaderPath
  shared := layers.findSome? Settings.shared

/-- An order in which layers are merged by two. `unset` stands for settings that set nothing. -/
inductive Grouping where
  | unset
  | layer (settings : Settings)
  | merged (first second : Grouping)

namespace Grouping

def layers : Grouping → List Settings
  | .unset => []
  | .layer settings => [settings]
  | .merged first second => first.layers ++ second.layers

def settings : Grouping → Settings
  | .unset => {}
  | .layer settings => settings
  | .merged first second => first.settings.withFallback second.settings

end Grouping

theorem withFallback_unset (settings : Settings) : settings.withFallback {} = settings := by
  simp only [withFallback, Option.or_none]

theorem unset_withFallback (settings : Settings) :
    ({} : Settings).withFallback settings = settings := by
  simp only [withFallback, Option.none_or]

theorem firsts_append (first second : List Settings) :
    firsts (first ++ second) = (firsts first).withFallback (firsts second) := by
  simp only [firsts, withFallback, List.findSome?_append]

theorem firsts_singleton (settings : Settings) : firsts [settings] = settings := by
  simp only [firsts, List.findSome?_singleton]

theorem Grouping.settings_eq (grouping : Grouping) :
    grouping.settings = firsts grouping.layers := by
  induction grouping with
  | unset => rfl
  | layer settings => exact (firsts_singleton settings).symm
  | merged first second firstEq secondEq =>
      rw [Grouping.settings, Grouping.layers, firsts_append, firstEq, secondEq]

theorem foldl_withFallback (start : Settings) (layers : List Settings) :
    layers.foldl withFallback start = start.withFallback (firsts layers) := by
  induction layers generalizing start with
  | nil => exact (withFallback_unset start).symm
  | cons layer rest ih =>
      rw [List.foldl_cons, ih, ← List.singleton_append, firsts_append, firsts_singleton]
      simp only [withFallback, Option.or_assoc]

theorem merge_eq_firsts (layers : List Settings) : merge layers = firsts layers := by
  rw [merge, foldl_withFallback, unset_withFallback]

/-! ### Rules -/

/-- What settings have to fulfil, in the order in which it is looked at. -/
inductive Rule where
  | engine
  | sharing
  | renderFunction
  | charset
  deriving DecidableEq, Repr

namespace Rule

def all : List Rule :=
  [.engine, .sharing, .renderFunction, .charset]

def Holds (layers : List Settings) : Rule → Prop
  | .engine =>
      ((∃ layer ∈ layers, layer.engine.isSome = true) ∧
          ∀ layer ∈ layers, layer.engineName.isSome = false) ∨
        (∃ layer ∈ layers, layer.engineName.isSome = true) ∧
          ∀ layer ∈ layers, layer.engine.isSome = false
  | .sharing =>
      (∃ layer ∈ layers, layer.engine.isSome = true) →
        layers.findSome? Settings.shared ≠ some false
  | .renderFunction =>
      ∃ name ∈ layers.findSome? Settings.renderFunction,
        ∃ c ∈ name.toList, Text.isBlank c = false
  | .charset =>
      ∀ label ∈ layers.findSome? Settings.charset, (Charset.ofLabel? label).isSome = true

instance (layers : List Settings) (rule : Rule) : Decidable (rule.Holds layers) :=
  match rule with
  | .engine => inferInstanceAs (Decidable (_ ∨ _))
  | .sharing => inferInstanceAs (Decidable (_ → _))
  | .renderFunction =>
      decidable_of_iff ((layers.findSome? Settings.renderFunction).any
        (fun name => name.toList.any fun c => !Text.isBlank c) = true) (by
          simp [Holds, Option.any_eq_true])
  | .charset =>
      decidable_of_iff ((layers.findSome? Settings.charset).all
        (fun label => (Charset.ofLabel? label).isSome) = true) (by
          simp [Holds, Option.all_eq_true])

/-- What is reported of layers that break a rule. -/
def fault (layers : List Settings) : Rule → ConfigFault
  | .engine =>
      if ∃ layer ∈ layers, layer.engine.isSome = true then .bothEngines else .noEngine
  | .sharing => .unsharedInstance
  | .renderFunction => .noRenderFunction
  | .charset =>
      .unknownCharset ((layers.findSome? Settings.charset).getD defaultCharset)

/-- The first rule that layers break. -/
def broken? (layers : List Settings) : Option Rule :=
  all.find? fun rule => ¬ rule.Holds layers

theorem mem_all (rule : Rule) : rule ∈ all := by
  cases rule <;> decide

theorem broken?_eq_none_iff (layers : List Settings) :
    broken? layers = none ↔ ∀ rule : Rule, rule.Holds layers := by
  unfold broken?
  rw [List.find?_eq_none]
  simp only [decide_not, Bool.not_eq_true', decide_eq_false_iff_not, Decidable.not_not]
  exact ⟨fun holds rule => holds rule rule.mem_all, fun holds rule _ => holds rule⟩

theorem broken?_eq (layers : List Settings) :
    broken? layers =
      if ¬ Rule.engine.Holds layers then some .engine
      else if ¬ Rule.sharing.Holds layers then some .sharing
      else if ¬ Rule.renderFunction.Holds layers then some .renderFunction
      else if ¬ Rule.charset.Holds layers then some .charset
      else none := by
  by_cases engine : Rule.engine.Holds layers
  · by_cases sharing : Rule.sharing.Holds layers
    · by_cases named : Rule.renderFunction.Holds layers
      · by_cases known : Rule.charset.Holds layers
        · simp [broken?, all, engine, sharing, named, known]
        · simp [broken?, all, engine, sharing, named, known]
      · simp [broken?, all, engine, sharing, named]
    · simp [broken?, all, engine, sharing]
  · simp [broken?, all, engine]

end Rule

/-- Settings that were resolved, told by the layers they come from. -/
structure Follows (layers : List Settings) (resolved : Resolved) : Prop where
  engine :
    (∃ engine, resolved.engine = .instance engine ∧
        layers.findSome? Settings.engine = some engine ∧
        layers.findSome? Settings.engineName = none) ∨
      ∃ name, resolved.engine = .named name ∧
        layers.findSome? Settings.engineName = some name ∧
        layers.findSome? Settings.engine = none
  sharing : ∀ engine, resolved.engine = .instance engine → resolved.isShared = true
  renderObject : resolved.renderObject =
    (layers.findSome? Settings.renderObject).filter
      (fun text => text.toList.any fun c => !Text.isBlank c)
  renderFunction : layers.findSome? Settings.renderFunction = some resolved.renderFunction
  charset : ∀ label, layers.findSome? Settings.charset = some label →
    Charset.ofLabel? label = some resolved.charset
  unsetCharset : layers.findSome? Settings.charset = none → resolved.charset = .utf8
  outputCharset : resolved.outputCharset = resolved.charset.output
  scripts : resolved.scripts = (layers.findSome? Settings.scripts).getD []
  contentType : resolved.contentType = (layers.findSome? Settings.contentType).getD
    ("text/html;charset=" ++ resolved.charset.output.name)
  loaderPath : resolved.loaderPath = (layers.findSome? Settings.loaderPath).getD "classpath:"
  shared : resolved.shared = layers.findSome? Settings.shared

/-! ### Resolving -/

theorem visible_eq (text : Option String) :
    visible text = text.filter (fun held => held.toList.any fun c => !Text.isBlank c) := by
  unfold visible
  congr 1
  funext held
  rw [Bool.eq_iff_iff, Bool.not_eq_true', decide_eq_false_iff_not, List.any_eq_true]
  simp [Text.Blank]

theorem ofLabel?_default : Charset.ofLabel? defaultCharset = some .utf8 := by
  decide +kernel

theorem engineSource_of_holds (layers : List Settings) (holds : Rule.engine.Holds layers) :
    (∃ engine, (firsts layers).engineSource = .ok (.instance engine) ∧
        layers.findSome? Settings.engine = some engine ∧
        layers.findSome? Settings.engineName = none) ∨
      ∃ name, (firsts layers).engineSource = .ok (.named name) ∧
        layers.findSome? Settings.engineName = some name ∧
        layers.findSome? Settings.engine = none := by
  unfold engineSource firsts
  rcases holds with ⟨given, unnamed⟩ | ⟨named, ungiven⟩
  · obtain ⟨engine, first⟩ := Option.isSome_iff_exists.mp (List.findSome?_isSome_iff.mpr given)
    have absent : layers.findSome? Settings.engineName = none := by
      simpa only [List.findSome?_eq_none_iff, Option.isSome_eq_false_iff,
        Option.isNone_iff_eq_none] using unnamed
    simp only [first, absent]
    exact Or.inl ⟨engine, rfl, rfl, trivial⟩
  · obtain ⟨name, first⟩ := Option.isSome_iff_exists.mp (List.findSome?_isSome_iff.mpr named)
    have absent : layers.findSome? Settings.engine = none := by
      simpa only [List.findSome?_eq_none_iff, Option.isSome_eq_false_iff,
        Option.isNone_iff_eq_none] using ungiven
    simp only [first, absent]
    exact Or.inr ⟨name, rfl, rfl, trivial⟩

theorem exists_engineSource (layers : List Settings) (holds : Rule.engine.Holds layers) :
    ∃ source, (firsts layers).engineSource = .ok source := by
  rcases engineSource_of_holds layers holds with ⟨_, sourced, _⟩ | ⟨_, sourced, _⟩
  · exact ⟨_, sourced⟩
  · exact ⟨_, sourced⟩

theorem engineSource_of_broken (layers : List Settings) (broken : ¬ Rule.engine.Holds layers) :
    (firsts layers).engineSource = .error (Rule.engine.fault layers) := by
  have given := List.findSome?_isSome_iff (l := layers) (f := Settings.engine)
  have named := List.findSome?_isSome_iff (l := layers) (f := Settings.engineName)
  have unnamed := List.findSome?_eq_none_iff (l := layers) (p := Settings.engineName)
  have ungiven := List.findSome?_eq_none_iff (l := layers) (p := Settings.engine)
  simp only [Rule.Holds, Option.isSome_eq_false_iff, Option.isNone_iff_eq_none, ← given, ← named,
    ← unnamed, ← ungiven, not_or] at broken
  simp only [engineSource, firsts, Rule.fault, ← given]
  cases engine : layers.findSome? Settings.engine with
  | none =>
      cases name : layers.findSome? Settings.engineName with
      | none => rfl
      | some text => simp [engine, name] at broken
  | some handle =>
      cases name : layers.findSome? Settings.engineName with
      | none => simp [engine, name] at broken
      | some text => rfl

theorem isNamed_iff (layers : List Settings) (source : EngineSource)
    (sourced : (firsts layers).engineSource = .ok source) :
    source.isNamed = false ↔ ∃ layer ∈ layers, layer.engine.isSome = true := by
  rw [← List.findSome?_isSome_iff]
  unfold engineSource firsts at sourced
  cases engine : layers.findSome? Settings.engine with
  | none =>
      cases name : layers.findSome? Settings.engineName with
      | none => simp [engine, name] at sourced
      | some text =>
          simp only [engine, name, Except.ok.injEq] at sourced
          simp [← sourced, EngineSource.isNamed]
  | some handle =>
      cases name : layers.findSome? Settings.engineName with
      | none =>
          simp only [engine, name, Except.ok.injEq] at sourced
          simp [← sourced, EngineSource.isNamed]
      | some text => simp [engine, name] at sourced

theorem visible_of_holds (layers : List Settings) (holds : Rule.renderFunction.Holds layers) :
    visible (firsts layers).renderFunction = (firsts layers).renderFunction := by
  obtain ⟨name, first, c, member, seen⟩ := holds
  have set : (firsts layers).renderFunction = some name := first
  rw [visible_eq, set, Option.filter_some, if_pos]
  exact List.any_eq_true.mpr ⟨c, member, by rw [seen]; rfl⟩

theorem visible_of_broken (layers : List Settings)
    (broken : ¬ Rule.renderFunction.Holds layers) :
    visible (firsts layers).renderFunction = none := by
  rw [visible_eq, Option.filter_eq_none_iff]
  intro name set seen
  obtain ⟨c, member, clear⟩ := List.any_eq_true.mp seen
  exact broken ⟨name, set, c, member, by simpa using clear⟩

theorem checkedCharset_of_holds (layers : List Settings) (holds : Rule.charset.Holds layers) :
    ∃ charset, (firsts layers).checkedCharset = .ok charset ∧
      (∀ label, layers.findSome? Settings.charset = some label →
        Charset.ofLabel? label = some charset) ∧
      (layers.findSome? Settings.charset = none → charset = .utf8) := by
  unfold checkedCharset firsts
  cases first : layers.findSome? Settings.charset with
  | none =>
      refine ⟨.utf8, ?_, nofun, fun _ => rfl⟩
      simp only [Option.getD_none, ofLabel?_default]
  | some label =>
      obtain ⟨charset, known⟩ := Option.isSome_iff_exists.mp (holds label first)
      refine ⟨charset, ?_, ?_, nofun⟩
      · simp only [Option.getD_some, known]
      · intro other same
        rw [← Option.some.inj same]
        exact known

theorem checkedCharset_of_broken (layers : List Settings) (broken : ¬ Rule.charset.Holds layers) :
    (firsts layers).checkedCharset = .error (Rule.charset.fault layers) := by
  simp only [Rule.Holds, not_forall] at broken
  obtain ⟨label, first, unknown⟩ := broken
  have none_ : Charset.ofLabel? label = none := by simpa using unknown
  have set : layers.findSome? Settings.charset = some label := first
  simp only [checkedCharset, firsts, Rule.fault, set, Option.getD_some, none_]

/-- Where every rule holds, the layers are resolved to what they say. -/
theorem resolve_of_holds (layers : List Settings) (holds : ∀ rule : Rule, rule.Holds layers) :
    ∃ resolved, (firsts layers).resolve = .ok resolved ∧ Follows layers resolved := by
  obtain ⟨charset, charsetEq, labelled, unlabelled⟩ :=
    checkedCharset_of_holds layers (holds .charset)
  obtain ⟨name, named, _⟩ := holds .renderFunction
  have visibleEq := visible_of_holds layers (holds .renderFunction)
  have set : (firsts layers).renderFunction = some name := named
  rw [set] at visibleEq
  obtain ⟨source, sourced⟩ := exists_engineSource layers (holds .engine)
  have sharing : ¬ ((firsts layers).shared = some false ∧ source.isNamed = false) := by
    rintro ⟨unshared, given⟩
    exact holds .sharing ((isNamed_iff layers source sourced).mp given) unshared
  refine ⟨_, by simp only [resolve, sourced, if_neg sharing, set, visibleEq, charsetEq]; rfl, ?_⟩
  refine ⟨?_, ?_, visible_eq _, named, labelled, unlabelled, rfl, rfl, rfl, rfl, rfl⟩
  · rcases engineSource_of_holds layers (holds .engine) with
      ⟨engine, given, first, unnamed⟩ | ⟨text, given, first, absent⟩
    · rw [sourced] at given
      exact Or.inl ⟨engine, Except.ok.inj given, first, unnamed⟩
    · rw [sourced] at given
      exact Or.inr ⟨text, Except.ok.inj given, first, absent⟩
  · intro engine given
    have unshared : (firsts layers).shared ≠ some false := by
      intro off
      have instance_ : source = .instance engine := given
      exact sharing ⟨off, by rw [instance_]; rfl⟩
    simpa [Resolved.isShared] using unshared

/-- Layers that break a rule are not resolved, and the first rule they break is named. -/
theorem resolve_of_broken (layers : List Settings) (rule : Rule)
    (broken : Rule.broken? layers = some rule) :
    (firsts layers).resolve = .error (rule.fault layers) := by
  -- The rules are split in the order in which they are looked at: each case refutes one condition.
  rw [Rule.broken?_eq] at broken
  by_cases engine : Rule.engine.Holds layers
  · rw [if_neg (not_not_intro engine)] at broken
    obtain ⟨source, sourced⟩ := exists_engineSource layers engine
    have given := isNamed_iff layers source sourced
    by_cases sharing : Rule.sharing.Holds layers
    · rw [if_neg (not_not_intro sharing)] at broken
      have allowed : ¬ ((firsts layers).shared = some false ∧ source.isNamed = false) :=
        fun both => sharing (given.mp both.2) both.1
      by_cases named : Rule.renderFunction.Holds layers
      · rw [if_neg (not_not_intro named)] at broken
        have visibleEq := visible_of_holds layers named
        obtain ⟨name, first, _⟩ := named
        have set : (firsts layers).renderFunction = some name := first
        rw [set] at visibleEq
        by_cases charset : Rule.charset.Holds layers
        · rw [if_neg (not_not_intro charset)] at broken
          cases broken
        · rw [if_pos charset, Option.some.injEq] at broken
          rw [← broken]
          have refused := checkedCharset_of_broken layers charset
          simp only [resolve, sourced, if_neg allowed, set, visibleEq, refused]
      · rw [if_pos named, Option.some.injEq] at broken
        rw [← broken]
        have hidden := visible_of_broken layers named
        simp only [resolve, sourced, if_neg allowed, hidden, Rule.fault]
    · rw [if_pos sharing, Option.some.injEq] at broken
      rw [← broken]
      simp only [Rule.Holds, not_forall, not_not] at sharing
      obtain ⟨supplied, unshared⟩ := sharing
      have both : (firsts layers).shared = some false ∧ source.isNamed = false :=
        ⟨unshared, given.mpr supplied⟩
      simp only [resolve, sourced, if_pos both, Rule.fault]
  · rw [if_pos engine, Option.some.injEq] at broken
    rw [← broken]
    have refused := engineSource_of_broken layers engine
    simp only [resolve, refused]

/-- Over every list of layers: the result does not depend on how they are grouped, unset settings
change nothing, and each field is the first one set. The result is resolved exactly if every rule
holds of the layers, is refused with the fault of the first rule that does not, and then follows the
layers. -/
theorem layered (layers : List Settings) :
    ((∀ grouping : Grouping, grouping.layers = layers → grouping.settings = firsts layers) ∧
      merge layers = firsts layers ∧
      ∀ settings : Settings, ({} : Settings).withFallback settings = settings ∧
        settings.withFallback {} = settings) ∧
    ((∃ resolved, (merge layers).resolve = .ok resolved) ↔ ∀ rule : Rule, rule.Holds layers) ∧
    (∀ fault, (merge layers).resolve = .error fault ↔
      (Rule.broken? layers).map (Rule.fault layers) = some fault) ∧
    ∀ resolved, (merge layers).resolve = .ok resolved → Follows layers resolved := by
  rw [merge_eq_firsts]
  have grouped : ∀ grouping : Grouping, grouping.layers = layers →
      grouping.settings = firsts layers := by
    intro grouping same
    rw [grouping.settings_eq, same]
  refine ⟨⟨grouped, rfl, fun settings => ⟨unset_withFallback settings, withFallback_unset settings⟩⟩,
    ?_⟩
  cases broken : Rule.broken? layers with
  | none =>
      have holds := (Rule.broken?_eq_none_iff layers).mp broken
      obtain ⟨resolved, ok, follows⟩ := resolve_of_holds layers holds
      rw [ok]
      refine ⟨⟨fun _ => holds, fun _ => ⟨resolved, rfl⟩⟩, ?_, ?_⟩
      · intro fault
        exact ⟨nofun, nofun⟩
      · intro other same
        rw [← Except.ok.inj same]
        exact follows
  | some rule =>
      have refused := resolve_of_broken layers rule broken
      rw [refused]
      refine ⟨⟨?_, ?_⟩, ?_, ?_⟩
      · rintro ⟨resolved, impossible⟩
        cases impossible
      · intro holds
        rw [(Rule.broken?_eq_none_iff layers).mpr holds] at broken
        cases broken
      · intro fault
        rw [Option.map_some, Except.error.injEq, Option.some.injEq]
      · intro resolved impossible
        cases impossible

/-- A layer whose render object is blank. -/
def upper : Settings :=
  { renderFunction := some "render", renderObject := some " " }

def lower : Settings :=
  { engineName := some "js", renderFunction := some "show", renderObject := some "page",
    charset := some "latin1" }

theorem layered_upper_lower :
    (Grouping.merged .unset (.merged (.layer upper) (.layer lower))).settings =
        firsts [upper, lower] ∧
      ∃ resolved, (merge [upper, lower]).resolve = .ok resolved ∧
        Follows [upper, lower] resolved := by
  have whole := layered [upper, lower]
  refine ⟨whole.1.1 _ rfl, ?_⟩
  obtain ⟨resolved, ok⟩ := whole.2.1.mpr (by intro rule; cases rule <;> decide +kernel)
  exact ⟨resolved, ok, whole.2.2.2 resolved ok⟩

/-- A render function of a later layer does not replace a blank one. -/
example : Rule.broken? [{ engineName := some "js", renderFunction := some " " },
    { renderFunction := some "render" }] = some .renderFunction := by
  decide +kernel

end Settings

end Stencil
