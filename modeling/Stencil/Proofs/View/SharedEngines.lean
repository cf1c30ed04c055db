import Stencil.Engine.Recorder
import Stencil.Proofs.View.Hiring

/-!
How far an engine is shared. `Site.Staffed`, which every step keeps, says that the views whose settings
name an engine to share have engines of their own: an engine is shared by the contexts of one view, and
never by two views, however much alike they are. `shared_engines` says so of every run.
-/

namespace Stencil

variable {ε : Type}

namespace Site

/-- The engines of the views whose settings name one to share, in the order of the views. -/
def staff (site : Site ε) : List (Option Nat) :=
  site.stations.filterMap (Option.map (Option.map EngineHandle.id))

/-! ### What every step keeps -/

/-- Of the engines that came after the first few, factories made each once, in their order, and those
of the views whose settings name one to share are among them, each once. -/
structure Staffed (first : Nat) (site : Site ε) : Prop where
  made : ∃ count, site.host.engines.length = first + count ∧
    site.host.made = List.range' first count
  staff : site.staff.Sublist (site.host.made.map some)

variable {first : Nat} {before after : Site ε}

theorem staffed_start (files : FileSystem) (engines : List ε) :
    Staffed engines.length (⟨{ files := files, engines := engines }, []⟩ : Site ε) where
  made := ⟨0, rfl, rfl⟩
  staff := List.nil_sublist _

theorem Staffed.step (staffed : Staffed first before) (hires : Hires before after) :
    Staffed first after := by
  obtain ⟨total, length, listed⟩ := staffed.made
  cases hires with
  | quiet news idle grows stations =>
      obtain ⟨count, grown, made⟩ := grows
      have unstaffed : news.filterMap (Option.map (Option.map EngineHandle.id)) = [] := by
        refine List.filterMap_eq_nil_iff.mpr ?_
        intro station member
        rw [idle station member]
        rfl
      refine ⟨⟨total + count, by rw [grown, length, Nat.add_assoc], ?_⟩, ?_⟩
      · rw [made, listed, length, List.range'_append_1]
      · unfold Site.staff
        rw [stations, List.filterMap_append, unstaffed, List.append_nil, made, List.map_append]
        exact staffed.staff.trans (List.sublist_append_left _ _)
  | hired engine newest count made stations =>
      refine ⟨⟨total + 1, by rw [count, length, Nat.add_assoc], ?_⟩, ?_⟩
      · rw [made, newest, listed, length]
        exact (List.range'_1_concat ..).symm
      · unfold Site.staff
        rw [stations, List.filterMap_append, made, List.map_append]
        exact staffed.staff.append (List.Sublist.refl _)

theorem Hires.stations_getElem? (hires : Hires before after) (number : Nat) (engine : EngineHandle)
    (found : before.stations[number]? = some (some (some engine))) :
    after.stations[number]? = some (some (some engine)) := by
  have inside := (List.getElem?_eq_some_iff.mp found).1
  cases hires with
  | quiet news idle grows stations =>
      rw [stations, List.getElem?_append_left inside, found]
  | hired engine newest count made stations =>
      rw [stations, List.getElem?_append_left inside, found]

/-! ### Views and their engines -/

variable {site : Site ε} {number : Nat} {view : View ε}

theorem stations_of_view? (found : site.view? number = some view)
    (shares : view.settings.sharesNamed = true) :
    site.stations[number]? = some (some view.provider.only?) := by
  unfold stations View.station? at *
  unfold view? at found
  rw [List.getElem?_map, found, Option.map_some, if_pos shares]

theorem exists_view_of_stations (engine : EngineHandle)
    (stationed : site.stations[number]? = some (some (some engine))) :
    ∃ view, site.view? number = some view ∧ view.provider.only? = some engine := by
  unfold stations at stationed
  rw [List.getElem?_map, Option.map_eq_some_iff] at stationed
  obtain ⟨view, found, own⟩ := stationed
  unfold View.station? at own
  split at own
  · exact ⟨view, found, Option.some.inj own⟩
  · cases own

theorem length_staff : site.staff.length =
    site.views.countP (fun view => view.settings.sharesNamed) := by
  unfold staff stations
  rw [List.length_filterMap_eq_countP, List.countP_map]
  congr 1
  funext view
  unfold View.station?
  cases shares : view.settings.sharesNamed <;> simp [shares]

variable (staffed : Staffed first site)

include staffed

theorem Staffed.nodup : site.host.made.Nodup := by
  obtain ⟨count, _, listed⟩ := staffed.made
  rw [listed]
  exact List.nodup_range'

theorem Staffed.length_le :
    site.views.countP (fun view => view.settings.sharesNamed) ≤ site.host.makings.length := by
  have among := staffed.staff.length_le
  rw [length_staff, List.length_map] at among
  exact Nat.le_trans among (List.length_filterMap_le _ _)

theorem Staffed.only (found : site.view? number = some view)
    (shares : view.settings.sharesNamed = true) :
    ∃ engine, view.provider.only? = some engine ∧ engine.id ∈ site.host.made := by
  have stationed := List.mem_of_getElem? (stations_of_view? found shares)
  have listed : view.provider.only?.map EngineHandle.id ∈ site.staff :=
    List.mem_filterMap.mpr ⟨_, stationed, rfl⟩
  obtain ⟨id, made, same⟩ := List.mem_map.mp (staffed.staff.subset listed)
  obtain ⟨engine, only, own⟩ := Option.map_eq_some_iff.mp same.symm
  exact ⟨engine, only, own ▸ made⟩

/-- Two views of different numbers have different engines. -/
theorem Staffed.apart (other : Nat) (engine mate : EngineHandle) (before : number < other)
    (own : site.stations[number]? = some (some (some engine)))
    (next : site.stations[other]? = some (some (some mate))) : engine.id ≠ mate.id := by
  have distinct : site.staff.Nodup :=
    (staffed.nodup.map fun _ _ => Option.some.inj).sublist staffed.staff
  unfold List.Nodup Site.staff at distinct
  rw [List.pairwise_filterMap, List.pairwise_iff_getElem] at distinct
  obtain ⟨inside, here⟩ := List.getElem?_eq_some_iff.mp own
  obtain ⟨within, there⟩ := List.getElem?_eq_some_iff.mp next
  have differ := distinct number other inside within before
  rw [here, there] at differ
  intro same
  exact differ _ rfl _ rfl (congrArg some same)

end Site

namespace Resolver

namespace Session

section

variable [ScriptEngine ε]

/-- The site of a new session, on which there are only engines to be supplied, after a run. -/
def reached (resolver : Resolver (Logged ε)) (files : FileSystem) (engines : List (Logged ε))
    (operations : List (Operation ε)) : Site (Logged ε) :=
  (Machine.finish step ⟨resolver, ⟨{ files := files, engines := engines }, []⟩⟩ operations).site

variable (resolver : Resolver (Logged ε)) (files : FileSystem) (engines : List (Logged ε))
  (operations : List (Operation ε))

theorem staffed_reached :
    (reached resolver files engines operations).Staffed engines.length :=
  Machine.finish_invariant step (fun session => session.site.Staffed engines.length)
    (fun session operation staffed => staffed.step (session.step_hires operation)) operations _
    (Site.staffed_start files engines)

/-- A view keeps to its engine whatever is done later. -/
theorem exists_keepsTo (more : List (Operation ε)) (number : Nat) (engine : EngineHandle)
    (stationed : (reached resolver files engines operations).stations[number]? =
      some (some (some engine))) :
    ∃ last, (reached resolver files engines (operations ++ more)).view? number = some last ∧
      last.KeepsTo engine := by
  have later : (reached resolver files engines (operations ++ more)).stations[number]? =
      some (some (some engine)) := by
    unfold reached Machine.finish at stationed ⊢
    rw [List.foldl_append]
    exact Machine.finish_invariant step
      (fun session => session.site.stations[number]? = some (some (some engine)))
      (fun session operation => (session.step_hires operation).stations_getElem? number engine)
      more _ stationed
  obtain ⟨last, found, only⟩ := Site.exists_view_of_stations engine later
  exact ⟨last, found, last.keepsTo_of_only engine only⟩

end

/-- Over every run of a resolver, with views built and used beside it. A view whose settings name an
engine to share has one engine, for which a factory was asked once: every context is answered with it,
now and whatever is done later, and renders do nothing to any other. No other such view has the same
engine, also where its settings agree in the name of the engine, the scripts and the charset. -/
theorem shared_engines [ScriptEngine ε] (resolver : Resolver (Logged ε)) (files : FileSystem)
    (engines : List (Logged ε)) (operations : List (Operation ε)) :
    let site := reached resolver files engines operations
    site.views.countP (fun view => view.settings.sharesNamed) ≤ site.host.makings.length ∧
      ∀ number view, site.view? number = some view → view.settings.sharesNamed = true →
        ∃ engine : EngineHandle, site.host.made.count engine.id = 1 ∧
          (∀ more, ∃ last,
            (reached resolver files engines (operations ++ more)).view? number = some last ∧
              last.KeepsTo engine) ∧
          ∀ other mate context host given, site.view? other = some mate →
            mate.settings.sharesNamed = true → (mate.engine context host).answer = .ok given →
            (given.id = engine.id ↔ other = number) := by
  intro site
  have staffed : site.Staffed engines.length :=
    staffed_reached resolver files engines operations
  refine ⟨staffed.length_le, ?_⟩
  intro number view found shares
  obtain ⟨engine, only, made⟩ := staffed.only found shares
  have own : site.stations[number]? = some (some (some engine)) := by
    rw [← only]
    exact Site.stations_of_view? found shares
  refine ⟨engine, List.count_eq_one_of_mem staffed.nodup made, ?_, ?_⟩
  · intro more
    exact exists_keepsTo resolver files engines operations more number engine own
  · intro other mate context host given there sharing answered
    obtain ⟨second, lone, _⟩ := staffed.only there sharing
    have next : site.stations[other]? = some (some (some second)) := by
      rw [← lone]
      exact Site.stations_of_view? there sharing
    -- What the other view answers is its own engine, which was made at another place in the order.
    rw [(mate.keepsTo_of_only second lone).answers context host, Except.ok.injEq] at answered
    subst answered
    constructor
    · intro same
      rcases Nat.lt_trichotomy other number with before | equal | after
      · exact absurd same (staffed.apart number second engine before next own)
      · exact equal
      · exact absurd same.symm (staffed.apart other engine second after own next)
    · intro same
      rw [same, own] at next
      cases next
      rfl

/-- An environment whose views name an engine to share. -/
def branch : Environment Recorder :=
  ⟨.memory [("letter", [104, 105])],
    Registry.ofFactories [Recorder.factory 0 "recording" [] ⟨["render"], [], false⟩ none],
    [{ engineName := some "recording", renderFunction := some "render" }]⟩

/-- One view of a resolver, and one that is built beside it from the same settings. -/
def hired : List (Operation Recorder) :=
  [.resolve "letter", .work (.build branch { url := some "letter" }), .resolve "letter"]

def staffedBranch : Site (Logged Recorder) :=
  reached { environment := branch.logged } ⟨[], []⟩ [] hired

theorem shared_engines_branch :
    staffedBranch.host.makings = [⟨0, some 0⟩, ⟨0, some 1⟩] ∧
      ∃ first second, staffedBranch.view? 0 = some first ∧ staffedBranch.view? 1 = some second ∧
        first.settings = second.settings ∧ first.settings.sharesNamed = true ∧
        ∃ engine : EngineHandle, staffedBranch.host.made.count engine.id = 1 ∧
          ∀ given context host, (second.engine context host).answer = .ok given →
            given.id ≠ engine.id := by
  have shares : ∀ number < 2, (staffedBranch.view? number).map
      (fun view => view.settings.sharesNamed) = some true := by decide +kernel
  have alike : (staffedBranch.view? 0).map View.settings =
      (staffedBranch.view? 1).map View.settings := by decide +kernel
  obtain ⟨first, found, sharing⟩ := Option.map_eq_some_iff.mp (shares 0 (by decide))
  obtain ⟨second, there, also⟩ := Option.map_eq_some_iff.mp (shares 1 (by decide))
  rw [found, there] at alike
  refine ⟨by decide +kernel, first, second, found, there, Option.some.inj alike, sharing, ?_⟩
  obtain ⟨engine, once, _, own⟩ :=
    (shared_engines { environment := branch.logged } ⟨[], []⟩ [] hired).2 0 first found sharing
  refine ⟨engine, once, ?_⟩
  intro given context host answered same
  exact absurd ((own 1 second context host given there also answered).mp same) (by decide)

/-- The same view, built once and once again. -/
def twins : Site (Logged Recorder) :=
  let once := (Site.mk { files := ⟨[], []⟩ } []).build branch.logged { url := some "letter" }
  (once.2.build branch.logged { url := some "letter" }).2

/-- Views whose settings name an engine to share are not rendered on one engine, even where they are
built one after another from the same settings. -/
theorem engine_per_view :
    ¬ ∀ (environment : Environment Recorder) (builder : ViewBuilder) (site : Site (Logged Recorder))
        (number other : Nat) (view mate : View (Logged Recorder)),
        let first := site.build environment.logged builder
        let second := first.2.build environment.logged builder
        first.1 = .ok number → second.1 = .ok other → second.2.view? number = some view →
        second.2.view? other = some mate → view.settings.sharesNamed = true →
        ∀ context host, (view.engine context host).answer = (mate.engine context host).answer := by
  intro one
  have first : (twins.view? 0).map (fun view => (view.provider.only?, view.settings.sharesNamed)) =
      some (some ⟨0, "recording"⟩, true) := by decide +kernel
  have second : (twins.view? 1).map (fun view => view.provider.only?) =
      some (some ⟨1, "recording"⟩) := by decide +kernel
  obtain ⟨view, found, only⟩ := Option.map_eq_some_iff.mp first
  obtain ⟨mate, there, lone⟩ := Option.map_eq_some_iff.mp second
  rw [Prod.mk.injEq] at only
  have answers := one branch { url := some "letter" } ⟨{ files := ⟨[], []⟩ }, []⟩ 0 1 view mate
    (by decide +kernel) (by decide +kernel) found there only.2 (.new 0 none) { files := ⟨[], []⟩ }
  rw [(view.keepsTo_of_only _ only.1).answers, (mate.keepsTo_of_only _ lone).answers] at answers
  cases answers

end Session

end Resolver

end Stencil
