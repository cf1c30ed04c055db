import Stencil.Engine.Host

/-!
What the operations on a host change. A command gives one engine a new state, a request to a factory
adds at most one engine at the end, and neither touches files or handles.
-/

namespace Stencil

namespace Host

variable {ε : Type}

/-- The host after one engine came to a new state, with further entries in the journal. -/
def withEngine (host : Host ε) (id : Nat) (state : ε) (noted : List Entry) : Host ε :=
  { host with engines := host.engines.set id state, journal := host.journal ++ noted }

/-- The host after a factory was asked. The engine it gave is by now in the given state. -/
def withMaking (host : Host ε) (factory : Nat) (engine : Option ε) (noted : List Entry) :
    Host ε :=
  { host with
    engines := host.engines ++ engine.toList
    makings := host.makings ++ [⟨factory, engine.map (fun _ => host.engines.length)⟩]
    journal := host.journal ++ noted }

/-! ### Reporting -/

@[simp]
theorem report_engines (host : Host ε) (event : Event) :
    (host.report event).engines = host.engines :=
  rfl

theorem foldl_report (host : Host ε) (events : List Event) :
    events.foldl Host.report host =
      { host with journal := host.journal ++ events.map Entry.reported } := by
  induction events generalizing host with
  | nil => simp
  | cons event rest ih =>
      rw [List.foldl_cons, ih]
      simp [report]

theorem foldl_report_withEngine (host : Host ε) (before : List Event) (after : List Entry)
    (id : Nat) (state : ε) :
    (before.foldl Host.report host).withEngine id state after =
      host.withEngine id state (before.map Entry.reported ++ after) := by
  rw [foldl_report]
  simp [withEngine]

theorem foldl_report_withMaking (host : Host ε) (before : List Event) (after : List Entry)
    (factory : Nat) (engine : Option ε) :
    (before.foldl Host.report host).withMaking factory engine after =
      host.withMaking factory engine (before.map Entry.reported ++ after) := by
  rw [foldl_report]
  simp [withMaking]

/-! ### Lookups -/

@[simp]
theorem lookUp_lookups (host : Host ε) (location : String) :
    (host.lookUp location).lookups = host.lookups ++ [location] := by
  simp [lookups, lookUp, Entry.script?]

@[simp]
theorem report_lookups (host : Host ε) (event : Event) :
    (host.report event).lookups = host.lookups := by
  simp [lookups, report, Entry.script?]

@[simp]
theorem foldl_report_lookups (host : Host ε) (events : List Event) :
    (events.foldl Host.report host).lookups = host.lookups := by
  induction events generalizing host with
  | nil => rfl
  | cons event rest ih => rw [List.foldl_cons, ih, report_lookups]

/-- An engine that runs a script looks up no other. -/
theorem command_lookups {α : Type} (host : Host ε) (engine : EngineHandle)
    (run : ε → Reply ε α) : (host.command engine run).2.lookups = host.lookups := by
  unfold command
  cases host.engines[engine.id]? with
  | none => rfl
  | some state => simp [lookups, Entry.script?, Function.comp_def]

/-! ### One engine in a new state -/

@[simp]
theorem withEngine_files (host : Host ε) (id : Nat) (state : ε) (noted : List Entry) :
    (host.withEngine id state noted).files = host.files :=
  rfl

@[simp]
theorem withEngine_engines (host : Host ε) (id : Nat) (state : ε) (noted : List Entry) :
    (host.withEngine id state noted).engines = host.engines.set id state :=
  rfl

theorem withEngine_withEngine (host : Host ε) (id : Nat) (first second : ε)
    (before after : List Entry) :
    (host.withEngine id first before).withEngine id second after =
      host.withEngine id second (before ++ after) := by
  simp [withEngine]

theorem withEngine_report (host : Host ε) (id : Nat) (state : ε) (noted : List Entry)
    (event : Event) :
    (host.withEngine id state noted).report event =
      host.withEngine id state (noted ++ [.reported event]) := by
  simp [withEngine, report]

theorem withEngine_self (host : Host ε) (id : Nat) (state : ε)
    (found : host.engines[id]? = some state) : host.withEngine id state [] = host := by
  have same : host.engines.set id state = host.engines := by
    obtain ⟨inside, value⟩ := List.getElem?_eq_some_iff.mp found
    rw [← value]
    exact List.set_getElem_self inside
  simp [withEngine, same]

theorem lookUp_withEngine (host : Host ε) (location : String) (id : Nat) (state : ε)
    (noted : List Entry) :
    (host.lookUp location).withEngine id state noted =
      host.withEngine id state (.lookedUp location :: noted) := by
  simp [withEngine, lookUp]

/-! ### One more engine -/

@[simp]
theorem withMaking_files (host : Host ε) (factory : Nat) (engine : Option ε)
    (noted : List Entry) : (host.withMaking factory engine noted).files = host.files :=
  rfl

@[simp]
theorem withMaking_handles (host : Host ε) (factory : Nat) (engine : Option ε)
    (noted : List Entry) : (host.withMaking factory engine noted).handles = host.handles :=
  rfl

@[simp]
theorem withMaking_engines (host : Host ε) (factory : Nat) (engine : Option ε)
    (noted : List Entry) :
    (host.withMaking factory engine noted).engines = host.engines ++ engine.toList :=
  rfl

/-- What is only reported beside a request is no lookup. -/
theorem withMaking_lookups (host : Host ε) (factory : Nat) (engine : Option ε)
    (events : List Event) :
    (host.withMaking factory engine (events.map Entry.reported)).lookups = host.lookups := by
  have same : (host.withMaking factory engine (events.map Entry.reported)).lookups =
      (events.foldl Host.report host).lookups := by
    rw [foldl_report]
    rfl
  rw [same, foldl_report_lookups]

theorem withMaking_newest (host : Host ε) (factory : Nat) (engine : ε) (noted : List Entry) :
    (host.withMaking factory (some engine) noted).engines[host.engines.length]? = some engine :=
  List.getElem?_concat_length

theorem withMaking_report (host : Host ε) (factory : Nat) (engine : Option ε)
    (noted : List Entry) (event : Event) :
    (host.withMaking factory engine noted).report event =
      host.withMaking factory engine (noted ++ [.reported event]) := by
  simp [withMaking, report]

theorem withMaking_withEngine (host : Host ε) (factory : Nat) (first second : ε)
    (before after : List Entry) :
    (host.withMaking factory (some first) before).withEngine host.engines.length second after =
      host.withMaking factory (some second) (before ++ after) := by
  simp [withMaking, withEngine]

/-! ### Handles -/

@[simp]
theorem new_id (number : Nat) (name : Option String) :
    (RenderContext.new number name).id = number :=
  rfl

@[simp]
theorem openContext_engines (host : Host ε) (name : Option String) :
    (host.openContext name).2.engines = host.engines :=
  rfl

@[simp]
theorem openContext_handles (host : Host ε) (name : Option String) :
    (host.openContext name).2.handles = host.handles ++ [1] :=
  rfl

@[simp]
theorem cloneContext_engines (host : Host ε) (context : RenderContext) :
    (host.cloneContext context).engines = host.engines :=
  rfl

@[simp]
theorem cloneContext_handles_length (host : Host ε) (context : RenderContext) :
    (host.cloneContext context).handles.length = host.handles.length := by
  simp [cloneContext]

@[simp]
theorem dropContext_engines (host : Host ε) (context : RenderContext) :
    (host.dropContext context).engines = host.engines :=
  rfl

@[simp]
theorem dropContext_handles_length (host : Host ε) (context : RenderContext) :
    (host.dropContext context).handles.length = host.handles.length := by
  simp [dropContext]

/-- A context is told by its lease as by its number. -/
theorem isLive_lease (host : Host ε) (context : RenderContext) :
    host.isLive context.lease = host.isLive context.id := by
  rw [context.leased]

theorem cloneContext_eq (host : Host ε) (context : RenderContext) :
    host.cloneContext context =
      { host with handles := host.handles.modify context.id (fun count => count + 1) } := by
  unfold cloneContext
  rw [context.leased]

theorem dropContext_eq (host : Host ε) (context : RenderContext) :
    host.dropContext context =
      { host with handles := host.handles.modify context.id (fun count => count - 1) } := by
  unfold dropContext
  rw [context.leased]

theorem isLive_congr (host other : Host ε) (same : host.handles = other.handles) :
    host.isLive = other.isLive := by
  funext context
  simp only [isLive, same]

theorem isLive_iff (host : Host ε) (context : Nat) :
    host.isLive context = true ↔ ∃ count, host.handles[context]? = some count ∧ 0 < count := by
  unfold isLive
  rw [List.getD_eq_getElem?_getD]
  cases host.handles[context]? <;> simp

theorem lt_of_isLive (host : Host ε) (context : Nat) (live : host.isLive context = true) :
    context < host.handles.length := by
  obtain ⟨count, found, _⟩ := (host.isLive_iff context).mp live
  exact (List.getElem?_eq_some_iff.mp found).1

theorem isLive_openContext (host : Host ε) (name : Option String) (context : Nat) :
    (host.openContext name).2.isLive context =
      (host.isLive context || context == host.handles.length) := by
  unfold isLive
  rw [openContext_handles, List.getD_eq_getElem?_getD, List.getD_eq_getElem?_getD]
  rcases Nat.lt_trichotomy context host.handles.length with before | same | after
  · rw [List.getElem?_append_left before]
    simp [Nat.ne_of_lt before]
  · subst same
    simp
  · have outside : host.handles.length ≤ context := Nat.le_of_lt after
    have beyond : (host.handles ++ [1]).length ≤ context := by
      rw [List.length_append, List.length_singleton]
      exact after
    rw [List.getElem?_eq_none outside, List.getElem?_eq_none beyond]
    simp [Nat.ne_of_gt after]

theorem isLive_cloneContext (host : Host ε) (context : RenderContext)
    (live : host.isLive context.lease = true) :
    (host.cloneContext context).isLive = host.isLive := by
  obtain ⟨count, found, positive⟩ := (host.isLive_iff context.lease).mp live
  funext other
  unfold isLive cloneContext
  rw [List.getD_eq_getElem?_getD, List.getD_eq_getElem?_getD, List.getElem?_modify]
  by_cases same : context.lease = other
  · subst same
    simp [found, positive]
  · simp [same]

/-- Giving up a handle never revives a context. -/
theorem isLive_of_isLive_dropContext (host : Host ε) (context : RenderContext) (other : Nat)
    (live : (host.dropContext context).isLive other = true) : host.isLive other = true := by
  unfold isLive dropContext at *
  rw [List.getD_eq_getElem?_getD, List.getElem?_modify] at live
  rw [List.getD_eq_getElem?_getD]
  by_cases same : context.lease = other
  · subst same
    cases found : host.handles[context.lease]? with
    | none => simp [found] at live
    | some count =>
        simp only [found, ↓reduceIte, Option.map_eq_map, Option.map_some, Option.getD_some,
          decide_eq_true_eq] at live ⊢
        omega
  · simpa [same] using live

/-! ### Commands and requests -/

theorem command_eq {α : Type} (host : Host ε) (engine : EngineHandle) (run : ε → Reply ε α)
    (state : ε) (found : host.engines[engine.id]? = some state) :
    ∃ noted, host.command engine run =
      ((run state).answer, host.withEngine engine.id (run state).engine noted) := by
  unfold command
  rw [found]
  exact ⟨_, rfl⟩

variable [ScriptEngine ε]

theorem make_error (host : Host ε) (factory : Factory ε) (cause : ScriptError)
    (refused : factory.make (host.requests factory.id) = .error cause) :
    host.make factory = (.error cause, host.withMaking factory.id none []) := by
  unfold make
  rw [refused]
  simp [withMaking]

theorem make_ok (host : Host ε) (factory : Factory ε) (fresh : ε)
    (made : factory.make (host.requests factory.id) = .ok fresh) :
    host.make factory =
      (.ok ⟨host.engines.length, ScriptEngine.name fresh⟩,
        host.withMaking factory.id (some fresh) []) := by
  unfold make
  rw [made]
  simp [withMaking, adopt]

end Host

end Stencil
