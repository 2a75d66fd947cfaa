import TraceFlow.Context
import TraceFlow.Proofs.Frame

/-!
# Work on a graph

Work is done step by step up to the first error. A step that went well can be looked at alone, and
what every step keeps of the graph, the whole work keeps; so it is with what is shared and with the
memory. The work of a build comes in stages: the classes, the sources, the filter, the connections
between them, and the sink.
-/

namespace TraceFlow.Assembly

variable {W α β γ : Type}

theorem on_bind (work : Assembly W α β) (next : β → Assembly W α γ) (g : Graph W α)
    (session : Session W α) :
    on (work >>= next) g session =
      match on work g session with
      | (.ok value, g, session) => on (next value) g session
      | (.error e, g, session) => (.error e, g, session) := by
  unfold on
  rw [ExceptT.run_bind, StateT.run_bind]
  rcases (ExceptT.run work).run (g, session) with ⟨_ | _, _, _⟩ <;> rfl

theorem on_bind_of_ok {work : Assembly W α β} {g between : Graph W α} {session opened : Session W α}
    {value : β} (h : on work g session = (.ok value, between, opened))
    (next : β → Assembly W α γ) :
    on (work >>= next) g session = on (next value) between opened := by
  rw [on_bind, h]

theorem fst_on_bind_of_error {work : Assembly W α β} {g : Graph W α} {session : Session W α}
    {e : TraceError} (h : (on work g session).1 = .error e) (next : β → Assembly W α γ) :
    (on (work >>= next) g session).1 = .error e := by
  rw [on_bind]
  split
  · next hwork =>
    rw [hwork] at h
    cases h
  · next hwork =>
    rw [hwork] at h
    exact congrArg Except.error (Except.error.inj h)

theorem on_get_bind (next : Graph W α × Session W α → Assembly W α γ) (g : Graph W α)
    (session : Session W α) : on (get >>= next) g session = on (next (g, session)) g session := rfl

theorem on_set_bind (state : Graph W α × Session W α) (next : PUnit → Assembly W α γ)
    (g : Graph W α) (session : Session W α) :
    on (set state >>= next) g session = on (next ⟨⟩) state.1 state.2 := rfl

theorem on_perform (wrap : GraphError → TraceError)
    (operation : Graph W α → Session W α → Reply W α β) (g : Graph W α) (session : Session W α) :
    on (perform wrap operation) g session =
      match operation g session with
      | ⟨.ok value, g, session⟩ => (.ok value, g, session)
      | ⟨.error e, g, session⟩ => (.error (wrap e), g, session) := by
  simp only [on, perform, ExceptT.run, ExceptT.mk, StateT.run]
  rcases operation g session with ⟨_ | _, _, _⟩ <;> rfl

theorem fst_on_perform_of_error {wrap : GraphError → TraceError}
    {operation : Graph W α → Session W α → Reply W α β} {g : Graph W α} {session : Session W α}
    {cause : GraphError} (h : (operation g session).answer = .error cause) :
    (on (perform wrap operation) g session).1 = .error (wrap cause) := by
  rw [on_perform]
  split
  · next hreply =>
    rw [hreply] at h
    cases h
  · next hreply =>
    rw [hreply] at h
    cases h
    rfl

theorem on_findPlugin (registry : Registry W) (name : String) (g : Graph W α)
    (session : Session W α) :
    on (findPlugin registry name) g session =
      match (registry.find name).run session.world with
      | (some plugin, world) =>
        (.ok plugin, g,
          { session with world, journal := session.journal.record (.hook (.findPlugin name)) })
      | (none, world) =>
        (.error (.capabilityNotFound name), g,
          { session with
            world, journal := session.journal.record (.hook (.findPlugin name)) }) := by
  unfold findPlugin
  rw [on_get_bind]
  dsimp only
  rw [on_set_bind]
  unfold Session.findPlugin
  rcases (registry.find name).run session.world with ⟨_ | _, _⟩ <;> rfl

theorem ok_bind {work : Assembly W α β} {next : β → Assembly W α γ} {g later : Graph W α}
    {session last : Session W α} {result : γ}
    (h : on (work >>= next) g session = (.ok result, later, last)) :
    ∃ value between opened, on work g session = (.ok value, between, opened) ∧
      on (next value) between opened = (.ok result, later, last) := by
  rw [on_bind] at h
  split at h
  · next hwork => exact ⟨_, _, _, hwork, h⟩
  · cases h

theorem ok_perform {wrap : GraphError → TraceError}
    {operation : Graph W α → Session W α → Reply W α β} {g later : Graph W α}
    {session last : Session W α} {value : β}
    (h : on (perform wrap operation) g session = (.ok value, later, last)) :
    operation g session = ⟨.ok value, later, last⟩ := by
  rcases hreply : operation g session with ⟨e | made, after, end'⟩
  · simp [on, perform, hreply, ExceptT.run, ExceptT.mk, StateT.run] at h
  · simp only [on, perform, ExceptT.run, ExceptT.mk, StateT.run, hreply] at h
    cases h
    rfl

theorem ok_findPlugin {registry : Registry W} {name : String} {plugin : Plugin W}
    {g later : Graph W α} {session last : Session W α}
    (h : on (findPlugin registry name) g session = (.ok plugin, later, last)) :
    g = later ∧ (registry.find name).run session.world = (some plugin, last.world) ∧
      last.journal.hooks = session.journal.hooks ++ [.findPlugin name] := by
  unfold findPlugin at h
  rw [on_get_bind] at h
  dsimp only at h
  rw [on_set_bind] at h
  unfold Session.findPlugin at h
  rcases hfind : (registry.find name).run session.world with ⟨_ | found, world⟩
  · rw [hfind] at h
    cases h
  · rw [hfind] at h
    cases h
    exact ⟨rfl, rfl, Journal.hooks_record_hook _ _⟩

theorem ok_found {C : Type} {plugin className : String} {answer : Option C} {cls : C}
    {g later : Graph W α} {session last : Session W α}
    (h : on (found plugin className answer) g session = (.ok cls, later, last)) :
    answer = some cls ∧ g = later ∧ session = last := by
  cases answer with
  | none => cases h
  | some cls =>
    cases h
    exact ⟨rfl, rfl, rfl⟩

theorem error_bind {work : Assembly W α β} {next : β → Assembly W α γ} {g later : Graph W α}
    {session last : Session W α} {e : TraceError}
    (h : on (work >>= next) g session = (.error e, later, last)) :
    on work g session = (.error e, later, last) ∨
      ∃ value between opened, on work g session = (.ok value, between, opened) ∧
        on (next value) between opened = (.error e, later, last) := by
  rw [on_bind] at h
  split at h
  · next hwork => exact .inr ⟨_, _, _, hwork, h⟩
  · next hwork =>
    cases h
    exact .inl hwork

theorem error_perform {wrap : GraphError → TraceError}
    {operation : Graph W α → Session W α → Reply W α β} {g later : Graph W α}
    {session last : Session W α} {e : TraceError}
    (h : on (perform wrap operation) g session = (.error e, later, last)) :
    ∃ cause, operation g session = ⟨.error cause, later, last⟩ ∧ e = wrap cause := by
  rcases hreply : operation g session with ⟨cause | made, after, end'⟩
  · simp only [on, perform, ExceptT.run, ExceptT.mk, StateT.run, hreply] at h
    cases h
    exact ⟨cause, rfl, rfl⟩
  · simp [on, perform, hreply, ExceptT.run, ExceptT.mk, StateT.run] at h

theorem error_findPlugin {registry : Registry W} {name : String} {g later : Graph W α}
    {session last : Session W α} {e : TraceError}
    (h : on (findPlugin registry name) g session = (.error e, later, last)) :
    ((registry.find name).run session.world).1 = none ∧ e = .capabilityNotFound name := by
  unfold findPlugin at h
  rw [on_get_bind] at h
  dsimp only at h
  rw [on_set_bind] at h
  unfold Session.findPlugin at h
  rcases hfind : (registry.find name).run session.world with ⟨_ | found, world⟩
  · rw [hfind] at h
    cases h
    exact ⟨rfl, rfl⟩
  · rw [hfind] at h
    cases h

theorem error_found {C : Type} {plugin className : String} {answer : Option C}
    {g later : Graph W α} {session last : Session W α} {e : TraceError}
    (h : on (found plugin className answer) g session = (.error e, later, last)) :
    answer = none ∧ e = .classNotFound plugin className := by
  cases answer with
  | none =>
    cases h
    exact ⟨rfl, rfl⟩
  | some cls => cases h

/-- What is true of the graph before some work is true of it afterwards. -/
def Keeps (P : Graph W α → Prop) (work : Assembly W α β) : Prop :=
  ∀ g session, P g → P (on work g session).2.1

namespace Keeps

variable {P : Graph W α → Prop}

theorem of_ok {work : Assembly W α β} (h : Keeps P work) {g later : Graph W α}
    {session last : Session W α} {value : β}
    (hok : on work g session = (.ok value, later, last)) (hg : P g) : P later := by
  have hlater := h g session hg
  rw [hok] at hlater
  exact hlater

theorem bind {work : Assembly W α β} {next : β → Assembly W α γ} (h : Keeps P work)
    (hnext : ∀ value, Keeps P (next value)) : Keeps P (work >>= next) := by
  intro g session hg
  have hlater := h g session hg
  rw [on_bind]
  split
  · next hwork =>
    rw [hwork] at hlater
    exact hnext _ _ _ hlater
  · next hwork =>
    rw [hwork] at hlater
    exact hlater

theorem pure (value : β) : Keeps P (Pure.pure value) := fun _ _ hg => hg

theorem throw (e : TraceError) : Keeps P (MonadExcept.throw e : Assembly W α β) := fun _ _ hg => hg

theorem perform (wrap : GraphError → TraceError) {operation : Graph W α → Session W α → Reply W α β}
    (h : ∀ g session, P g → P (operation g session).graph) :
    Keeps P (Assembly.perform wrap operation) := by
  intro g session hg
  have hlater := h g session hg
  rcases hreply : operation g session with ⟨e | made, after, last⟩
  all_goals
    rw [hreply] at hlater
    simp only [on, Assembly.perform, ExceptT.run, ExceptT.mk, StateT.run, hreply]
    exact hlater

theorem query (wrap : GraphError → TraceError) (question : Graph W α → Except GraphError β) :
    Keeps P (Assembly.query wrap question) :=
  perform wrap fun _ _ hg => hg

theorem log (line : LogLine) : Keeps P (Assembly.log line) := fun _ _ hg => hg

theorem findPlugin (registry : Registry W) (name : String) :
    Keeps P (Assembly.findPlugin registry name) := by
  intro g session hg
  unfold Assembly.findPlugin
  rw [on_get_bind]
  dsimp only
  rw [on_set_bind]
  split
  · exact hg
  · exact hg

theorem found {C : Type} (plugin className : String) (cls : Option C) :
    Keeps P (Assembly.found plugin className cls) := by
  cases cls with
  | none => exact throw _
  | some cls => exact pure cls

end Keeps

/-- The work leaves the memory and what is shared as they were. -/
def Steady (work : Assembly W α β) : Prop :=
  ∀ g session, ((work.on g session).2.2.memory, (work.on g session).2.2.shared) =
    (session.memory, session.shared)

namespace Steady

theorem memory {work : Assembly W α β} (h : Steady work) {g later : Graph W α}
    {session last : Session W α} {answer : Except TraceError β}
    (hwork : work.on g session = (answer, later, last)) : last.memory = session.memory := by
  have hkept := h g session
  rw [hwork] at hkept
  exact congrArg Prod.fst hkept

theorem shared {work : Assembly W α β} (h : Steady work) {g later : Graph W α}
    {session last : Session W α} {answer : Except TraceError β}
    (hwork : work.on g session = (answer, later, last)) : last.shared = session.shared := by
  have hkept := h g session
  rw [hwork] at hkept
  exact congrArg Prod.snd hkept

theorem bind {work : Assembly W α β} {next : β → Assembly W α γ} (h : Steady work)
    (hnext : ∀ value, Steady (next value)) : Steady (work >>= next) := by
  intro g session
  have hfirst := h g session
  rw [on_bind]
  split
  · next hwork =>
    rw [hwork] at hfirst
    exact (hnext _ _ _).trans hfirst
  · next hwork =>
    rw [hwork] at hfirst
    exact hfirst

theorem pure (value : β) : Steady (W := W) (α := α) (Pure.pure value) := fun _ _ => rfl

theorem throw (e : TraceError) : Steady (MonadExcept.throw e : Assembly W α β) := fun _ _ => rfl

theorem perform (wrap : GraphError → TraceError) {operation : Graph W α → Session W α → Reply W α β}
    (h : ∀ g session, ((operation g session).session.memory,
      (operation g session).session.shared) = (session.memory, session.shared)) :
    Steady (Assembly.perform wrap operation) := by
  intro g session
  have hkept := h g session
  rw [on_perform]
  split
  all_goals
    next hreply =>
    rw [hreply] at hkept
    exact hkept

theorem query (wrap : GraphError → TraceError) (question : Graph W α → Except GraphError β) :
    Steady (Assembly.query wrap question) :=
  perform wrap fun _ _ => rfl

theorem log (line : LogLine) : Steady (W := W) (α := α) (Assembly.log line) := fun _ _ => rfl

theorem get : Steady (W := W) (α := α) MonadState.get := fun _ _ => rfl

theorem findPlugin (registry : Registry W) (name : String) :
    Steady (α := α) (Assembly.findPlugin registry name) := by
  intro g session
  rw [on_findPlugin]
  split <;> rfl

theorem found {C : Type} (plugin className : String) (cls : Option C) :
    Steady (W := W) (α := α) (Assembly.found plugin className cls) := by
  cases cls with
  | none => exact throw _
  | some cls => exact pure cls

end Steady

end TraceFlow.Assembly

namespace TraceFlow.Builder

variable {W α : Type}

/-! ## A build from one stage to the next -/

def classes (builder : Builder W) : Assembly W α (SourceClass W × FilterClass W) := do
  let config := builder.config
  let sources ← Assembly.findPlugin builder.registry config.sourcePlugin
  let filters ← Assembly.findPlugin builder.registry config.filterPlugin
  let cls ← Assembly.found config.sourcePlugin config.sourceClass
    (sources.source? config.sourceClass)
  let filterClass ← Assembly.found config.filterPlugin config.filterClass
    (filters.filter? config.filterClass)
  return (cls, filterClass)

def install (config : Config) (cls : FilterClass W) : Assembly W α ComponentId :=
  .perform (.ofCreation config.filterName)
    (·.addFilter cls config.filterName ∅ config.logLevel)

def installSink (config : Config) (sink : Sink W α) : Assembly W α ComponentId :=
  .perform (.ofCreation config.sinkName) (·.addSink sink config.sinkName)

def joinSink (config : Config) (filter sink : ComponentId) : Assembly W α ConnectionId :=
  .perform (.ofConnection config.filterName config.sinkName)
    (·.connect (filter.output 0) (sink.input 0))

def fromSink (config : Config) (added : List AddedSource) (filter : ComponentId)
    (sink : Sink W α) : Assembly W α (Context W α) := do
  let id ← installSink config sink
  let _ ← joinSink config filter id
  Assembly.log (.ready added.length (added.flatMap AddedSource.outputs).length)
  let (graph, _) ← get
  return { graph, sources := added.map AddedSource.id, filter, sink := id }

def fromWiring (config : Config) (added : List AddedSource) (filter : ComponentId)
    (sink : Sink W α) (input : Nat) (outputs : List (String × PortRef)) :
    Assembly W α (Context W α) := do
  wire config filter input outputs
  fromSink config added filter sink

def fromFilter (config : Config) (cls : FilterClass W) (added : List AddedSource)
    (sink : Sink W α) : Assembly W α (Context W α) := do
  let filter ← install config cls
  fromWiring config added filter sink 0 (added.flatMap AddedSource.outputs)

def fromSources (config : Config) (cls : SourceClass W) (filterClass : FilterClass W)
    (locators : List String) (sink : Sink W α) : Assembly W α (Context W α) := do
  let added ← addSources config cls 0 locators
  fromFilter config filterClass added sink

theorem assemble_eq_classes (builder : Builder W) (locators : List String) (sink : Sink W α) :
    builder.assemble locators sink = (do
      let (cls, filterClass) ← builder.classes
      fromSources builder.config cls filterClass locators sink) := by
  unfold assemble classes
  simp only [bind_assoc, pure_bind]
  rfl

section

variable {builder : Builder W} {g later : Graph W α} {session last : Session W α}
  {cls : SourceClass W} {filterClass : FilterClass W}

theorem ok_classes (h : builder.classes.on g session = (.ok (cls, filterClass), later, last)) :
    g = later ∧
      (∃ sources filters between,
        (builder.registry.find builder.config.sourcePlugin).run session.world =
          (some sources, between) ∧
        (builder.registry.find builder.config.filterPlugin).run between =
          (some filters, last.world) ∧
        sources.source? builder.config.sourceClass = some cls ∧
        filters.filter? builder.config.filterClass = some filterClass) ∧
      last.journal.hooks = session.journal.hooks ++
        [.findPlugin builder.config.sourcePlugin, .findPlugin builder.config.filterPlugin] := by
  unfold classes at h
  obtain ⟨sources, _, looked, hwork, h⟩ := Assembly.ok_bind h
  obtain ⟨rfl, hsources, hhooks⟩ := Assembly.ok_findPlugin hwork
  obtain ⟨filters, _, found, hwork, h⟩ := Assembly.ok_bind h
  obtain ⟨rfl, hfilters, hhooks'⟩ := Assembly.ok_findPlugin hwork
  obtain ⟨sourceClass, _, _, hwork, h⟩ := Assembly.ok_bind h
  obtain ⟨hsourceClass, rfl, rfl⟩ := Assembly.ok_found hwork
  obtain ⟨filterClass, _, _, hwork, h⟩ := Assembly.ok_bind h
  obtain ⟨hfilterClass, rfl, rfl⟩ := Assembly.ok_found hwork
  cases h
  refine ⟨rfl, ⟨_, _, _, hsources, hfilters, hsourceClass, hfilterClass⟩, ?_⟩
  rw [hhooks', hhooks, List.append_assoc]
  rfl

theorem on_classes {sources filters : Plugin W} {between world : W}
    (hsources : (builder.registry.find builder.config.sourcePlugin).run session.world =
      (some sources, between))
    (hfilters : (builder.registry.find builder.config.filterPlugin).run between =
      (some filters, world))
    (hcls : sources.source? builder.config.sourceClass = some cls)
    (hfilterClass : filters.filter? builder.config.filterClass = some filterClass)
    (g : Graph W α) :
    ∃ last, builder.classes.on g session = (.ok (cls, filterClass), g, last) := by
  unfold classes
  rw [Assembly.on_bind, Assembly.on_findPlugin, hsources]
  dsimp only
  rw [Assembly.on_bind, Assembly.on_findPlugin]
  dsimp only
  rw [hfilters]
  dsimp only
  rw [hcls, hfilterClass]
  exact ⟨_, rfl⟩

theorem error_classes {e : TraceError}
    (h : builder.classes.on g session = (.error e, later, last)) :
    (∃ plugin, e = .capabilityNotFound plugin) ∨
      ∃ plugin className, e = .classNotFound plugin className := by
  unfold classes at h
  rcases Assembly.error_bind h with h | ⟨_, _, _, -, h⟩
  · exact .inl ⟨_, (Assembly.error_findPlugin h).2⟩
  rcases Assembly.error_bind h with h | ⟨_, _, _, -, h⟩
  · exact .inl ⟨_, (Assembly.error_findPlugin h).2⟩
  rcases Assembly.error_bind h with h | ⟨_, _, _, -, h⟩
  · exact .inr ⟨_, _, (Assembly.error_found h).2⟩
  rcases Assembly.error_bind h with h | ⟨_, _, _, -, h⟩
  · exact .inr ⟨_, _, (Assembly.error_found h).2⟩
  · cases h

theorem keeps_classes (P : Graph W α → Prop) (builder : Builder W) :
    Assembly.Keeps P (builder.classes (α := α)) := by
  refine .bind (.findPlugin _ _) fun sources => .bind (.findPlugin _ _) fun filters => ?_
  exact .bind (.found _ _ _) fun cls => .bind (.found _ _ _) fun filterClass => .pure _

end

/-! ## What a build leaves as it was -/

section

open Assembly (Steady)

theorem steady_classes (builder : Builder W) : Steady (builder.classes (α := α)) := by
  refine .bind (.findPlugin _ _) fun sources => .bind (.findPlugin _ _) fun filters => ?_
  exact .bind (.found _ _ _) fun cls => .bind (.found _ _ _) fun filterClass => .pure _

theorem steady_addSource (config : Config) (cls : SourceClass W) (index : Nat)
    (locator : String) : Steady (α := α) (addSource config cls index locator) := by
  unfold addSource
  refine .bind (.perform _ fun g session =>
    Graph.unmoved_memory_shared.addSource g cls _ _ _ session) fun id => ?_
  refine .bind (.query _ _) fun ports => ?_
  split
  · exact .bind (.throw _) fun _ => .bind (.log _) fun _ => .pure _
  · exact .bind (.log _) fun _ => .pure _

theorem steady_addSources (config : Config) (cls : SourceClass W) (index : Nat)
    (locators : List String) : Steady (α := α) (addSources config cls index locators) := by
  induction locators generalizing index with
  | nil => exact .pure _
  | cons locator rest ih =>
    unfold addSources
    exact .bind (steady_addSource config cls index locator) fun _ => .bind (ih _) fun _ => .pure _

theorem steady_install (config : Config) (cls : FilterClass W) :
    Steady (α := α) (install config cls) :=
  .perform _ fun g session => Graph.unmoved_memory_shared.addFilter g cls _ _ _ session

theorem steady_wire (config : Config) (filter : ComponentId) (input : Nat)
    (outputs : List (String × PortRef)) :
    Steady (W := W) (α := α) (wire config filter input outputs) := by
  induction outputs generalizing input with
  | nil => exact .pure _
  | cons output rest ih =>
    obtain ⟨name, output⟩ := output
    unfold wire
    refine .bind (.perform _ fun g session => ?_) fun _ => ih _
    exact Graph.unmoved_memory_shared.connect g output _ session

theorem steady_installSink (config : Config) (sink : Sink W α) : Steady (installSink config sink) :=
  .perform _ fun g session => Graph.unmoved_memory_shared.addSink g sink _ session

theorem steady_joinSink (config : Config) (filter sink : ComponentId) :
    Steady (W := W) (α := α) (joinSink config filter sink) :=
  .perform _ fun g session => Graph.unmoved_memory_shared.connect g _ _ session

theorem steady_assemble (builder : Builder W) (locators : List String) (sink : Sink W α) :
    Steady (builder.assemble locators sink) := by
  rw [assemble_eq_classes]
  refine .bind (steady_classes builder) fun (cls, filterClass) => ?_
  refine .bind (steady_addSources _ _ _ _) fun added => ?_
  refine .bind (steady_install _ _) fun filter => .bind (steady_wire _ _ _ _) fun _ => ?_
  refine .bind (steady_installSink _ _) fun id => .bind (steady_joinSink _ _ _) fun _ => ?_
  exact .bind (.log _) fun _ => .bind .get fun (_, _) => .pure _

end

end TraceFlow.Builder
