import TraceFlow.Proofs.Preparing

/-!
# What a builder builds

A builder adds one source per locator, then the filter, and joins every output port of a source to
the next input port of the filter. The sink comes last and reads the filter's first output port. All
of this is told by a blueprint, and a context that could be built follows its blueprint exactly.
-/

namespace TraceFlow

variable {W α : Type}

/-- A source as a builder got it from its class, and the world after that. -/
structure Fitted (W : Type) where
  name : String
  source : Source W
  ports : Nat
  world : W

namespace Fitted

def component (fitted : Fitted W) (cls : SourceClass W) (level : LogLevel) : Component W α :=
  .ofSource cls fitted.name level fitted.source fitted.ports

/-- The source is what its class answered for locator `index`. It has output ports. -/
structure Reads (fitted : Fitted W) (config : Config) (cls : SourceClass W) (index : Nat)
    (locator : String) (before : W) : Prop where
  name : fitted.name = config.sourceInstanceName index
  instantiated :
    (cls.instantiate (Builder.sourceParams config locator) config.logLevel).on before =
      (.ok fitted.source, fitted.world)
  ports_eq : fitted.ports = fitted.source.outputCount fitted.world
  ports_pos : 1 ≤ fitted.ports

def worlds (sources : List (Fitted W)) (before : W) : List W :=
  before :: sources.map Fitted.world

def lastWorld (sources : List (Fitted W)) (before : W) : W :=
  (sources.map Fitted.world).getLastD before

/-- The sources are what their class answered for the locators, one after the other and numbered
from `first` on. -/
structure AllRead (sources : List (Fitted W)) (config : Config) (cls : SourceClass W) (first : Nat)
    (locators : List String) (start : W) : Prop where
  count : sources.length = locators.length
  reads : ∀ (i : Nat) (locator : String) (fitted : Fitted W) (before : W),
    locators[i]? = some locator → sources[i]? = some fitted →
    (worlds sources start)[i]? = some before →
    fitted.Reads config cls (first + i) locator before

namespace AllRead

variable {sources : List (Fitted W)} {config : Config} {cls : SourceClass W} {first : Nat}
  {locators : List String} {start : W}

theorem nil (start : W) : AllRead [] config cls first [] start where
  count := rfl
  reads i locator fitted before htext := by simp at htext

theorem cons {fitted : Fitted W} {locator : String}
    (hfirst : fitted.Reads config cls first locator start)
    (h : AllRead sources config cls (first + 1) locators fitted.world) :
    AllRead (fitted :: sources) config cls first (locator :: locators) start where
  count := by simp [h.count]
  reads i text source before htext hsource hbefore := by
    cases i with
    | zero =>
      cases htext
      cases hsource
      cases hbefore
      exact hfirst
    | succ i =>
      have hread := h.reads i text source before htext hsource hbefore
      rwa [Nat.add_assoc, Nat.add_comm 1] at hread

theorem exists_reads (h : AllRead sources config cls first locators start) {i : Nat}
    {fitted : Fitted W} (hi : sources[i]? = some fitted) :
    ∃ locator before, fitted.Reads config cls (first + i) locator before := by
  have hlt := (List.getElem?_eq_some_iff.mp hi).1
  have hworld : i < (worlds sources start).length := by
    simp only [worlds, List.length_cons, List.length_map]
    omega
  exact ⟨_, _, h.reads i _ fitted _ (List.getElem?_eq_getElem (h.count ▸ hlt)) hi
    (List.getElem?_eq_getElem hworld)⟩

end AllRead

/-- The output ports of the sources, each with its source: first all those of the first source. -/
def outlets (sources : List (Fitted W)) : List (Fitted W × PortRef) :=
  (sources.mapIdx fun i fitted =>
    (List.range fitted.ports).map fun port => (fitted, ComponentId.output ⟨i⟩ port)).flatten

end Fitted

namespace Builder

def sourceCall (config : Config) (cls : SourceClass W) (locator : String) : Hook W :=
  .instantiate cls.name (sourceParams config locator) config.logLevel

section

variable {g later : Graph W α} {components : List (Component W α)}
  {wires : List (PortRef × PortRef)} {session last : Session W α} {config : Config}

theorem addSource_ok {cls : SourceClass W} {index : Nat} {locator : String} {added : AddedSource}
    (hg : g.Laid components wires)
    (h : (addSource config cls index locator).on g session = (.ok added, later, last)) :
    ∃ fitted : Fitted W, fitted.Reads config cls index locator session.world ∧
      fitted.world = last.world ∧
      added = ⟨⟨components.length⟩, fitted.name, fitted.ports⟩ ∧
      later.Laid (components ++ [fitted.component cls config.logLevel]) wires ∧
      last.journal.hooks = session.journal.hooks ++ [sourceCall config cls locator] := by
  unfold addSource at h
  obtain ⟨id, placed, asked, hadd, h⟩ := Assembly.ok_bind h
  replace hadd := Assembly.ok_perform hadd
  obtain ⟨source, hon, hhooks, rfl, -, rfl⟩ := Graph.addSource_ok hadd
  obtain ⟨ports, _, _, hquery, h⟩ := Assembly.ok_bind h
  obtain ⟨hcount, rfl, rfl⟩ := Reply.mk.inj (Assembly.ok_perform hquery)
  have hports : ports = source.outputCount asked.world := by
    have hplaced := Graph.portCount_place_self g
      (.ofSource cls (config.sourceInstanceName index) config.logLevel source
        (source.outputCount asked.world)) .output
    rw [← Except.ok.inj (hplaced.symm.trans hcount)]
    exact PortTable.size_ofCount ..
  subst hports
  split at h
  · obtain ⟨_, _, _, hthrow, -⟩ := Assembly.ok_bind h
    cases hthrow
  · next hsome =>
    obtain ⟨_, _, _, hlog, h⟩ := Assembly.ok_bind h
    cases hlog
    cases h
    refine ⟨⟨config.sourceInstanceName index, source, _, asked.world⟩,
      ⟨rfl, hon, rfl, Nat.pos_of_ne_zero hsome⟩, rfl, ?_, ?_, ?_⟩
    · rw [hg.nextId_eq]
    · exact hg.accept (.addSource cls _ _ _) (congrArg Reply.graph hadd)
    · exact (Session.hooks_log _ _).trans hhooks

theorem addSources_ok {cls : SourceClass W} {locators : List String} {added : List AddedSource}
    (hg : g.Laid components wires)
    (h : (addSources config cls components.length locators).on g session =
      (.ok added, later, last)) :
    ∃ sources : List (Fitted W),
      Fitted.AllRead sources config cls components.length locators session.world ∧
      last.world = Fitted.lastWorld sources session.world ∧
      added = sources.mapIdx (fun i fitted =>
        ⟨⟨components.length + i⟩, fitted.name, fitted.ports⟩) ∧
      later.Laid (components ++ sources.map (·.component cls config.logLevel)) wires ∧
      last.journal.hooks = session.journal.hooks ++ locators.map (sourceCall config cls) := by
  induction locators generalizing components g session added with
  | nil =>
    cases h
    exact ⟨[], .nil _, rfl, rfl, by simpa using hg, by simp⟩
  | cons locator rest ih =>
    unfold addSources at h
    obtain ⟨first, between, asked, hfirst, h⟩ := Assembly.ok_bind h
    obtain ⟨others, _, _, hothers, h⟩ := Assembly.ok_bind h
    cases h
    obtain ⟨fitted, hreads, hworld, rfl, hlaid, hhooks⟩ := addSource_ok hg hfirst
    have hlength : (components ++ [fitted.component cls config.logLevel]).length =
        components.length + 1 := by simp
    obtain ⟨sources, hrest, hlast, rfl, hlater, hhooks'⟩ := ih hlaid (hlength ▸ hothers)
    rw [hlength, ← hworld] at hrest
    rw [← hworld] at hlast
    refine ⟨fitted :: sources, .cons hreads hrest, ?_, ?_, ?_, ?_⟩
    · rw [hlast]
      simp [Fitted.lastWorld, List.getLast?_cons]
    · rw [List.mapIdx_cons, hlength]
      simp only [Nat.add_zero, Nat.add_assoc, Nat.add_comm 1]
    · rw [List.map_cons, List.append_cons]
      exact hlater
    · rw [hhooks', hhooks, List.map_cons, List.append_assoc]
      rfl

theorem wire_ok {filter : ComponentId} {input : Nat} {outputs : List (String × PortRef)}
    {c : Component W α} (hg : g.Laid components wires) (hc : components[filter.index]? = some c)
    (hfilter : c.kind = .filter)
    (h : (wire config filter input outputs).on g session = (.ok (), later, last)) :
    later.Laid components
        (wires ++ (outputs.map Prod.snd).mapIdx fun k port => (port, filter.input (input + k))) ∧
      last.journal.hooks = session.journal.hooks ++
        (List.range' input outputs.length).map (.inputConnected filter) := by
  induction outputs generalizing g input wires session with
  | nil =>
    cases h
    exact ⟨by simpa using hg, by simp⟩
  | cons output rest ih =>
    obtain ⟨name, output⟩ := output
    unfold wire at h
    obtain ⟨id, joined, told, hjoin, h⟩ := Assembly.ok_bind h
    replace hjoin := Assembly.ok_perform hjoin
    have hlaid := hg.connect hjoin
    obtain ⟨hjoinable, hrow, -, -⟩ := Graph.connect_ok hjoin
    have hhooks := hjoinable.hooks_connect hrow
    have hkind : g.kind? filter = some .filter := hfilter ▸ hg.kind? hc
    rw [hjoin, show (filter.input input).component = filter from rfl, if_pos hkind] at hhooks
    obtain ⟨hlater, hhooks'⟩ := ih hlaid h
    refine ⟨?_, ?_⟩
    · rw [List.map_cons, List.mapIdx_cons, List.append_cons]
      simpa only [Nat.add_zero, Nat.add_assoc, Nat.add_comm 1] using hlater
    · rw [hhooks', hhooks, List.length_cons, List.range'_succ, List.map_cons, List.append_assoc]
      rfl

theorem addFilter_ok {cls : FilterClass W} {id : ComponentId} (hg : g.Laid components wires)
    (h : (Assembly.perform (.ofCreation config.filterName)
      (·.addFilter cls config.filterName ∅ config.logLevel)).on g session =
        (.ok id, later, last)) :
    ∃ filter c, (cls.instantiate ∅ config.logLevel).on session.world = (.ok filter, last.world) ∧
      c = .ofFilter cls config.filterName config.logLevel filter (filter.inputCount last.world)
        (filter.outputCount last.world) ∧
      id = ⟨components.length⟩ ∧ later.Laid (components ++ [c]) wires ∧
      last.journal.hooks = session.journal.hooks ++ [.instantiate cls.name ∅ config.logLevel] := by
  have hadd := Assembly.ok_perform h
  obtain ⟨filter, c, hon, hhooks, rfl, hc, -, rfl⟩ := Graph.addFilter_ok hadd
  exact ⟨filter, c, hon, hc, hg.nextId_eq,
    hg.accept (.addFilter cls _ _ _) (congrArg Reply.graph hadd), hhooks⟩

theorem addSink_ok {sink : Sink W α} {id : ComponentId} (hg : g.Laid components wires)
    (h : (Assembly.perform (.ofCreation config.sinkName) (·.addSink sink config.sinkName)).on g
      session = (.ok id, later, last)) :
    id = ⟨components.length⟩ ∧
      later.Laid (components ++ [.ofSink sink config.sinkName]) wires ∧
      last.journal.hooks = session.journal.hooks := by
  have hadd := Assembly.ok_perform h
  obtain ⟨hhooks, rfl, -, rfl⟩ := Graph.addSink_ok hadd
  exact ⟨hg.nextId_eq, hg.accept (.addSink sink _) (congrArg Reply.graph hadd), hhooks⟩

theorem join_ok {wrap : GraphError → TraceError} {upstream downstream : PortRef}
    {c : Component W α} {id : ConnectionId} (hg : g.Laid components wires)
    (hc : components[downstream.component.index]? = some c) (hkind : c.kind ≠ .filter)
    (h : (Assembly.perform wrap (·.connect upstream downstream)).on g session =
      (.ok id, later, last)) :
    later.Laid components (wires ++ [(upstream, downstream)]) ∧
      last.journal.hooks = session.journal.hooks := by
  have hjoin := Assembly.ok_perform h
  obtain ⟨hjoinable, hrow, -, -⟩ := Graph.connect_ok hjoin
  have hhooks := hjoinable.hooks_connect hrow
  have hnone : g.kind? downstream.component ≠ some .filter := by
    rw [show g.kind? downstream.component = some c.kind from hg.kind? hc]
    exact fun hsame => hkind (Option.some.inj hsame)
  rw [hjoin, if_neg hnone, List.append_nil] at hhooks
  exact ⟨hg.connect hjoin, hhooks⟩

end

end Builder

/-! ## The whole graph -/

/-- What a builder found and made on its way to a context. -/
structure Blueprint (W : Type) where
  locators : List String
  sourceClass : SourceClass W
  filterClass : FilterClass W
  /-- The world once the classes have been found. -/
  world : W
  sources : List (Fitted W)
  filter : Filter W
  inputs : Nat
  outputs : Nat

namespace Blueprint

def filterId (blueprint : Blueprint W) : ComponentId := ⟨blueprint.sources.length⟩

def sinkId (blueprint : Blueprint W) : ComponentId := ⟨blueprint.sources.length + 1⟩

/-- The output ports that are joined to the filter. -/
def outlets (blueprint : Blueprint W) : List PortRef :=
  (Fitted.outlets blueprint.sources).map Prod.snd

def components (blueprint : Blueprint W) (config : Config) (sink : Sink W α) :
    List (Component W α) :=
  blueprint.sources.map (·.component blueprint.sourceClass config.logLevel) ++
    [.ofFilter blueprint.filterClass config.filterName config.logLevel blueprint.filter
      blueprint.inputs blueprint.outputs] ++
    [.ofSink sink config.sinkName]

def wires (blueprint : Blueprint W) : List (PortRef × PortRef) :=
  (blueprint.outlets.mapIdx fun k port => (port, blueprint.filterId.input k)) ++
    [(blueprint.filterId.output 0, blueprint.sinkId.input 0)]

/-- The calls of the registry, the classes and the filter while the context is built. -/
def calls (blueprint : Blueprint W) (config : Config) : List (Hook W) :=
  [.findPlugin config.sourcePlugin, .findPlugin config.filterPlugin] ++
    blueprint.locators.map (Builder.sourceCall config blueprint.sourceClass) ++
    [.instantiate blueprint.filterClass.name ∅ config.logLevel] ++
    (List.range blueprint.outlets.length).map (.inputConnected blueprint.filterId)

/-- The locators are those of the builder, the classes those that its registry has, and the sources
and the filter what these classes answered. -/
structure MadeBy (blueprint : Blueprint W) (builder : Builder W) (world : W) : Prop where
  locators : builder.locators.map String.fromUTF8? = blueprint.locators.map some
  classes : ∃ sources filters between,
    (builder.registry.find builder.config.sourcePlugin).run world = (some sources, between) ∧
    (builder.registry.find builder.config.filterPlugin).run between =
      (some filters, blueprint.world) ∧
    sources.source? builder.config.sourceClass = some blueprint.sourceClass ∧
    filters.filter? builder.config.filterClass = some blueprint.filterClass
  sources : Fitted.AllRead blueprint.sources builder.config blueprint.sourceClass 0
    blueprint.locators blueprint.world
  filter : ∃ after,
    (blueprint.filterClass.instantiate ∅ builder.config.logLevel).on
      (Fitted.lastWorld blueprint.sources blueprint.world) = (.ok blueprint.filter, after) ∧
    blueprint.inputs = blueprint.filter.inputCount after ∧
    blueprint.outputs = blueprint.filter.outputCount after

end Blueprint

/-- The graph of a context is laid out as the blueprint says. -/
structure Context.Follows (context : Context W α) (config : Config) (sink : Sink W α)
    (blueprint : Blueprint W) : Prop where
  laid : context.graph.Laid (blueprint.components config sink) blueprint.wires
  sources : context.sources = (List.range blueprint.sources.length).map ComponentId.mk
  filter : context.filter = blueprint.filterId
  sink : context.sink = blueprint.sinkId

namespace Builder

theorem flatMap_outputs (sources : List (Fitted W)) :
    (sources.mapIdx fun i fitted =>
      (⟨⟨i⟩, fitted.name, fitted.ports⟩ : AddedSource)).flatMap AddedSource.outputs =
      (Fitted.outlets sources).map fun outlet => (outlet.1.name, outlet.2) := by
  unfold Fitted.outlets
  rw [List.flatMap_def, List.map_flatten]
  congr 1
  apply List.ext_getElem?
  intro i
  simp only [List.getElem?_map, List.getElem?_mapIdx]
  cases sources[i]? <;> simp [AddedSource.outputs]

theorem map_id_added (sources : List (Fitted W)) :
    (sources.mapIdx fun i fitted =>
      (⟨⟨i⟩, fitted.name, fitted.ports⟩ : AddedSource)).map AddedSource.id =
      (List.range sources.length).map ComponentId.mk := by
  apply List.ext_getElem
  · simp
  · intro i _ _
    simp

theorem follows_of_assemble {builder : Builder W} {locators : List String} {sink : Sink W α}
    {later : Graph W α} {session last : Session W α} {context : Context W α}
    (hlocators : builder.locators.map String.fromUTF8? = locators.map some)
    (h : (builder.assemble locators sink).on .empty session = (.ok context, later, last)) :
    ∃ blueprint : Blueprint W, blueprint.MadeBy builder session.world ∧
      context.Follows builder.config sink blueprint ∧
      last.journal.hooks = session.journal.hooks ++ blueprint.calls builder.config := by
  rw [assemble_eq_classes] at h
  obtain ⟨⟨sourceClass, filterClass⟩, _, found, hwork, h₁⟩ := Assembly.ok_bind h
  obtain ⟨rfl, hclasses, hhooks₁⟩ := ok_classes hwork
  obtain ⟨added, sourced, made, hwork, h₂⟩ := Assembly.ok_bind h₁
  obtain ⟨sources, hread, hlast, hadded, hlaid, hhooks₂⟩ :=
    addSources_ok Graph.laid_empty hwork
  obtain ⟨filterId, filtered, asked, hwork, h₃⟩ := Assembly.ok_bind h₂
  obtain ⟨filter, c, hon, hc, hfilterId, hlaid, hhooks₃⟩ := addFilter_ok hlaid hwork
  obtain ⟨_, wired, told, hwork, h₄⟩ := Assembly.ok_bind h₃
  simp only [List.length_nil, Nat.zero_add] at hadded
  simp only [List.nil_append, List.length_map] at hlaid hfilterId
  rw [hadded, flatMap_outputs] at hwork
  obtain ⟨hlaid, hhooks₄⟩ := wire_ok hlaid (c := c) (by simp [hfilterId]) (by rw [hc]; rfl) hwork
  obtain ⟨sinkId, sunk, seated, hwork, h₅⟩ := Assembly.ok_bind h₄
  obtain ⟨hsinkId, hlaid, hhooks₅⟩ := addSink_ok hlaid hwork
  obtain ⟨_, joined, linked, hwork, h₆⟩ := Assembly.ok_bind h₅
  obtain ⟨hlaid, hhooks₆⟩ := join_ok hlaid (c := .ofSink sink builder.config.sinkName)
    (by simp [hsinkId, ComponentId.input]) (fun hkind => by cases hkind) hwork
  obtain ⟨_, _, _, hlog, h₇⟩ := Assembly.ok_bind h₆
  cases hlog
  obtain ⟨_, _, _, hget, h₈⟩ := Assembly.ok_bind h₇
  cases hget
  cases h₈
  let blueprint : Blueprint W :=
    { locators, sourceClass, filterClass, world := found.world, sources, filter
      inputs := filter.inputCount asked.world
      outputs := filter.outputCount asked.world }
  have hids : filterId = blueprint.filterId ∧ sinkId = blueprint.sinkId := by
    refine ⟨hfilterId, ?_⟩
    rw [hsinkId]
    simp [Blueprint.sinkId, blueprint]
  refine ⟨blueprint, ?_, ?_, ?_⟩
  · exact
      { locators := hlocators
        classes := hclasses
        sources := hread
        filter := ⟨_, hlast ▸ hon, rfl, rfl⟩ }
  · exact
      { laid := by
          rw [hids.1, hids.2, hc] at hlaid
          simp only [List.map_map, Nat.zero_add, List.nil_append] at hlaid
          exact hlaid
        sources := by
          rw [hadded]
          exact map_id_added sources
        filter := hids.1
        sink := hids.2 }
  · rw [Session.hooks_log, hhooks₆, hhooks₅, hhooks₄, hhooks₃, hhooks₂, hhooks₁, hids.1]
    simp [Blueprint.calls, Blueprint.outlets, List.range_eq_range', blueprint]

/-- A context that could be built follows its blueprint. -/
theorem follows_of_build {builder : Builder W} {sink : Sink W α} {session opened : Session W α}
    {context : Context W α} (h : builder.build sink session = (.ok context, opened)) :
    ∃ blueprint : Blueprint W, blueprint.MadeBy builder session.world ∧
      context.Follows builder.config sink blueprint ∧
      opened.journal.hooks = session.journal.hooks ++ blueprint.calls builder.config := by
  obtain ⟨texts, later, hprepared, hwork⟩ := build_ok h
  exact follows_of_assemble hprepared.read hwork

end Builder

end TraceFlow
