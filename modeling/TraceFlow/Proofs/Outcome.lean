import TraceFlow.Proofs.Failing

/-!
# What a build comes to

Every build either goes well at all its stages or fails at one of them, and then it has done no more
than it got to: the calls until then are all that was made, and a sink that was already there is
tidied up.
-/

namespace TraceFlow

variable {W α β γ : Type}

namespace Graph

theorem Laid.index_lt_of_wire {g : Graph W α} {components : List (Component W α)}
    {wires : List (PortRef × PortRef)} (hg : g.Laid components wires) {wire : PortRef × PortRef}
    (hwire : wire ∈ wires) : wire.1.component.index < components.length := by
  have hholds := (hg.isSome_holds? wire.1).mpr ⟨wire, hwire, .inl rfl⟩
  obtain ⟨id, hid⟩ := Option.isSome_iff_exists.mp hholds
  obtain ⟨port, hport, -⟩ := Option.bind_eq_some_iff.mp hid
  rw [← hg.count]
  exact component?_isSome_iff.mp (component?_isSome_of_port? (Option.isSome_of_eq_some hport))

theorem Laid.sinkless {g : Graph W α} {components : List (Component W α)}
    {wires : List (PortRef × PortRef)} (hg : g.Laid components wires)
    (h : ∀ c ∈ components, c.kind ≠ .sink) : g.Sinkless where
  reached := hg.reached
  state := hg.state
  sinks := by
    rw [hg.reached.coherent.sinks, List.filter_eq_nil_iff]
    intro id hid hkind
    have hlt : id.index < components.length := by
      rw [← hg.count]
      exact component?_isSome_iff.mp (mem_ids.mp hid)
    have hsame := hg.kind? (List.getElem?_eq_getElem hlt)
    rw [show g.kind? ⟨id.index⟩ = some .sink from of_decide_eq_true hkind] at hsame
    exact h _ (List.getElem_mem hlt) (Option.some.inj hsame).symm

end Graph

namespace Builder

/-! ## Work that comes to something -/

/-- After these calls only the rest of the work is left to do. -/
def Comes (work : Assembly W α β) (g : Graph W α) (session : Session W α) (calls : List (Hook W))
    (rest : Assembly W α β) (later : Graph W α) (last : Session W α) : Prop :=
  work.on g session = rest.on later last ∧
    last.journal.hooks = session.journal.hooks ++ calls

/-- The work fails, and these are all the calls until its graph has been taken down. -/
def Stops (work : Assembly W α β) (g : Graph W α) (session : Session W α) (e : TraceError)
    (calls : List (Hook W)) : Prop :=
  ∃ later last, work.on g session = (.error e, later, last) ∧
    (later.close last).journal.hooks = session.journal.hooks ++ calls

section

variable {work rest : Assembly W α β} {g later : Graph W α} {session last : Session W α}
  {calls more : List (Hook W)} {e : TraceError}

theorem Comes.trans {next : Assembly W α β} {end' : Graph W α} {ended : Session W α}
    (h : Comes work g session calls rest later last)
    (hrest : Comes rest later last more next end' ended) :
    Comes work g session (calls ++ more) next end' ended :=
  ⟨h.1.trans hrest.1, by rw [hrest.2, h.2, List.append_assoc]⟩

theorem Comes.stops (h : Comes work g session calls rest later last)
    (hrest : Stops rest later last e more) : Stops work g session e (calls ++ more) := by
  obtain ⟨end', ended, hwork, hhooks⟩ := hrest
  exact ⟨end', ended, h.1.trans hwork, by rw [hhooks, h.2, List.append_assoc]⟩

theorem Comes.stops_there (h : Comes work g session calls rest later last)
    (hrest : Stops rest later last e []) : Stops work g session e calls := by
  have hstops := h.stops hrest
  rwa [List.append_nil] at hstops

theorem Comes.bind {next : β → Assembly W α γ} {value : β}
    (h : work.on g session = (.ok value, later, last))
    (hhooks : last.journal.hooks = session.journal.hooks ++ calls) :
    Comes (work >>= next) g session calls (next value) later last := by
  refine ⟨?_, hhooks⟩
  rw [Assembly.on_bind, h]

theorem Stops.bind {next : β → Assembly W α γ} (h : Stops work g session e calls) :
    Stops (work >>= next) g session e calls := by
  obtain ⟨later, last, hwork, hhooks⟩ := h
  refine ⟨later, last, ?_, hhooks⟩
  rw [Assembly.on_bind, hwork]

/-- Work that fails without a sink stops after its own calls. -/
theorem stops_of_sinkless (hg : g.Sinkless) (hkeeps : Assembly.Keeps Graph.Sinkless work)
    (h : work.on g session = (.error e, later, last))
    (hhooks : last.journal.hooks = session.journal.hooks ++ calls) :
    Stops work g session e calls := by
  have hlater := hkeeps g session hg
  rw [h] at hlater
  refine ⟨later, last, h, ?_⟩
  rw [Graph.hooks_close hlater.reached.coherent, hlater.sinks, hhooks]
  exact List.append_nil _

end

/-! ## How far a build gets -/

theorem assemble_eq (builder : Builder W) (locators : List String) (sink : Sink W α) :
    builder.assemble locators sink = (do
      let sources ← Assembly.findPlugin builder.registry builder.config.sourcePlugin
      let filters ← Assembly.findPlugin builder.registry builder.config.filterPlugin
      let sourceClass ← Assembly.found builder.config.sourcePlugin builder.config.sourceClass
        (sources.source? builder.config.sourceClass)
      let filterClass ← Assembly.found builder.config.filterPlugin builder.config.filterClass
        (filters.filter? builder.config.filterClass)
      fromSources builder.config sourceClass filterClass locators sink) := rfl

def addedSources (sources : List (Fitted W)) : List AddedSource :=
  sources.mapIdx fun i fitted => ⟨⟨i⟩, fitted.name, fitted.ports⟩

section

variable {builder : Builder W} {session : Session W α}

theorem comes_of_looked {sources filters : Plugin W} {world : W}
    (h : builder.Looked session.world sources filters world) (texts : List String)
    (sink : Sink W α) :
    ∃ last, last.toScene = session.toScene.later world ∧
      Comes (builder.assemble texts sink) .empty session (lookups builder.config) (do
        let sourceClass ← Assembly.found builder.config.sourcePlugin builder.config.sourceClass
          (sources.source? builder.config.sourceClass)
        let filterClass ← Assembly.found builder.config.filterPlugin builder.config.filterClass
          (filters.filter? builder.config.filterClass)
        fromSources builder.config sourceClass filterClass texts sink) .empty last := by
  obtain ⟨between, hsources, hfilters⟩ := h
  refine ⟨⟨session.toScene.later world,
    (session.journal.record (.hook (.findPlugin builder.config.sourcePlugin))).record
      (.hook (.findPlugin builder.config.filterPlugin))⟩, rfl, ?_, ?_⟩
  · rw [assemble_eq, Assembly.on_bind, Assembly.on_findPlugin, hsources]
    dsimp only
    rw [Assembly.on_bind, Assembly.on_findPlugin]
    dsimp only
    rw [hfilters]
    rfl
  · rw [Journal.hooks_record_hook, Journal.hooks_record_hook, List.append_assoc]
    rfl

theorem comes_of_equipped {texts : List String} {cls : SourceClass W} {filterClass : FilterClass W}
    {world : W} (h : builder.Equipped session.memory session.world texts cls filterClass world)
    (sink : Sink W α) :
    ∃ last, last.toScene = session.toScene.later world ∧
      Comes (builder.assemble texts sink) .empty session (lookups builder.config)
        (fromSources builder.config cls filterClass texts sink) .empty last := by
  obtain ⟨sources, filters, hlooked, hsource, hfilter⟩ := h.classes
  obtain ⟨last, hscene, hcomes⟩ := comes_of_looked hlooked texts sink
  rw [hsource, hfilter] at hcomes
  exact ⟨last, hscene, hcomes⟩

theorem comes_of_yields {texts : List String} {cls : SourceClass W} {filterClass : FilterClass W}
    {world now : W} {sources : List (Fitted W)}
    (h : builder.Equipped session.memory session.world texts cls filterClass world)
    (hyields : Yields builder.config cls session.memory 0 texts world sources now)
    (sink : Sink W α) :
    ∃ later last, last.toScene = session.toScene.later now ∧
      later.Laid (sources.map (·.component cls builder.config.logLevel)) [] ∧
      Comes (builder.assemble texts sink) .empty session (sourced builder.config cls texts)
        (fromFilter builder.config filterClass (addedSources sources) sink) later last := by
  obtain ⟨opened, hopened, hcomes⟩ := comes_of_equipped h sink
  obtain ⟨later, last, hwork, hlaid, hscene, hhooks⟩ :=
    on_addSources_append hyields [] Graph.laid_empty (by simp [Numbered]) rfl
      ((congrArg Scene.memory hopened).trans rfl) (congrArg Scene.world hopened)
  rw [List.append_nil, addSources] at hwork
  refine ⟨later, last, hscene.trans (congrArg (·.later now) hopened), by simpa using hlaid,
    hcomes.trans ?_⟩
  refine .bind (hwork.trans ?_) hhooks
  simp only [Nat.zero_add]
  exact congrArg (fun added => (Except.ok added, later, last)) (List.append_nil _)

end

def parts (config : Config) (blueprint : Blueprint W) : List (Component W α) :=
  blueprint.sources.map (·.component blueprint.sourceClass config.logLevel) ++
    [.ofFilter blueprint.filterClass config.filterName config.logLevel blueprint.filter
      blueprint.inputs blueprint.outputs]

/-- The output ports of the sources from some on, each with the name of its source. -/
def named (outlets : List (Fitted W × PortRef)) : List (String × PortRef) :=
  outlets.map fun outlet => (outlet.1.name, outlet.2)

theorem length_named (outlets : List (Fitted W × PortRef)) :
    (named outlets).length = outlets.length := List.length_map _

theorem map_snd_named (outlets : List (Fitted W × PortRef)) :
    (named outlets).map Prod.snd = outlets.map Prod.snd := by
  unfold named
  rw [List.map_map]
  rfl

section

variable {builder : Builder W} {session : Session W α} {blueprint : Blueprint W} {now : W}

theorem comes_of_furnished (h : builder.Furnished session.memory session.world blueprint now)
    (sink : Sink W α) :
    ∃ later last, last.toScene = session.toScene.later now ∧
      Stands later (parts builder.config blueprint) [] blueprint.filterId
        builder.config.filterName blueprint.filter blueprint.inputs ∧
      Comes (builder.assemble blueprint.locators sink) .empty session
        (furnished builder.config blueprint)
        (fromWiring builder.config (addedSources blueprint.sources) blueprint.filterId sink 0
          (named (Fitted.outlets blueprint.sources))) later last := by
  obtain ⟨between, hyields, hfilter⟩ := h.yields
  obtain ⟨placed, opened, hopened, hlaid, hcomes⟩ := comes_of_yields h.equipped hyields sink
  have hfree := mt (hyields.exists_name_iff (α := α) builder.config.filterName).mp h.free
  simp only [not_exists, not_and] at hfree
  have hplace : (blueprint.sources.map (·.component (α := α) blueprint.sourceClass
      builder.config.logLevel)).length = blueprint.locators.length := by
    rw [List.length_map, hyields.length_eq]
  rw [show session.memory = opened.memory from (congrArg Scene.memory hopened.symm).trans rfl,
    show between = opened.world from congrArg Scene.world hopened.symm] at hfilter
  obtain ⟨later, last, hinstall, hstands, hscene, hhooks⟩ :=
    on_install_of_yields hlaid hplace hfree hfilter
  rw [← hyields.length_eq] at hinstall hstands
  refine ⟨later, last, hscene.trans (congrArg (·.later now) hopened), hstands, hcomes.trans ?_⟩
  have houtputs : (addedSources blueprint.sources).flatMap AddedSource.outputs =
      named (Fitted.outlets blueprint.sources) := flatMap_outputs blueprint.sources
  rw [← houtputs]
  exact .bind hinstall hhooks

theorem comes_of_takes (h : builder.Furnished session.memory session.world blueprint now)
    {joined rest : List (Fitted W × PortRef)} {size : Nat} {after : W}
    (hall : Fitted.outlets blueprint.sources = joined ++ rest)
    (htakes : Takes session.memory blueprint.filterId blueprint.filter 0 blueprint.inputs now
      joined.length size after)
    (sink : Sink W α) :
    ∃ wires later last, wires.length = joined.length ∧
      last.toScene = session.toScene.later after ∧
      Stands later (parts builder.config blueprint) wires blueprint.filterId
        builder.config.filterName blueprint.filter size ∧
      Unjoined (α := α) (parts builder.config blueprint) wires blueprint.filterId joined.length
        ((named rest).map Prod.snd) ∧
      Comes (builder.assemble blueprint.locators sink) .empty session
        (told builder.config blueprint joined.length)
        (fromWiring builder.config (addedSources blueprint.sources) blueprint.filterId sink
          joined.length (named rest)) later last := by
  obtain ⟨placed, opened, hopened, hstands, hcomes⟩ := comes_of_furnished h sink
  have hjoined := unjoined_of_sources (α := α) blueprint.sourceClass builder.config.logLevel
    blueprint.sources (.ofFilter blueprint.filterClass builder.config.filterName
      builder.config.logLevel blueprint.filter blueprint.inputs blueprint.outputs)
  have hnamed : named (joined ++ rest) = named joined ++ named rest := List.map_append
  rw [← map_snd_named, hall, hnamed] at hjoined
  obtain ⟨later, last, hwire, hgrown, hleft, hscene, hhooks⟩ :=
    on_wire_append htakes (length_named joined) hstands rfl hjoined
      ((congrArg Scene.memory hopened).trans rfl) (congrArg Scene.world hopened)
  rw [Nat.zero_add] at hwire hleft
  refine ⟨_, later, last, ?_, hscene.trans (congrArg (·.later after) hopened), hgrown, hleft,
    hcomes.trans ⟨?_, ?_⟩⟩
  · rw [List.nil_append, List.length_mapIdx, List.length_map, length_named]
  · rw [hall, hnamed]
    unfold fromWiring
    rw [Assembly.on_bind, hwire, ← Assembly.on_bind]
  · rw [hhooks, List.range_eq_range']

end

/-! ## What fails -/

theorem kind_ne_sink_of_source {cls : SourceClass W} {level : LogLevel}
    {sources : List (Fitted W)} {c : Component W α}
    (hc : c ∈ sources.map (·.component cls level)) : c.kind ≠ .sink := by
  obtain ⟨fitted, -, rfl⟩ := List.mem_map.mp hc
  exact fun hkind => by cases hkind

theorem kind_ne_sink_of_part {config : Config} {blueprint : Blueprint W} {c : Component W α}
    (hc : c ∈ parts config blueprint) : c.kind ≠ .sink := by
  rcases List.mem_append.mp hc with hsource | hfilter
  · exact kind_ne_sink_of_source hsource
  · obtain rfl := List.mem_singleton.mp hfilter
    exact fun hkind => by cases hkind

section

variable {builder : Builder W} {session : Session W α} {e : TraceError}

theorem stops_of_no_sourcePlugin {after : W}
    (h : (builder.registry.find builder.config.sourcePlugin).run session.world = (none, after))
    (texts : List String) (sink : Sink W α) :
    Stops (builder.assemble texts sink) .empty session
      (.capabilityNotFound builder.config.sourcePlugin)
      [.findPlugin builder.config.sourcePlugin] := by
  have hwork := Assembly.on_findPlugin (α := α) builder.registry builder.config.sourcePlugin
    .empty session
  rw [h] at hwork
  exact .bind (stops_of_sinkless Graph.sinkless_empty (.findPlugin _ _) hwork
    (Journal.hooks_record_hook ..))

theorem stops_of_no_filterPlugin {sources : Plugin W} {between after : W}
    (hsource : (builder.registry.find builder.config.sourcePlugin).run session.world =
      (some sources, between))
    (h : (builder.registry.find builder.config.filterPlugin).run between = (none, after))
    (texts : List String) (sink : Sink W α) :
    Stops (builder.assemble texts sink) .empty session
      (.capabilityNotFound builder.config.filterPlugin) (lookups builder.config) := by
  have hfirst := Assembly.on_findPlugin (α := α) builder.registry builder.config.sourcePlugin
    .empty session
  rw [hsource] at hfirst
  have hwork := Assembly.on_findPlugin (α := α) builder.registry builder.config.filterPlugin
    .empty { session with
      world := between
      journal := session.journal.record (.hook (.findPlugin builder.config.sourcePlugin)) }
  dsimp only at hwork
  rw [h] at hwork
  rw [assemble_eq]
  have hstops := stops_of_sinkless Graph.sinkless_empty (.findPlugin _ _) hwork
    (Journal.hooks_record_hook ..)
  exact (Comes.bind hfirst (Journal.hooks_record_hook ..)).stops hstops.bind

theorem stops_of_none {g : Graph W α} (hg : g.Sinkless) (plugin className : String)
    (session : Session W α) :
    Stops (Assembly.found (C := β) plugin className none) g session
      (.classNotFound plugin className) [] :=
  stops_of_sinkless hg (.found _ _ _) rfl (List.append_nil _).symm

theorem stops_of_no_sourceClass {sources filters : Plugin W} {world : W}
    (hlooked : builder.Looked session.world sources filters world)
    (h : sources.source? builder.config.sourceClass = none) (texts : List String)
    (sink : Sink W α) :
    Stops (builder.assemble texts sink) .empty session
      (.classNotFound builder.config.sourcePlugin builder.config.sourceClass)
      (lookups builder.config) := by
  obtain ⟨last, -, hcomes⟩ := comes_of_looked hlooked texts sink
  rw [h] at hcomes
  exact hcomes.stops_there (.bind (stops_of_none Graph.sinkless_empty _ _ _))

theorem stops_of_no_filterClass {sources filters : Plugin W} {cls : SourceClass W} {world : W}
    (hlooked : builder.Looked session.world sources filters world)
    (hsource : sources.source? builder.config.sourceClass = some cls)
    (h : filters.filter? builder.config.filterClass = none) (texts : List String)
    (sink : Sink W α) :
    Stops (builder.assemble texts sink) .empty session
      (.classNotFound builder.config.filterPlugin builder.config.filterClass)
      (lookups builder.config) := by
  obtain ⟨last, -, hcomes⟩ := comes_of_looked hlooked texts sink
  rw [hsource, h] at hcomes
  have hrest : Stops (do
      let filterClass ← Assembly.found builder.config.filterPlugin builder.config.filterClass none
      fromSources builder.config cls filterClass texts sink) .empty last _ [] :=
    .bind (stops_of_none Graph.sinkless_empty _ _ _)
  exact hcomes.stops_there hrest

theorem stops_of_sourceFails {read rest : List String} {locator : String} {cls : SourceClass W}
    {filterClass : FilterClass W} {world now : W} {sources : List (Fitted W)}
    (hequipped : builder.Equipped session.memory session.world (read ++ locator :: rest) cls
      filterClass world)
    (hyields : Yields builder.config cls session.memory 0 read world sources now)
    (h : SourceFails builder.config cls session.memory read.length locator now e)
    (sink : Sink W α) :
    Stops (builder.assemble (read ++ locator :: rest) sink) .empty session e
      (sourced builder.config cls (read ++ [locator])) := by
  obtain ⟨opened, hopened, hcomes⟩ := comes_of_equipped hequipped sink
  obtain ⟨later, last, hwork, hlaid, hscene, hhooks⟩ :=
    on_addSources_append hyields (locator :: rest) Graph.laid_empty (by simp [Numbered]) rfl
      ((congrArg Scene.memory hopened).trans rfl) (congrArg Scene.world hopened)
  rw [List.nil_append] at hlaid
  have hplace : (sources.map (·.component (α := α) cls builder.config.logLevel)).length =
      read.length := by
    rw [List.length_map, hyields.length_eq]
  have hfree := (hyields.numbered (α := α)).free
  rw [hplace] at hfree
  have hlast : last.toScene = session.toScene.later now :=
    hscene.trans (congrArg (·.later now) hopened)
  rw [show session.memory = last.memory from (congrArg Scene.memory hlast.symm).trans rfl,
    show now = last.world from congrArg Scene.world hlast.symm] at h
  obtain ⟨end', ended, hadd, hhooks'⟩ := on_addSource_of_fails hlaid hplace hfree h
  rw [Nat.zero_add, addSources, Assembly.on_bind, hadd] at hwork
  refine hcomes.stops (.bind (stops_of_sinkless Graph.sinkless_empty (keeps_addSources _ _ _ _)
    hwork ?_))
  rw [hhooks', hhooks, List.map_append, List.append_assoc]
  rfl

theorem stops_of_filterName {texts : List String} {cls : SourceClass W}
    {filterClass : FilterClass W} {world now : W} {sources : List (Fitted W)}
    (hequipped : builder.Equipped session.memory session.world texts cls filterClass world)
    (hyields : Yields builder.config cls session.memory 0 texts world sources now)
    (h : Taken builder.config builder.config.filterName texts.length) (sink : Sink W α) :
    Stops (builder.assemble texts sink) .empty session
      (.componentCreation builder.config.filterName (.duplicateName builder.config.filterName))
      (sourced builder.config cls texts) := by
  obtain ⟨later, last, -, hlaid, hcomes⟩ := comes_of_yields hequipped hyields sink
  have htaken := (hyields.exists_name_iff (α := α) builder.config.filterName).mpr h
  have hsinkless := hlaid.sinkless fun _ => kind_ne_sink_of_source
  refine hcomes.stops_there (.bind (stops_of_sinkless hsinkless (keeps_addFilter _ _)
    (on_install_of_taken hlaid filterClass htaken) ?_))
  exact (List.append_nil _).symm

theorem stops_of_filterFails {texts : List String} {cls : SourceClass W}
    {filterClass : FilterClass W} {world now : W} {sources : List (Fitted W)}
    (hequipped : builder.Equipped session.memory session.world texts cls filterClass world)
    (hyields : Yields builder.config cls session.memory 0 texts world sources now)
    (hfree : ¬ Taken builder.config builder.config.filterName texts.length)
    (h : FilterFails builder.config filterClass session.memory texts.length now e)
    (sink : Sink W α) :
    Stops (builder.assemble texts sink) .empty session e
      (sourced builder.config cls texts ++
        [.instantiate filterClass.name ∅ builder.config.logLevel]) := by
  obtain ⟨later, last, hlast, hlaid, hcomes⟩ := comes_of_yields hequipped hyields sink
  have hfree := mt (hyields.exists_name_iff (α := α) builder.config.filterName).mp hfree
  simp only [not_exists, not_and] at hfree
  have hplace : (sources.map (·.component (α := α) cls builder.config.logLevel)).length =
      texts.length := by
    rw [List.length_map, hyields.length_eq]
  rw [show session.memory = last.memory from (congrArg Scene.memory hlast.symm).trans rfl,
    show now = last.world from congrArg Scene.world hlast.symm] at h
  obtain ⟨ended, hadd, hhooks⟩ := on_install_of_fails hlaid hplace hfree h
  exact hcomes.stops (.bind (stops_of_sinkless (hlaid.sinkless fun _ => kind_ne_sink_of_source)
    (keeps_addFilter _ _) hadd hhooks))

variable {blueprint : Blueprint W} {joined rest : List (Fitted W × PortRef)}
  {next : Fitted W × PortRef} {size : Nat} {now after : W} {reason : String}

theorem stops_of_portMissing
    (hfurnished : builder.Furnished session.memory session.world blueprint now)
    (hall : Fitted.outlets blueprint.sources = joined ++ next :: rest)
    (htakes : Takes session.memory blueprint.filterId blueprint.filter 0 blueprint.inputs now
      joined.length size after)
    (h : size ≤ joined.length) (sink : Sink W α) :
    Stops (builder.assemble blueprint.locators sink) .empty session
      (.portConnection next.1.name builder.config.filterName
        (.portOutOfRange builder.config.filterName .input joined.length size))
      (told builder.config blueprint joined.length) := by
  obtain ⟨wires, later, last, -, -, hstands, hjoined, hcomes⟩ :=
    comes_of_takes hfurnished hall htakes sink
  refine hcomes.stops_there (.bind (stops_of_sinkless
    (hstands.laid.sinkless fun _ => kind_ne_sink_of_part) (keeps_wire _ _ _ _)
    (on_wire_of_missing hstands hjoined h) ?_))
  exact (List.append_nil _).symm

theorem stops_of_rowRefused
    (hfurnished : builder.Furnished session.memory session.world blueprint now)
    (hall : Fitted.outlets blueprint.sources = joined ++ next :: rest)
    (htakes : Takes session.memory blueprint.filterId blueprint.filter 0 blueprint.inputs now
      joined.length size after)
    (hport : joined.length < size)
    (h : session.memory.reserve (.next .connections joined.length) = .error reason)
    (sink : Sink W α) :
    Stops (builder.assemble blueprint.locators sink) .empty session (.allocationFailure reason)
      (told builder.config blueprint joined.length) := by
  obtain ⟨wires, later, last, hcount, hlast, hstands, hjoined, hcomes⟩ :=
    comes_of_takes hfurnished hall htakes sink
  rw [show session.memory = last.memory from (congrArg Scene.memory hlast.symm).trans rfl] at h
  refine hcomes.stops_there (.bind (stops_of_sinkless
    (hstands.laid.sinkless fun _ => kind_ne_sink_of_part) (keeps_wire _ _ _ _)
    (on_wire_of_no_row hstands hcount hjoined hport h) ?_))
  exact (List.append_nil _).symm

theorem stops_of_overgrown
    (hfurnished : builder.Furnished session.memory session.world blueprint now)
    (hall : Fitted.outlets blueprint.sources = joined ++ next :: rest)
    (htakes : Takes session.memory blueprint.filterId blueprint.filter 0 blueprint.inputs now
      joined.length size after)
    (hport : joined.length < size)
    (hrow : session.memory.reserve (.next .connections joined.length) = .ok ())
    (h : session.memory.reserve
      (growth blueprint.filterId blueprint.filter size joined.length after) = .error reason)
    (sink : Sink W α) :
    Stops (builder.assemble blueprint.locators sink) .empty session (.allocationFailure reason)
      (told builder.config blueprint (joined.length + 1)) := by
  obtain ⟨wires, later, last, hcount, hlast, hstands, hjoined, hcomes⟩ :=
    comes_of_takes hfurnished hall htakes sink
  have hmemory : session.memory = last.memory := (congrArg Scene.memory hlast.symm).trans rfl
  rw [hmemory] at hrow
  rw [hmemory, show after = last.world from congrArg Scene.world hlast.symm] at h
  obtain ⟨end', ended, hwork, hhooks⟩ := on_wire_of_full hstands hcount hjoined hport hrow h
  have htold : told builder.config blueprint (joined.length + 1) =
      told builder.config blueprint joined.length ++
        [.inputConnected blueprint.filterId joined.length] := by
    unfold told
    rw [List.range_succ, List.map_append, List.append_assoc]
    rfl
  rw [htold]
  exact hcomes.stops (.bind (stops_of_sinkless
    (hstands.laid.sinkless fun _ => kind_ne_sink_of_part) (keeps_wire _ _ _ _) hwork hhooks))

theorem comes_of_piped (h : builder.Piped session.memory session.world blueprint)
    (sink : Sink W α) :
    ∃ wires later last, wires.length = blueprint.outlets.length ∧ last.memory = session.memory ∧
      later.Laid (parts builder.config blueprint) wires ∧
      (∀ wire ∈ wires, wire.1.component ≠ blueprint.filterId ∧
        wire.2.component = blueprint.filterId ∧ wire.2.direction = .input) ∧
      Comes (builder.assemble blueprint.locators sink) .empty session
        (told builder.config blueprint blueprint.outlets.length)
        (fromSink builder.config (addedSources blueprint.sources) blueprint.filterId sink)
        later last := by
  obtain ⟨now, size, after, hfurnished, htakes⟩ := h
  have hlength : blueprint.outlets.length = (Fitted.outlets blueprint.sources).length :=
    List.length_map _
  rw [hlength] at htakes ⊢
  obtain ⟨wires, later, last, hcount, hlast, hstands, hjoined, hcomes⟩ :=
    comes_of_takes hfurnished (List.append_nil _).symm htakes sink
  refine ⟨wires, later, last, hcount, (congrArg Scene.memory hlast).trans rfl, hstands.laid,
    fun wire hwire => ?_, hcomes⟩
  obtain ⟨hfirst, -, k, -, hsame⟩ := hjoined.taken wire hwire
  rw [hsame]
  exact ⟨hfirst, rfl, rfl⟩

theorem exists_sinkName_iff (h : builder.Piped session.memory session.world blueprint) :
    (∃ c ∈ parts (α := α) builder.config blueprint, c.name = builder.config.sinkName) ↔
      Taken builder.config builder.config.sinkName blueprint.locators.length := by
  have hlegible := Config.validate_eq_ok_iff.mp h.prepared.config
  obtain ⟨_, _, _, hfurnished, -⟩ := h
  obtain ⟨_, hyields, -⟩ := hfurnished.yields
  rw [← hyields.exists_name_iff (α := α)]
  constructor
  · rintro ⟨c, hc, hname⟩
    rcases List.mem_append.mp hc with hsource | hfilter
    · exact ⟨c, hsource, hname⟩
    · rw [List.mem_singleton.mp hfilter] at hname
      exact absurd hname hlegible.filter_sink
  · rintro ⟨c, hc, hname⟩
    exact ⟨c, List.mem_append_left _ hc, hname⟩

theorem stops_of_sinkName (hpiped : builder.Piped session.memory session.world blueprint)
    (h : Taken builder.config builder.config.sinkName blueprint.locators.length)
    (sink : Sink W α) :
    Stops (builder.assemble blueprint.locators sink) .empty session
      (.componentCreation builder.config.sinkName (.duplicateName builder.config.sinkName))
      (told builder.config blueprint blueprint.outlets.length) := by
  obtain ⟨wires, later, last, -, -, hlaid, -, hcomes⟩ := comes_of_piped hpiped sink
  have htaken := (exists_sinkName_iff (α := α) hpiped).mpr h
  have hsinkless := hlaid.sinkless fun _ => kind_ne_sink_of_part
  refine hcomes.stops_there (.bind ⟨_, _, on_installSink_of_taken hlaid sink htaken, ?_⟩)
  rw [Graph.hooks_close hsinkless.reached.coherent, hsinkless.sinks]
  rfl

theorem length_parts (config : Config) (blueprint : Blueprint W) :
    (⟨(parts (α := α) config blueprint).length⟩ : ComponentId) = blueprint.sinkId := by
  simp [parts, Blueprint.sinkId]

theorem free_of_not_taken (hpiped : builder.Piped session.memory session.world blueprint)
    (hfree : ¬ Taken builder.config builder.config.sinkName blueprint.locators.length) :
    ∀ c ∈ parts (α := α) builder.config blueprint, c.name ≠ builder.config.sinkName := by
  have hnone := mt (exists_sinkName_iff (α := α) hpiped).mp hfree
  simpa only [not_exists, not_and] using hnone

theorem stops_of_sinkRefused (hpiped : builder.Piped session.memory session.world blueprint)
    (hfree : ¬ Taken builder.config builder.config.sinkName blueprint.locators.length)
    (h : session.memory.reserveAll (roomForSink blueprint) = .error reason) (sink : Sink W α) :
    Stops (builder.assemble blueprint.locators sink) .empty session (.allocationFailure reason)
      (told builder.config blueprint blueprint.outlets.length) := by
  obtain ⟨wires, later, last, -, hmemory, hlaid, -, hcomes⟩ := comes_of_piped hpiped sink
  have hsinkless := hlaid.sinkless fun _ => kind_ne_sink_of_part
  unfold roomForSink at h
  rw [← hmemory, ← length_parts (α := α) builder.config] at h
  obtain ⟨ended, hadd, hhooks⟩ := on_installSink_of_full hlaid sink
    (free_of_not_taken hpiped hfree) hsinkless.sinks h
  refine hcomes.stops_there (.bind ⟨_, _, hadd, ?_⟩)
  rw [Graph.hooks_close hsinkless.reached.coherent, hsinkless.sinks, hhooks]
  rfl

theorem comes_of_sunk (hpiped : builder.Piped session.memory session.world blueprint)
    (hfree : ¬ Taken builder.config builder.config.sinkName blueprint.locators.length)
    (hroom : session.memory.reserveAll (roomForSink blueprint) = .ok ()) (sink : Sink W α) :
    ∃ wires later last, wires.length = blueprint.outlets.length ∧ last.memory = session.memory ∧
      later.Laid (blueprint.components builder.config sink) wires ∧
      later.sinks = [blueprint.sinkId] ∧
      (∀ wire ∈ wires, wire.1.component ≠ blueprint.filterId ∧
        wire.1.component ≠ blueprint.sinkId ∧
        wire.2.component = blueprint.filterId ∧ wire.2.direction = .input) ∧
      Comes (builder.assemble blueprint.locators sink) .empty session
        (told builder.config blueprint blueprint.outlets.length) (do
          let _ ← joinSink builder.config blueprint.filterId blueprint.sinkId
          Assembly.log (.ready (addedSources blueprint.sources).length
            ((addedSources blueprint.sources).flatMap AddedSource.outputs).length)
          let (graph, _) ← get
          return {
            graph
            sources := (addedSources blueprint.sources).map AddedSource.id
            filter := blueprint.filterId
            sink := blueprint.sinkId })
        later last := by
  obtain ⟨wires, wired, opened, hcount, hmemory, hparts, hwires, hcomes⟩ :=
    comes_of_piped hpiped sink
  have hsinkless := hparts.sinkless fun _ => kind_ne_sink_of_part
  have hid := length_parts (α := α) builder.config blueprint
  unfold roomForSink at hroom
  rw [← hmemory, ← hid] at hroom
  obtain ⟨later, last, hsink, hlaid, hsinks, hscene, hhooks⟩ := on_installSink_of_free hparts sink
    (free_of_not_taken hpiped hfree) hsinkless.sinks hroom
  rw [hid] at hsink hsinks
  refine ⟨wires, later, last, hcount, (congrArg Scene.memory hscene).trans hmemory, hlaid, hsinks,
    fun wire hwire => ?_, ?_⟩
  · obtain ⟨hfilter, hdown, hinput⟩ := hwires wire hwire
    refine ⟨hfilter, ?_, hdown, hinput⟩
    rw [← hid]
    intro hsame
    have hlt := hparts.index_lt_of_wire hwire
    rw [hsame] at hlt
    exact absurd hlt (Nat.lt_irrefl _)
  · rw [← List.append_nil (told builder.config blueprint blueprint.outlets.length)]
    exact hcomes.trans (.bind hsink (hhooks.trans (List.append_nil _).symm))

theorem stops_of_join (hpiped : builder.Piped session.memory session.world blueprint)
    (hfree : ¬ Taken builder.config builder.config.sinkName blueprint.locators.length)
    (hroom : session.memory.reserveAll (roomForSink blueprint) = .ok ())
    (h : blueprint.outputs = 0) (sink : Sink W α) :
    Stops (builder.assemble blueprint.locators sink) .empty session
      (.portConnection builder.config.filterName builder.config.sinkName
        (.portOutOfRange builder.config.filterName .output 0 0))
      (told builder.config blueprint blueprint.outlets.length ++ [.tidyUp blueprint.sinkId]) := by
  obtain ⟨wires, later, last, -, -, hlaid, hsinks, -, hcomes⟩ :=
    comes_of_sunk hpiped hfree hroom sink
  have hwork := on_joinSink_of_missing hlaid
    (blueprint.getElem?_components_filter builder.config sink) rfl
    ((PortTable.size_ofCount ..).trans h) blueprint.sinkId last
  refine hcomes.stops (.bind ⟨_, _, hwork, ?_⟩)
  rw [Graph.hooks_close hlaid.reached.coherent, hsinks]
  rfl

theorem joinable_sink {g : Graph W α} {wires : List (PortRef × PortRef)} {sink : Sink W α}
    (hlaid : g.Laid (blueprint.components builder.config sink) wires)
    (hwires : ∀ wire ∈ wires, wire.1.component ≠ blueprint.filterId ∧
      wire.1.component ≠ blueprint.sinkId ∧
      wire.2.component = blueprint.filterId ∧ wire.2.direction = .input)
    (houtputs : blueprint.outputs ≠ 0) :
    g.Joinable (blueprint.filterId.output 0) (blueprint.sinkId.input 0) := by
  have hsome : 0 < (PortTable.ofCount .output blueprint.outputs).size := by
    rw [PortTable.size_ofCount]
    exact Nat.pos_of_ne_zero houtputs
  have hapart : blueprint.filterId ≠ blueprint.sinkId := by
    simp [Blueprint.filterId, Blueprint.sinkId]
  exact joinable_of_outlet hlaid (blueprint.getElem?_components_filter builder.config sink) hsome
    (blueprint.getElem?_components_sink builder.config sink) hapart hwires

theorem stops_of_joinRefused (hpiped : builder.Piped session.memory session.world blueprint)
    (hfree : ¬ Taken builder.config builder.config.sinkName blueprint.locators.length)
    (hroom : session.memory.reserveAll (roomForSink blueprint) = .ok ())
    (houtputs : blueprint.outputs ≠ 0)
    (h : session.memory.reserve (.next .connections blueprint.outlets.length) = .error reason)
    (sink : Sink W α) :
    Stops (builder.assemble blueprint.locators sink) .empty session (.allocationFailure reason)
      (told builder.config blueprint blueprint.outlets.length ++ [.tidyUp blueprint.sinkId]) := by
  obtain ⟨wires, later, last, hcount, hmemory, hlaid, hsinks, hwires, hcomes⟩ :=
    comes_of_sunk hpiped hfree hroom sink
  rw [← hcount, ← hmemory] at h
  have hwork := on_joinSink_of_no_row hlaid (joinable_sink hlaid hwires houtputs) h
    builder.config
  refine hcomes.stops (.bind ⟨_, _, hwork, ?_⟩)
  rw [Graph.hooks_close hlaid.reached.coherent, hsinks]
  rfl

theorem assemble_of_succeeds (h : builder.Succeeds session.memory session.world blueprint)
    (sink : Sink W α) :
    ∃ context later last,
      (builder.assemble blueprint.locators sink).on .empty session =
        (.ok context, later, last) := by
  obtain ⟨wires, later, last, hcount, hmemory, hlaid, -, hwires, hcomes⟩ :=
    comes_of_sunk h.piped h.free h.room sink
  have hrow := h.row
  rw [← hcount, ← hmemory] at hrow
  obtain ⟨value, end', ended, hwork⟩ := on_joinSink_of_row hlaid
    (blueprint.getElem?_components_sink builder.config sink)
    (joinable_sink hlaid hwires h.outputs) hrow builder.config
  rw [hcomes.1, Assembly.on_bind, hwork]
  exact ⟨_, _, _, rfl⟩

end

end Builder

end TraceFlow
