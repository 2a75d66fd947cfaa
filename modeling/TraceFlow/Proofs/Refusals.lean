import TraceFlow.Proofs.Blueprint

/-!
# Why a build fails

A component is refused because its name is taken, because its class does not answer one, or for want
of room. Two ports are refused that cannot be joined, and so are any for which there is no room.
-/

namespace TraceFlow

variable {W α : Type}

namespace Graph

/-! ## What a request says that was refused -/

section

variable {g later : Graph W α} {name : String} {session last : Session W α} {e : GraphError}

theorem connect_error {upstream downstream : PortRef}
    (h : g.connect upstream downstream session = ⟨.error e, later, last⟩) :
    ¬ g.Joinable upstream downstream ∨
      (∃ reason, session.memory.reserve g.roomForConnection = .error reason) ∨
      g.Overgrown downstream session := by
  by_cases hjoinable : g.Joinable upstream downstream
  · rcases connect_of_joinable hjoinable session with
      ⟨reason, hrow, -⟩ | ⟨-, ⟨hgrown, -⟩ | ⟨-, hanswer, -⟩⟩
    · exact .inr (.inl ⟨reason, hrow⟩)
    · exact .inr (.inr hgrown)
    · rw [h] at hanswer
      cases hanswer
  · exact .inl hjoinable

end

/-! ## What a layout allows -/

namespace Laid

variable {g : Graph W α} {components : List (Component W α)} {wires : List (PortRef × PortRef)}

theorem nodup_names (h : g.Laid components wires) : (components.map Component.name).Nodup := by
  rw [List.nodup_iff_getElem?_ne_getElem?]
  intro i j hij hj hsame
  rw [List.length_map] at hj
  rw [List.getElem?_map, List.getElem?_map, List.getElem?_eq_getElem (hij.trans hj),
    List.getElem?_eq_getElem hj] at hsame
  have hi := h.name? (List.getElem?_eq_getElem (hij.trans hj))
  rw [Option.some.inj hsame] at hi
  cases h.reached.coherent.eq_of_name hi (h.name? (List.getElem?_eq_getElem hj))
  exact absurd hij (Nat.lt_irrefl _)

theorem exists_of_find?_ne_none (h : g.Laid components wires) {name : String}
    (hname : g.find? name ≠ none) : ∃ c ∈ components, c.name = name := by
  by_contra hno
  push Not at hno
  exact hname (h.find?_eq_none.mpr hno)

theorem feeds_iff (h : g.Laid components wires) {id other : ComponentId} :
    g.Feeds id other ↔ ∃ wire ∈ wires, wire.1.component = id ∧ wire.2.component = other := by
  unfold Feeds
  rw [h.connections]
  constructor
  · rintro ⟨c, hc, hfeeds⟩
    obtain ⟨k, hk, rfl⟩ := List.mem_mapIdx.mp hc
    exact ⟨_, List.getElem_mem hk, hfeeds⟩
  · rintro ⟨wire, hwire, hfeeds⟩
    obtain ⟨k, hk, rfl⟩ := List.mem_iff_getElem.mp hwire
    exact ⟨_, List.mem_mapIdx.mpr ⟨k, hk, rfl⟩, hfeeds⟩

theorem isSome_port? (h : g.Laid components wires) (port : PortRef) {c : Component W α}
    (hc : components[port.component.index]? = some c)
    (hport : port.index < (c.table port.direction).size) : (g.port? port).isSome := by
  obtain ⟨c', hc', hgrows, -⟩ := h.component _ c hc
  rw [port?_of_component hc', PortTable.port?_isSome_iff]
  refine Nat.lt_of_lt_of_le hport ?_
  cases port.direction with
  | input => exact hgrows.inputs
  | output => exact hgrows.outputs.ge

theorem joinable (h : g.Laid components wires) {upstream downstream : PortRef}
    (houtput : upstream.direction = .output) (hinput : downstream.direction = .input)
    (hupstream : (g.port? upstream).isSome) (hdownstream : (g.port? downstream).isSome)
    (hfree : ∀ wire ∈ wires, wire.1 ≠ upstream ∧ wire.2 ≠ upstream ∧
      wire.1 ≠ downstream ∧ wire.2 ≠ downstream)
    (hlast : ∀ wire ∈ wires, wire.1.component ≠ downstream.component)
    (hapart : upstream.component ≠ downstream.component) : g.Joinable upstream downstream where
  state := h.state
  output := houtput
  input := hinput
  upstream_port := hupstream
  downstream_port := hdownstream
  upstream_free := by
    rw [← Option.not_isSome_iff_eq_none, h.isSome_holds?]
    rintro ⟨wire, hwire, hend | hend⟩
    · exact (hfree wire hwire).1 hend
    · exact (hfree wire hwire).2.1 hend
  downstream_free := by
    rw [← Option.not_isSome_iff_eq_none, h.isSome_holds?]
    rintro ⟨wire, hwire, hend | hend⟩
    · exact (hfree wire hwire).2.2.1 hend
    · exact (hfree wire hwire).2.2.2 hend
  apart := hapart
  no_way_back := by
    rw [Bool.eq_false_iff]
    intro hleads
    rw [leadsTo_iff h.reached.coherent (component?_isSome_of_port? hupstream)] at hleads
    rcases Relation.ReflTransGen.cases_head hleads with hsame | ⟨id, hfeeds, -⟩
    · exact hapart hsame.symm
    · obtain ⟨wire, hwire, hfirst, -⟩ := h.feeds_iff.mp hfeeds
      exact hlast wire hwire hfirst

section

variable {request : Addition W α} {session : Session W α}

theorem demands_eq (h : g.Laid components wires) (request : Addition W α) (role : Role W α)
    (world : W) :
    request.demands g role world =
      (if request.kind = .sink then [g.roomForSink] else []) ++
        Reservation.forComponent ⟨components.length⟩ (role.inputCount world)
          (role.outputCount world) := by
  unfold Addition.demands
  rw [h.nextId_eq]

theorem declined (h : g.Laid components wires) {e : GraphError}
    (hanswer : (request.on g session).answer = .error e) :
    ((∃ c ∈ components, c.name = request.name) ∧ e = .duplicateName request.name) ∨
    (∃ className fault after, request.className = some className ∧
      request.made.on session.world = (.error fault, after) ∧
      e = .instantiation className fault) ∨
    ∃ role after reason, request.made.on session.world = (.ok role, after) ∧
      session.memory.reserveAll ((if request.kind = .sink then [g.roomForSink] else []) ++
        Reservation.forComponent ⟨components.length⟩ (role.inputCount after)
          (role.outputCount after)) = .error reason ∧
      e = .allocation reason := by
  cases Addition.answer_eq_error_iff.mp hanswer with
  | started hstarted => exact absurd h.state hstarted
  | taken _ htaken => exact .inl ⟨h.exists_of_find?_ne_none htaken, rfl⟩
  | instantiation _ hclass hmade => exact .inr (.inl ⟨_, _, _, hclass, hmade, rfl⟩)
  | allocation _ hmade hdemands hgranted hrefused =>
    refine .inr (.inr ⟨_, _, _, hmade, ?_, rfl⟩)
    rw [← h.demands_eq]
    exact Memory.reserveAll_eq_error_iff.mpr ⟨_, _, _, hdemands, hgranted, hrefused⟩

theorem accommodated (h : g.Laid components wires) {id : ComponentId}
    (hanswer : (request.on g session).answer = .ok id) :
    ∃ role after, request.made.on session.world = (.ok role, after) ∧
      session.memory.reserveAll ((if request.kind = .sink then [g.roomForSink] else []) ++
        Reservation.forComponent ⟨components.length⟩ (role.inputCount after)
          (role.outputCount after)) = .ok () := by
  obtain ⟨role, after, hmade, hroom⟩ := Addition.accommodated_of_answer hanswer
  rw [h.demands_eq] at hroom
  exact ⟨role, after, hmade, Memory.reserveAll_eq_ok_iff.mpr hroom⟩

theorem open_of_free (h : g.Laid components wires)
    (hfree : ∀ c ∈ components, c.name ≠ request.name) : request.Open g :=
  ⟨h.state, h.find?_eq_none.mpr hfree⟩

theorem on_of_taken (h : g.Laid components wires) (request : Addition W α)
    (htaken : ∃ c ∈ components, c.name = request.name) :
    request.on g session = ⟨.error (.duplicateName request.name), g, session⟩ := by
  refine Addition.on_of_taken h.state fun hnone => ?_
  obtain ⟨c, hc, hname⟩ := htaken
  exact h.find?_eq_none.mp hnone c hc hname

theorem on_of_fault (h : g.Laid components wires) (request : Addition W α)
    (hfree : ∀ c ∈ components, c.name ≠ request.name) {className : String} {fault : Fault}
    {after : W} (hclass : request.className = some className)
    (hmade : request.made.on session.world = (.error fault, after)) :
    ∃ last, request.on g session = ⟨.error (.instantiation className fault), g, last⟩ ∧
      last.journal.hooks = session.journal.hooks ++ request.calls :=
  ⟨_, Addition.on_of_fault (h.open_of_free hfree) hclass hmade, Addition.hooks_opened ..⟩

theorem on_of_refused (h : g.Laid components wires) (request : Addition W α)
    (hfree : ∀ c ∈ components, c.name ≠ request.name) {role : Role W α} {after : W}
    {reason : String} (hmade : request.made.on session.world = (.ok role, after))
    (hroom : session.memory.reserveAll ((if request.kind = .sink then [g.roomForSink] else []) ++
      Reservation.forComponent ⟨components.length⟩ (role.inputCount after)
        (role.outputCount after)) = .error reason) :
    ∃ last, request.on g session = ⟨.error (.allocation reason), g, last⟩ ∧
      last.journal.hooks = session.journal.hooks ++ request.calls := by
  rw [← h.demands_eq] at hroom
  exact ⟨_, Addition.on_of_refused (h.open_of_free hfree) hmade hroom, Addition.hooks_opened ..⟩

theorem on_of_room (h : g.Laid components wires) (request : Addition W α)
    (hfree : ∀ c ∈ components, c.name ≠ request.name) {role : Role W α} {after : W}
    (hmade : request.made.on session.world = (.ok role, after))
    (hroom : session.memory.reserveAll ((if request.kind = .sink then [g.roomForSink] else []) ++
      Reservation.forComponent ⟨components.length⟩ (role.inputCount after)
        (role.outputCount after)) = .ok ()) :
    ∃ last, request.on g session =
        ⟨.ok ⟨components.length⟩, g.accept (request.component role after), last⟩ ∧
      last.toScene = session.toScene.later after ∧
      last.journal.hooks = session.journal.hooks ++ request.calls := by
  rw [← h.demands_eq] at hroom
  obtain ⟨line, hon⟩ := Addition.on_of_room (h.open_of_free hfree) hmade hroom
  rw [h.nextId_eq] at hon
  exact ⟨_, hon, rfl, (Session.hooks_log ..).trans (Addition.hooks_opened ..)⟩

end

end Laid

end Graph

/-- The error tells, under whatever contexts, that a name was taken. -/
def TraceError.OfTakenName (e : TraceError) : Prop :=
  ∃ taken, e.root.graphError? = some (.duplicateName taken)

namespace Builder

/-! ## Where a build can fail -/

/-- Why the source for locator `index` cannot be added, if its name is free. -/
inductive SourceFails (config : Config) (cls : SourceClass W) (memory : Memory) (index : Nat)
    (locator : String) (before : W) : TraceError → Prop where
  | instantiation {fault : Fault} {after : W}
    (h : (cls.instantiate (sourceParams config locator) config.logLevel).on before =
      (.error fault, after)) :
    SourceFails config cls memory index locator before
      (.componentCreation (config.sourceInstanceName index) (.instantiation cls.name fault))
  | allocation {source : Source W} {after : W} {reason : String}
    (hmade : (cls.instantiate (sourceParams config locator) config.logLevel).on before =
      (.ok source, after))
    (h : memory.reserveAll (Reservation.forComponent ⟨index⟩ 0 (source.outputCount after)) =
      .error reason) :
    SourceFails config cls memory index locator before (.allocationFailure reason)
  | noOutputPorts {source : Source W} {after : W}
    (hmade : (cls.instantiate (sourceParams config locator) config.logLevel).on before =
      (.ok source, after))
    (hroom : memory.reserveAll (Reservation.forComponent ⟨index⟩ 0 (source.outputCount after)) =
      .ok ())
    (h : source.outputCount after = 0) :
    SourceFails config cls memory index locator before
      (.noOutputPorts (config.sourceInstanceName index))

theorem SourceFails.not_ofTakenName {config : Config} {cls : SourceClass W} {memory : Memory}
    {index : Nat} {locator : String} {before : W} {e : TraceError}
    (h : SourceFails config cls memory index locator before e) : ¬ e.OfTakenName := by
  rintro ⟨taken, htaken⟩
  cases h <;> cases htaken

/-- Why the filter cannot be added as component `place`, if its name is free. -/
inductive FilterFails (config : Config) (cls : FilterClass W) (memory : Memory) (place : Nat)
    (before : W) : TraceError → Prop where
  | instantiation {fault : Fault} {after : W}
    (h : (cls.instantiate ∅ config.logLevel).on before = (.error fault, after)) :
    FilterFails config cls memory place before
      (.componentCreation config.filterName (.instantiation cls.name fault))
  | allocation {filter : Filter W} {after : W} {reason : String}
    (hmade : (cls.instantiate ∅ config.logLevel).on before = (.ok filter, after))
    (h : memory.reserveAll (Reservation.forComponent ⟨place⟩ (filter.inputCount after)
      (filter.outputCount after)) = .error reason) :
    FilterFails config cls memory place before (.allocationFailure reason)

section

variable {g later : Graph W α} {components : List (Component W α)}
  {wires : List (PortRef × PortRef)} {session last : Session W α} {config : Config} {e : TraceError}

theorem addSource_error {cls : SourceClass W} {index : Nat} {locator : String}
    (hg : g.Laid components wires) (hindex : components.length = index)
    (h : (addSource config cls index locator).on g session = (.error e, later, last)) :
    ((∃ c ∈ components, c.name = config.sourceInstanceName index) ∧
      e = .componentCreation (config.sourceInstanceName index)
        (.duplicateName (config.sourceInstanceName index))) ∨
      SourceFails config cls session.memory index locator session.world e := by
  subst hindex
  let request : Addition W α := .source cls (config.sourceInstanceName components.length)
    (sourceParams config locator) config.logLevel
  unfold addSource at h
  rcases Assembly.error_bind h with hwork | ⟨id, placed, asked, hwork, h⟩
  · obtain ⟨cause, hadd, rfl⟩ := Assembly.error_perform hwork
    have hanswer : (request.on g session).answer = .error cause := congrArg Reply.answer hadd
    rcases hg.declined hanswer with ⟨hname, rfl⟩ | ⟨className, fault, after, hclass, hmade, rfl⟩ |
      ⟨role, after, reason, hmade, hroom, rfl⟩
    · exact .inl ⟨hname, rfl⟩
    · cases hclass
      exact .inr (.instantiation (Act.error_map hmade))
    · obtain ⟨source, hon, rfl⟩ := Act.ok_map hmade
      exact .inr (.allocation hon hroom)
  · have hadd := Assembly.ok_perform hwork
    have hanswer : (request.on g session).answer = .ok id := congrArg Reply.answer hadd
    obtain ⟨_, _, hmade, hroom⟩ := hg.accommodated hanswer
    obtain ⟨source, hon, rfl⟩ := Act.ok_map hmade
    obtain ⟨_, hon', -, rfl, -, rfl⟩ := Graph.addSource_ok hadd
    cases hon.symm.trans hon'
    have hcount := Graph.portCount_place_self g (.ofSource cls
      (config.sourceInstanceName components.length) config.logLevel source
      (source.outputCount asked.world)) .output
    rcases Assembly.error_bind h with hwork | ⟨ports, _, _, hwork, h⟩
    · obtain ⟨cause, hquery, rfl⟩ := Assembly.error_perform hwork
      cases hcount.symm.trans (Reply.mk.inj hquery).1
    · obtain ⟨hports, rfl, rfl⟩ := Reply.mk.inj (Assembly.ok_perform hwork)
      obtain rfl := Except.ok.inj (hcount.symm.trans hports)
      split at h
      · next hnone =>
        rcases Assembly.error_bind h with hthrow | ⟨_, _, _, hthrow, -⟩
        · cases hthrow
          exact .inr (.noOutputPorts hon hroom ((PortTable.size_ofCount ..).symm.trans hnone))
        · cases hthrow
      · rcases Assembly.error_bind h with hlog | ⟨_, _, _, hlog, h⟩
        · cases hlog
        · cases hlog
          cases h

theorem addFilter_error {cls : FilterClass W} (hg : g.Laid components wires)
    (h : (Assembly.perform (.ofCreation config.filterName)
      (·.addFilter cls config.filterName ∅ config.logLevel)).on g session =
        (.error e, later, last)) :
    ((∃ c ∈ components, c.name = config.filterName) ∧
      e = .componentCreation config.filterName (.duplicateName config.filterName)) ∨
      FilterFails config cls session.memory components.length session.world e := by
  obtain ⟨cause, hadd, rfl⟩ := Assembly.error_perform h
  have hanswer : ((Addition.filter cls config.filterName ∅ config.logLevel).on g session).answer =
      .error cause := congrArg Reply.answer hadd
  rcases hg.declined hanswer with ⟨hname, rfl⟩ | ⟨className, fault, after, hclass, hmade, rfl⟩ |
    ⟨role, after, reason, hmade, hroom, rfl⟩
  · exact .inl ⟨hname, rfl⟩
  · cases hclass
    exact .inr (.instantiation (Act.error_map hmade))
  · obtain ⟨filter, hon, rfl⟩ := Act.ok_map hmade
    exact .inr (.allocation hon hroom)

theorem addSink_error {sink : Sink W α} (hg : g.Laid components wires)
    (h : (Assembly.perform (.ofCreation config.sinkName) (·.addSink sink config.sinkName)).on g
      session = (.error e, later, last)) :
    ((∃ c ∈ components, c.name = config.sinkName) ∧
      e = .componentCreation config.sinkName (.duplicateName config.sinkName)) ∨
      ∃ reason, session.memory.reserveAll (.next .sinks g.sinks.length ::
        Reservation.forComponent ⟨components.length⟩ 1 0) = .error reason ∧
        e = .allocationFailure reason := by
  obtain ⟨cause, hadd, rfl⟩ := Assembly.error_perform h
  have hanswer : ((Addition.sink sink config.sinkName).on g session).answer = .error cause :=
    congrArg Reply.answer hadd
  rcases hg.declined hanswer with ⟨hname, rfl⟩ | ⟨className, fault, after, hclass, hmade, rfl⟩ |
    ⟨role, after, reason, hmade, hroom, rfl⟩
  · exact .inl ⟨hname, rfl⟩
  · cases hclass
  · cases hmade
    exact .inr ⟨reason, hroom, rfl⟩

theorem addSources_error {cls : SourceClass W} {index : Nat} {locators : List String}
    (h : (addSources config cls index locators).on g session = (.error e, later, last)) :
    ∃ read locator rest added between opened, locators = read ++ locator :: rest ∧
      (addSources config cls index read).on g session = (.ok added, between, opened) ∧
      (addSource config cls (index + read.length) locator).on between opened =
        (.error e, later, last) := by
  induction locators generalizing index g session with
  | nil => cases h
  | cons locator rest ih =>
    rw [addSources] at h
    rcases Assembly.error_bind h with hfirst | ⟨source, placed, asked, hfirst, h⟩
    · exact ⟨[], locator, rest, [], g, session, rfl, rfl, hfirst⟩
    · rcases Assembly.error_bind h with hrest | ⟨_, _, _, _, h⟩
      · obtain ⟨read, failing, others, added, between, opened, rfl, hread, hfails⟩ := ih hrest
        refine ⟨locator :: read, failing, others, source :: added, between, opened, rfl, ?_, ?_⟩
        · rw [addSources, Assembly.on_bind_of_ok hfirst, Assembly.on_bind_of_ok hread]
          rfl
        · rwa [List.length_cons, ← Nat.add_assoc, Nat.add_right_comm]
      · cases h

theorem wire_error {filter : ComponentId} {input : Nat} {outputs : List (String × PortRef)}
    (h : (wire config filter input outputs).on g session = (.error e, later, last)) :
    ∃ joined name output rest between opened, outputs = joined ++ (name, output) :: rest ∧
      (wire config filter input joined).on g session = (.ok (), between, opened) ∧
      ∃ cause, (between.connect output (filter.input (input + joined.length)) opened).answer =
        .error cause ∧ e = .ofConnection name config.filterName cause := by
  induction outputs generalizing input g session with
  | nil => cases h
  | cons first rest ih =>
    obtain ⟨name, output⟩ := first
    rw [wire] at h
    rcases Assembly.error_bind h with hfirst | ⟨id, joined, told, hfirst, h⟩
    · obtain ⟨cause, hjoin, rfl⟩ := Assembly.error_perform hfirst
      exact ⟨[], name, output, rest, g, session, rfl, rfl, cause, congrArg Reply.answer hjoin, rfl⟩
    · obtain ⟨joined, other, failing, others, between, opened, rfl, hjoined, cause, hcause, rfl⟩ :=
        ih h
      refine ⟨(name, output) :: joined, other, failing, others, between, opened, rfl, ?_, cause, ?_,
        rfl⟩
      · rw [wire, Assembly.on_bind_of_ok hfirst]
        exact hjoined
      · rwa [List.length_cons, ← Nat.add_assoc, Nat.add_right_comm]

/-! ## Where the filter has room -/

/-- Output ports that are still free, and the input ports of a filter that are, from `input` on. -/
structure Unjoined (components : List (Component W α)) (wires : List (PortRef × PortRef))
    (filter : ComponentId) (input : Nat) (outputs : List PortRef) : Prop where
  ports : ∀ port ∈ outputs, port.direction = .output ∧ port.component ≠ filter ∧
    ∃ source, components[port.component.index]? = some source ∧ port.index < source.outputs.size
  nodup : outputs.Nodup
  taken : ∀ wire ∈ wires, wire.1.component ≠ filter ∧ wire.1 ∉ outputs ∧
    ∃ k < input, wire.2 = filter.input k

namespace Unjoined

variable {filter : ComponentId} {input : Nat} {output : PortRef} {rest : List PortRef}

theorem isSome_port? (h : Unjoined components wires filter input (output :: rest))
    (hg : g.Laid components wires) : (g.port? output).isSome := by
  obtain ⟨hdirection, -, source, hsource, hport⟩ := h.ports output List.mem_cons_self
  refine hg.isSome_port? output hsource ?_
  rw [hdirection]
  exact hport

theorem checkPort (h : Unjoined components wires filter input (output :: rest))
    (hg : g.Laid components wires) : g.checkPort output .output = .ok () := by
  obtain ⟨hdirection, -⟩ := h.ports output List.mem_cons_self
  refine Graph.checkPort_eq_ok_iff.mpr ⟨hdirection, h.isSome_port? hg, ?_⟩
  rw [← Option.not_isSome_iff_eq_none, hg.isSome_holds?]
  rintro ⟨wire, hwire, hend⟩
  obtain ⟨-, hnew, k, -, hsame⟩ := h.taken wire hwire
  rcases hend with rfl | rfl
  · exact hnew List.mem_cons_self
  · rw [hsame] at hdirection
    cases hdirection

theorem joinable (h : Unjoined components wires filter input (output :: rest))
    (hg : g.Laid components wires) (hinput : (g.port? (filter.input input)).isSome) :
    g.Joinable output (filter.input input) := by
  obtain ⟨hdirection, hapart, -⟩ := h.ports output List.mem_cons_self
  refine hg.joinable hdirection rfl (h.isSome_port? hg) hinput ?_
    (fun wire hwire => (h.taken wire hwire).1) hapart
  intro wire hwire
  obtain ⟨hcomponent, hnew, k, hk, hsame⟩ := h.taken wire hwire
  refine ⟨?_, ?_, ?_, ?_⟩
  · rintro rfl
    exact hnew List.mem_cons_self
  · rintro rfl
    rw [hsame] at hdirection
    cases hdirection
  · exact fun hend => hcomponent (congrArg PortRef.component hend)
  · intro hend
    rw [hsame] at hend
    exact absurd (congrArg PortRef.index hend) (Nat.ne_of_lt hk)

theorem step (h : Unjoined components wires filter input (output :: rest)) :
    Unjoined components (wires ++ [(output, filter.input input)]) filter (input + 1) rest where
  ports port hport := h.ports port (List.mem_cons_of_mem _ hport)
  nodup := (List.nodup_cons.mp h.nodup).2
  taken wire hwire := by
    rcases List.mem_append.mp hwire with hold | hnew
    · obtain ⟨hcomponent, hfree, k, hk, hsame⟩ := h.taken wire hold
      exact ⟨hcomponent, fun hmem => hfree (List.mem_cons_of_mem _ hmem), k, by omega, hsame⟩
    · cases List.mem_singleton.mp hnew
      exact ⟨(h.ports output List.mem_cons_self).2.1, (List.nodup_cons.mp h.nodup).1, input,
        Nat.lt_succ_self input, rfl⟩

end Unjoined

/-- Free output ports, and a filter that has room for them from `input` on and wants no more. -/
structure Room (components : List (Component W α)) (wires : List (PortRef × PortRef))
    (filter : ComponentId) (input : Nat) (outputs : List PortRef) : Prop
    extends Unjoined components wires filter input outputs where
  host : ∃ c made, components[filter.index]? = some c ∧ c.role = .filter made ∧
    input + outputs.length ≤ c.inputs.size ∧ ∀ world, made.inputCount world ≤ c.inputs.size

namespace Room

variable {filter : ComponentId} {input : Nat} {output : PortRef} {rest : List PortRef}

theorem joinable (h : Room components wires filter input (output :: rest))
    (hg : g.Laid components wires) : g.Joinable output (filter.input input) := by
  obtain ⟨c, made, hc, -, hroom, -⟩ := h.host
  rw [List.length_cons] at hroom
  have hinput : input < c.inputs.size := by omega
  exact h.toUnjoined.joinable hg (hg.isSome_port? (filter.input input) hc hinput)

theorem not_overgrown (h : Room components wires filter input rest)
    (hg : g.Laid components wires) : ¬ g.Overgrown (filter.input input) session := by
  obtain ⟨c, made, hc, hrole, -, hcount⟩ := h.host
  rintro ⟨c₁, made₁, reason, hc₁, hrole₁, hrefused⟩
  obtain ⟨c', hc', hgrows, hrole'⟩ := hg.component _ c hc
  cases hc'.symm.trans hc₁
  cases (hrole'.trans hrole).symm.trans hrole₁
  rw [Memory.reserve_of_le _ ((hcount _).trans hgrows.inputs)] at hrefused
  cases hrefused

theorem step (h : Room components wires filter input (output :: rest)) :
    Room components (wires ++ [(output, filter.input input)]) filter (input + 1) rest where
  toUnjoined := h.toUnjoined.step
  host := by
    obtain ⟨c, made, hc, hrole, hroom, hcount⟩ := h.host
    rw [List.length_cons] at hroom
    exact ⟨c, made, hc, hrole, by omega, hcount⟩

end Room

theorem wire_of_room {filter : ComponentId} {input : Nat} {outputs : List (String × PortRef)}
    (hg : g.Laid components wires)
    (hroom : Room components wires filter input (outputs.map Prod.snd))
    (hrows : ∀ held, session.memory.reserve (.next .connections held) = .ok ()) :
    ∃ later last, (wire config filter input outputs).on g session = (.ok (), later, last) := by
  induction outputs generalizing g input wires session with
  | nil => exact ⟨_, _, rfl⟩
  | cons output rest ih =>
    obtain ⟨name, output⟩ := output
    unfold wire
    rw [Assembly.on_bind]
    rcases hwork : (Assembly.perform (.ofConnection name config.filterName)
      (·.connect output (filter.input input))).on g session with ⟨e | id, joined, told⟩
    · obtain ⟨cause, hjoin, -⟩ := Assembly.error_perform hwork
      rcases Graph.connect_error hjoin with hnot | ⟨reason, hrow⟩ | hgrown
      · exact absurd (hroom.joinable hg) hnot
      · cases (hrows _).symm.trans hrow
      · exact absurd hgrown (hroom.not_overgrown hg)
    · have hjoin := Assembly.ok_perform hwork
      refine ih (hg.connect hjoin) hroom.step ?_
      have hkept := Graph.unmoved_memory_shared.connect g output (filter.input input) session
      rw [hjoin] at hkept
      rw [show told.memory = session.memory from congrArg Prod.fst hkept]
      exact hrows

end

end Builder

end TraceFlow
