import TraceFlow.Proofs.Phases

/-!
# How a graph is laid out

What a graph consists of while it is put together: the components that it accepted, one after the
other, and the pairs of ports that were joined. Every request that is not refused adds one item to
one of these lists and leaves the rest of the layout as it was.
-/

namespace TraceFlow

variable {W α : Type}

theorem Session.of_ask {β : Type} {session later : Session W α} {act : Act W β}
    {hook : Except Fault β → Hook W} {answer : Except Fault β}
    (h : session.ask act.beside hook = (answer, later)) :
    act.on session.world = (answer, later.world) ∧
      later.journal.hooks = session.journal.hooks ++ [hook answer] := by
  have hhooks := session.hooks_ask act.beside hook
  rw [h] at hhooks
  refine ⟨?_, hhooks⟩
  unfold ask at h
  rw [Act.on_beside] at h
  rcases hon : act.on session.world with ⟨answered, world⟩
  rw [hon] at h
  cases h
  rfl

theorem Session.ask_of_on {β : Type} {session : Session W α} {act : Act W β}
    {hook : Except Fault β → Hook W} {answer : Except Fault β} {after : W}
    (h : act.on session.world = (answer, after)) :
    session.ask act.beside hook =
      (answer, { session with
        world := after, journal := session.journal.record (.hook (hook answer)) }) := by
  unfold ask
  rw [Act.on_beside, h]

/-! ## Components as they come -/

namespace Component

def ofSource (cls : SourceClass W) (name : String) (level : LogLevel) (source : Source W)
    (ports : Nat) : Component W α :=
  { name, className := some cls.name, level, inputs := .ofCount .input 0
    outputs := .ofCount .output ports, role := .source source }

def ofFilter (cls : FilterClass W) (name : String) (level : LogLevel) (filter : Filter W)
    (inputs outputs : Nat) : Component W α :=
  { name, className := some cls.name, level, inputs := .ofCount .input inputs
    outputs := .ofCount .output outputs, role := .filter filter }

def ofSink (sink : Sink W α) (name : String) : Component W α :=
  { name, className := none, level := default, inputs := .ofCount .input 1
    outputs := .ofCount .output 0, role := .sink sink .idle }

end Component

namespace Graph

/-! ## What a request leaves that went well -/

section

variable {g later : Graph W α} {name : String} {params : Params} {level : LogLevel}
  {id : ComponentId} {session last : Session W α}

theorem fresh_ofSource {cls : SourceClass W} (hname : g.checkName name = .ok ())
    (source : Source W) (ports : Nat) : g.Fresh (.ofSource cls name level source ports) where
  state := (checkName_eq_ok_iff.mp hname).1
  name := (checkName_eq_ok_iff.mp hname).2
  inputs := rfl
  outputs := by simp [Component.ofSource]
  source _ := rfl
  sink hkind := by cases hkind

theorem fresh_ofFilter {cls : FilterClass W} (hname : g.checkName name = .ok ())
    (filter : Filter W) (inputs outputs : Nat) :
    g.Fresh (.ofFilter cls name level filter inputs outputs) where
  state := (checkName_eq_ok_iff.mp hname).1
  name := (checkName_eq_ok_iff.mp hname).2
  inputs := by simp [Component.ofFilter]
  outputs := by simp [Component.ofFilter]
  source hkind := by cases hkind
  sink hkind := by cases hkind

theorem fresh_ofSink (hname : g.checkName name = .ok ()) (sink : Sink W α) :
    g.Fresh (.ofSink sink name) where
  state := (checkName_eq_ok_iff.mp hname).1
  name := (checkName_eq_ok_iff.mp hname).2
  inputs := rfl
  outputs := rfl
  source hkind := by cases hkind
  sink _ := ⟨rfl, rfl⟩

theorem push_ok {c : Component W α} (h : g.push c session = ⟨.ok id, later, last⟩) :
    session.memory.reserve g.roomForComponent = .ok () ∧ id = g.nextId ∧ later = g.place c ∧
      last = session.log
        (.added c.kind c.name g.nextId c.className c.inputs.size c.outputs.size c.level) := by
  unfold push at h
  split at h
  · cases h
  · next hroom =>
    cases h
    exact ⟨hroom, rfl, rfl, rfl⟩

theorem addSource_ok {cls : SourceClass W}
    (h : g.addSource cls name params level session = ⟨.ok id, later, last⟩) :
    ∃ source, (cls.instantiate params level).on session.world = (.ok source, last.world) ∧
      last.journal.hooks = session.journal.hooks ++ [.instantiate cls.name params level] ∧
      id = g.nextId ∧
      g.Fresh (.ofSource cls name level source (source.outputCount last.world)) ∧
      later = g.accept (.ofSource cls name level source (source.outputCount last.world)) := by
  unfold addSource at h
  split at h
  · cases h
  · next hname =>
    split at h
    · cases h
    · next source asked hask =>
      obtain ⟨hon, hhooks⟩ := Session.of_ask hask
      split at h
      · cases h
      · next houtputs =>
        cases (Memory.makePorts_eq_ok_iff.mp houtputs).2
        obtain ⟨-, rfl, rfl, rfl⟩ := push_ok h
        exact ⟨source, hon, (Session.hooks_log _ _).trans hhooks, rfl,
          fresh_ofSource hname source _, rfl⟩

theorem addFilter_ok {cls : FilterClass W}
    (h : g.addFilter cls name params level session = ⟨.ok id, later, last⟩) :
    ∃ filter c, (cls.instantiate params level).on session.world = (.ok filter, last.world) ∧
      last.journal.hooks = session.journal.hooks ++ [.instantiate cls.name params level] ∧
      id = g.nextId ∧
      c = .ofFilter cls name level filter (filter.inputCount last.world)
        (filter.outputCount last.world) ∧
      g.Fresh c ∧ later = g.accept c := by
  unfold addFilter at h
  split at h
  · cases h
  · next hname =>
    split at h
    · cases h
    · next filter asked hask =>
      obtain ⟨hon, hhooks⟩ := Session.of_ask hask
      split at h
      · cases h
      · next hinputs =>
        split at h
        · cases h
        · next houtputs =>
          cases (Memory.makePorts_eq_ok_iff.mp hinputs).2
          cases (Memory.makePorts_eq_ok_iff.mp houtputs).2
          obtain ⟨-, rfl, rfl, rfl⟩ := push_ok h
          exact ⟨filter, _, hon, (Session.hooks_log _ _).trans hhooks, rfl, rfl,
            fresh_ofFilter hname filter _ _, rfl⟩

theorem addSink_ok {sink : Sink W α}
    (h : g.addSink sink name session = ⟨.ok id, later, last⟩) :
    last.journal.hooks = session.journal.hooks ∧ id = g.nextId ∧
      g.Fresh (.ofSink sink name) ∧ later = g.accept (.ofSink sink name) := by
  unfold addSink at h
  split at h
  · cases h
  · next hname =>
    split at h
    · cases h
    · split at h
      · cases h
      · next hinputs =>
        cases (Memory.makePorts_eq_ok_iff.mp hinputs).2
        dsimp only at h
        split at h
        · cases h
        · next hpushed =>
          obtain ⟨-, rfl, rfl, rfl⟩ := push_ok hpushed
          cases h
          exact ⟨Session.hooks_log _ _, rfl, fresh_ofSink hname sink, rfl⟩

end

theorem hooks_announce (g : Graph W α) (port : PortRef) (session : Session W α) :
    (g.announce port session).2.journal.hooks = session.journal.hooks ++
      if g.kind? port.component = some .filter then [.inputConnected port.component port.index]
      else [] := by
  by_cases hkind : g.kind? port.component = some .filter
  · obtain ⟨c, hc, hfilter⟩ := Option.map_eq_some_iff.mp hkind
    rw [if_pos hkind]
    cases hrole : c.role with
    | filter filter =>
      rw [announce_of_filter hc hrole]
      split <;> exact Session.hooks_tell ..
    | source source | sink sink phase => simp [Component.kind, hrole, Role.kind] at hfilter
  · rw [if_neg hkind, announce_of_not_filter hkind, List.append_nil]

theorem Joinable.hooks_connect {g : Graph W α} {upstream downstream : PortRef}
    (h : g.Joinable upstream downstream) {session : Session W α}
    (hrow : session.memory.reserve g.roomForConnection = .ok ()) :
    (g.connect upstream downstream session).session.journal.hooks = session.journal.hooks ++
      if g.kind? downstream.component = some .filter then
        [.inputConnected downstream.component downstream.index]
      else [] := by
  have hhooks := hooks_announce (g.link upstream downstream) downstream session
  rw [kind?_link] at hhooks
  unfold connect
  rw [joinable_iff.mpr h]
  dsimp only
  rw [hrow]
  dsimp only
  split
  · next hannounce =>
    rw [hannounce] at hhooks
    exact hhooks
  · next hannounce =>
    rw [hannounce] at hhooks
    exact (Session.hooks_log _ _).trans hhooks

theorem role_growInputs (g : Graph W α) (id : ComponentId) (count : Nat) (other : ComponentId) :
    ((g.growInputs id count).component? other).map Component.role =
      (g.component? other).map Component.role := by
  refine map_component?_modify (p := Component.role) ?_ g id other
  exact fun _ => rfl

theorem role_link (g : Graph W α) (upstream downstream : PortRef) (id : ComponentId) :
    ((g.link upstream downstream).component? id).map Component.role =
      (g.component? id).map Component.role := by
  cases hc : g.component? id with
  | none =>
    have hname := name?_link g upstream downstream id
    unfold name? at hname
    rw [hc, Option.map_none, Option.map_eq_none_iff] at hname
    rw [hname]
  | some c =>
    obtain ⟨c', hc', halike⟩ := component?_link_alike g upstream downstream hc
    rw [hc', Option.map_some, Option.map_some, halike.role]

theorem connect_ok {g later : Graph W α} {upstream downstream : PortRef} {id : ConnectionId}
    {session last : Session W α}
    (h : g.connect upstream downstream session = ⟨.ok id, later, last⟩) :
    g.Joinable upstream downstream ∧ session.memory.reserve g.roomForConnection = .ok () ∧
      id = ⟨g.connections.length⟩ ∧
      (later = g.link upstream downstream ∨ g.kind? downstream.component = some .filter ∧
        ∃ count, later = (g.link upstream downstream).growInputs downstream.component count) := by
  rcases hcheck : g.checkConnection upstream downstream with e | ⟨⟩
  · rw [connect_of_refused hcheck] at h
    cases h
  · have hjoinable := joinable_iff.mp hcheck
    have hcases := connect_of_joinable hjoinable session
    rw [h] at hcases
    rcases hcases with ⟨_, -, hfailed⟩ | ⟨hrow, ⟨-, ⟨reason, hfailed⟩, -⟩ | ⟨-, hanswer, hgraph⟩⟩
    · cases hfailed
    · cases hfailed
    · exact ⟨hjoinable, hrow, Except.ok.inj hanswer, hgraph⟩

/-! ## Layouts -/

/-- The graph is still put together. It accepted these components, one after the other, and these
pairs of ports were joined, one after the other. -/
structure Laid (g : Graph W α) (components : List (Component W α))
    (wires : List (PortRef × PortRef)) : Prop where
  reached : g.Reached
  state : g.state = .configuring
  steps : g.steps = 0
  count : g.componentCount = components.length
  component : ∀ (i : Nat) (c : Component W α), components[i]? = some c →
    ∃ c', g.component? ⟨i⟩ = some c' ∧ c.Grows c' ∧ c'.role = c.role
  connections : g.connections = wires.mapIdx fun k wire => ⟨⟨k⟩, wire.1, wire.2⟩

theorem laid_empty : (empty : Graph W α).Laid [] [] where
  reached := .refl
  state := rfl
  steps := rfl
  count := rfl
  component i c h := by simp at h
  connections := rfl

namespace Laid

variable {g later : Graph W α} {components : List (Component W α)}
  {wires : List (PortRef × PortRef)}

theorem nextId_eq (h : g.Laid components wires) : g.nextId = ⟨components.length⟩ := by
  have hcount := h.count
  unfold componentCount at hcount
  unfold nextId
  rw [hcount]

theorem accept {c : Component W α} (h : g.Laid components wires) (command : Command W α)
    {session : Session W α} (haccept : (command.on g session).graph = g.accept c) :
    (g.accept c).Laid (components ++ [c]) wires where
  reached := haccept ▸ .step command session h.reached
  state := h.state
  steps := h.steps
  count := by
    have hcount := h.count
    unfold componentCount at hcount ⊢
    simp [Graph.accept, place, hcount]
  component i old hold := by
    rcases Nat.lt_or_ge i components.length with hlt | hge
    · rw [List.getElem?_append_left hlt] at hold
      obtain ⟨c', hc', hgrows, hrole⟩ := h.component i old hold
      refine ⟨c', ?_, hgrows, hrole⟩
      exact (component?_place_of_isSome c (Option.isSome_of_eq_some hc')).trans hc'
    · obtain rfl : i = components.length := by
        have := (List.getElem?_eq_some_iff.mp hold).1
        simp only [List.length_append, List.length_singleton] at this
        omega
      rw [List.getElem?_concat_length] at hold
      cases hold
      refine ⟨c, ?_, .refl c, rfl⟩
      rw [← h.nextId_eq]
      exact component?_place_self g c
  connections := h.connections

theorem connect {upstream downstream : PortRef} {id : ConnectionId} {session last : Session W α}
    (h : g.Laid components wires)
    (hok : g.connect upstream downstream session = ⟨.ok id, later, last⟩) :
    later.Laid components (wires ++ [(upstream, downstream)]) := by
  obtain ⟨hjoinable, -, -, hgraph⟩ := connect_ok hok
  have hlater : ((Command.connect upstream downstream).on g session).graph = later :=
    congrArg Reply.graph hok
  have hextends : g.Extends later := by
    rw [← hlater]
    exact ReachedFrom.extends (.step _ session .refl)
  have hrole (other : ComponentId) : (later.component? other).map Component.role =
      (g.component? other).map Component.role := by
    rcases hgraph with rfl | ⟨-, count, rfl⟩
    · exact role_link g upstream downstream other
    · rw [role_growInputs, role_link]
  have hsame : later.state = g.state ∧ later.steps = g.steps ∧
      later.componentCount = g.componentCount ∧ later.connections =
        g.connections ++ [⟨⟨g.connections.length⟩, upstream, downstream⟩] := by
    rcases hgraph with rfl | ⟨-, count, rfl⟩
    · exact ⟨rfl, rfl, componentCount_link .., rfl⟩
    · exact ⟨rfl, rfl, (componentCount_modify ..).trans (componentCount_link ..), rfl⟩
  obtain ⟨hstate, hsteps, hcount, hconnections⟩ := hsame
  exact
    { reached := hlater ▸ .step _ session h.reached
      state := hstate.trans h.state
      steps := hsteps.trans h.steps
      count := hcount.trans h.count
      component := by
        intro i c hc
        obtain ⟨c₁, hc₁, hgrows, hsame⟩ := h.component i c hc
        obtain ⟨c₂, hc₂, hgrows'⟩ := hextends.component _ c₁ hc₁
        have hlast := hrole ⟨i⟩
        rw [hc₁, hc₂] at hlast
        exact ⟨c₂, hc₂, hgrows.trans hgrows', (Option.some.inj hlast).trans hsame⟩
      connections := by
        rw [hconnections, h.connections, List.mapIdx_concat, List.length_mapIdx] }

theorem roomForConnection_eq (h : g.Laid components wires) :
    g.roomForConnection = .next .connections wires.length := by
  unfold roomForConnection
  rw [h.connections, List.length_mapIdx]

theorem kind? (h : g.Laid components wires) {i : Nat} {c : Component W α}
    (hc : components[i]? = some c) : g.kind? ⟨i⟩ = some c.kind := by
  obtain ⟨c', hc', hgrows, -⟩ := h.component i c hc
  unfold Graph.kind?
  rw [hc', Option.map_some, hgrows.kind]

theorem name? (h : g.Laid components wires) {i : Nat} {c : Component W α}
    (hc : components[i]? = some c) : g.name? ⟨i⟩ = some c.name := by
  obtain ⟨c', hc', hgrows, -⟩ := h.component i c hc
  unfold Graph.name?
  rw [hc', Option.map_some, hgrows.name]

theorem find?_eq_none (h : g.Laid components wires) {name : String} :
    g.find? name = none ↔ ∀ c ∈ components, c.name ≠ name := by
  rw [← not_iff_not, ← ne_eq, Option.ne_none_iff_exists']
  push Not
  constructor
  · rintro ⟨id, hid⟩
    obtain ⟨c', hc', hname⟩ := Option.map_eq_some_iff.mp ((h.reached.coherent.find_iff _ _).mp hid)
    have hlt : id.index < components.length := by
      rw [← h.count]
      exact component?_isSome_iff.mp (Option.isSome_of_eq_some hc')
    obtain ⟨c₁, hc₁, hgrows, -⟩ := h.component id.index _ (List.getElem?_eq_getElem hlt)
    cases hc'.symm.trans hc₁
    exact ⟨_, List.getElem_mem hlt, hgrows.name.symm.trans hname⟩
  · rintro ⟨c, hc, rfl⟩
    obtain ⟨i, hi⟩ := List.mem_iff_getElem?.mp hc
    exact ⟨⟨i⟩, (h.reached.coherent.find_iff _ _).mpr (h.name? hi)⟩

theorem isSome_holds? (h : g.Laid components wires) (port : PortRef) :
    (g.holds? port).isSome ↔ ∃ wire ∈ wires, wire.1 = port ∨ wire.2 = port := by
  have hconnection (k : Nat) : g.connections[k]? =
      wires[k]?.map fun wire => ⟨⟨k⟩, wire.1, wire.2⟩ := by
    rw [h.connections, List.getElem?_mapIdx]
  constructor
  · intro hsome
    obtain ⟨id, hid⟩ := Option.isSome_iff_exists.mp hsome
    obtain ⟨c, hc, htouches⟩ := (h.reached.coherent.holds_iff port id).mp hid
    rw [hconnection] at hc
    obtain ⟨wire, hwire, rfl⟩ := Option.map_eq_some_iff.mp hc
    exact ⟨wire, List.mem_of_getElem? hwire, htouches⟩
  · rintro ⟨wire, hwire, htouches⟩
    obtain ⟨k, hk⟩ := List.mem_iff_getElem?.mp hwire
    have hholds : g.holds? port = some ⟨k⟩ := by
      refine (h.reached.coherent.holds_iff port ⟨k⟩).mpr ⟨⟨⟨k⟩, wire.1, wire.2⟩, ?_, htouches⟩
      rw [hconnection, hk, Option.map_some]
    rw [hholds]
    rfl

end Laid

end Graph

end TraceFlow
