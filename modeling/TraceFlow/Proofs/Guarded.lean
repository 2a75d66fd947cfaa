import TraceFlow.Graph.Guarded
import TraceFlow.Proofs.Life

/-!
# Nothing relied on is ever missing

In a graph that is reached, each watched operation comes to what the plain one comes to. So no past
of a graph leads to a breach, whatever its components do.
-/

namespace TraceFlow

namespace Guarded

variable {W α : Type}

@[simp] theorem ok_bind {β γ : Type} (value : β) (next : β → Guarded γ) :
    (Except.ok value >>= next) = next value := rfl

@[simp] theorem pure_eq_ok {β : Type} (value : β) : (pure value : Guarded β) = .ok value := rfl

/-! ## Look-ups -/

theorem component_eq {g : Graph W α} {id : ComponentId} {c : Component W α}
    (h : g.component? id = some c) : component g id = .ok c := by
  unfold component
  rw [h]

theorem name_eq {g : Graph W α} {id : ComponentId} (h : (g.component? id).isSome) :
    name g id = .ok (g.nameOf id) := by
  obtain ⟨c, hc⟩ := Option.isSome_iff_exists.mp h
  unfold name Graph.nameOf
  rw [component_eq hc, hc]
  rfl

theorem origin_eq {g : Graph W α} {id : ConnectionId} {port : PortRef}
    (h : g.origin? id = some port) : origin g id = .ok port := by
  unfold origin
  rw [h]

theorem sink_eq {c : Component W α} {sink : Sink W α} {phase : SinkPhase W}
    (h : c.role = .sink sink phase) (id : ComponentId) :
    Guarded.sink c id = .ok (sink, phase) := by
  unfold Guarded.sink Component.sink?
  rw [h]

/-! ## Connections -/

theorem component_of_checkPort {g : Graph W α} {port : PortRef} {expected : Direction}
    (h : g.checkPort port expected = .ok ()) : (g.component? port.component).isSome :=
  Graph.component?_isSome_of_port? (Graph.checkPort_eq_ok_iff.mp h).2.1

theorem checkConnection_eq (g : Graph W α) (upstream downstream : PortRef) :
    checkConnection g upstream downstream = .ok (g.checkConnection upstream downstream) := by
  unfold checkConnection Graph.checkConnection
  by_cases hstate : g.state = .configuring
  · rcases hup : g.checkPort upstream .output with e | ⟨⟩
    · simp [hstate, bind, Except.bind]
    · rcases hdown : g.checkPort downstream .input with e | ⟨⟩
      · simp [hstate, bind, Except.bind]
      · have hfirst := name_eq (component_of_checkPort hup)
        have hlast := name_eq (component_of_checkPort hdown)
        by_cases hself : upstream.component = downstream.component
        · simp [hstate, hself, hlast, bind, Except.bind, throw, throwThe, MonadExceptOf.throw]
        · cases hback : g.leadsTo downstream.component upstream.component <;>
            simp [hstate, hself, hfirst, hlast, bind, Except.bind, pure, Except.pure, throw,
              throwThe, MonadExceptOf.throw]
  · simp [hstate, bind, Except.bind, throw, throwThe, MonadExceptOf.throw]

theorem attach_eq {g : Graph W α} {port : PortRef} (h : (g.port? port).isSome)
    (id : ConnectionId) : attach g port id = .ok (g.attach port id) := by
  obtain ⟨c, hc⟩ := Option.isSome_iff_exists.mp (Graph.component?_isSome_of_port? h)
  obtain ⟨found, hfound⟩ := Option.isSome_iff_exists.mp h
  rw [Graph.port?_of_component hc] at hfound
  unfold attach
  rw [component_eq hc]
  simp only [ok_bind, hfound, pure_eq_ok]

theorem link_eq {g : Graph W α} {upstream downstream : PortRef}
    (h : g.Joinable upstream downstream) :
    link g upstream downstream = .ok (g.link upstream downstream) := by
  have hfirst (id : ConnectionId) (connections : List Connection) :=
    attach_eq (g := { g with connections }) h.upstream_port id
  have hlast (id : ConnectionId) (connections : List Connection) :=
    attach_eq (g := ({ g with connections } : Graph W α).attach upstream id)
      (by rw [Graph.isSome_port?_attach]; exact h.downstream_port) id
  unfold link Graph.link
  simp only [hfirst, hlast, ok_bind]

theorem announce_eq {g : Graph W α} {port : PortRef} (h : (g.component? port.component).isSome)
    (session : Session W α) : announce g port session = .ok (g.announce port session) := by
  obtain ⟨c, hc⟩ := Option.isSome_iff_exists.mp h
  unfold announce
  rw [component_eq hc]
  rfl

theorem name?_announce {g graph : Graph W α} {port : PortRef} {session later : Session W α}
    (h : g.announce port session = (.ok graph, later)) (id : ComponentId) :
    graph.name? id = g.name? id := by
  unfold Graph.announce at h
  split at h
  · simp only at h
    split at h
    · cases h
    · cases h
      refine Graph.map_component?_modify (p := Component.name) ?_ g port.component id
      exact fun _ => rfl
  · cases h
    rfl

theorem name_congr {g graph : Graph W α} {id : ComponentId} (h : graph.name? id = g.name? id)
    (hid : (g.component? id).isSome) : name graph id = .ok (g.nameOf id) := by
  obtain ⟨c, hc⟩ := Option.isSome_iff_exists.mp hid
  unfold Graph.name? at h
  rw [hc, Option.map_some] at h
  obtain ⟨c', hc', hname⟩ := Option.map_eq_some_iff.mp h
  unfold name Graph.nameOf
  rw [component_eq hc', hc]
  simp only [ok_bind, hname, pure_eq_ok]

theorem connect_eq (g : Graph W α) (upstream downstream : PortRef) (session : Session W α) :
    connect g upstream downstream session = .ok (g.connect upstream downstream session) := by
  rcases hcheck : g.checkConnection upstream downstream with e | ⟨⟩
  · unfold connect
    rw [Graph.connect_of_refused hcheck, checkConnection_eq, hcheck]
    rfl
  · have h := Graph.joinable_iff.mp hcheck
    have hup := Graph.component?_isSome_of_port? h.upstream_port
    have hdown := Graph.component?_isSome_of_port? h.downstream_port
    have hlinked : ((g.link upstream downstream).component? downstream.component).isSome := by
      obtain ⟨c, hc⟩ := Option.isSome_iff_exists.mp hdown
      obtain ⟨c', hc', -⟩ := Graph.component?_link_alike g upstream downstream hc
      exact Option.isSome_of_eq_some hc'
    unfold connect Graph.connect
    rw [checkConnection_eq, hcheck]
    simp only [ok_bind, link_eq h, announce_eq hlinked]
    cases session.memory.reserve g.roomForConnection with
    | error reason => rfl
    | ok _ =>
      dsimp only
      rcases hannounce : (g.link upstream downstream).announce downstream session with
        ⟨e | graph, later⟩
      · rfl
      have hname (id : ComponentId) : graph.name? id = g.name? id :=
        (name?_announce hannounce id).trans (Graph.name?_link g upstream downstream id)
      simp only [name_congr (hname _) hup, name_congr (hname _) hdown, ok_bind, pure_eq_ok]

/-! ## Iterators -/

theorem makeEach_eq {ι β : Type} {watched : ι → Session W α → Guarded (Made W α β)}
    {make : ι → Session W α → Made W α β} {items : List ι}
    (h : ∀ item ∈ items, ∀ session, watched item session = .ok (make item session))
    (session : Session W α) :
    makeEach watched items session = .ok (TraceFlow.makeEach make items session) := by
  induction items generalizing session with
  | nil => rfl
  | cons item rest ih =>
    have hrest := ih fun other hother => h other (List.mem_cons_of_mem _ hother)
    unfold makeEach TraceFlow.makeEach
    rw [h item List.mem_cons_self]
    simp only [ok_bind]
    rcases make item session with ⟨e | made, between⟩
    · rfl
    · simp only [hrest, ok_bind]
      rcases TraceFlow.makeEach make rest between with ⟨e | others, after⟩ <;> rfl

def Recorded (g : Graph W α) (ports : List Port) : Prop :=
  ∀ port ∈ ports, ∀ id, port.connection = some id → (g.origin? id).isSome

theorem Recorded.tail {g : Graph W α} {port : Port} {rest : List Port}
    (h : Recorded g (port :: rest)) : Recorded g rest :=
  fun other hother => h other (List.mem_cons_of_mem _ hother)

theorem recorded_inputs {g : Graph W α} (hg : g.Coherent) {id : ComponentId} {c : Component W α}
    (hc : g.component? id = some c) : Recorded g c.inputs.ports := by
  intro port hport k hk
  obtain ⟨i, hi⟩ := List.mem_iff_getElem?.mp hport
  obtain ⟨connection, hconnection, -⟩ := hg.downstream_of_holds rfl (Graph.holds?_of_input hc hi hk)
  unfold Graph.origin?
  rw [hconnection]
  rfl

theorem feeders_eq {g : Graph W α} {ports : List Port} (h : Recorded g ports) :
    feeders g ports = .ok (ports.filterMap fun port => port.connection.bind g.origin?) := by
  induction ports with
  | nil => rfl
  | cons port rest ih =>
    unfold feeders
    cases hport : port.connection with
    | none => simp [ih h.tail, hport]
    | some id =>
      obtain ⟨first, hfirst⟩ :=
        Option.isSome_iff_exists.mp (h port List.mem_cons_self id hport)
      simp [ih h.tail, hport, origin_eq hfirst, hfirst]

def Offered (g : Graph W α) (port : PortRef) : Prop :=
  port.direction = .output ∧ (g.port? port).isSome

theorem offered_of_feeder {g : Graph W α} (hg : g.Coherent) {id : ComponentId} {port : PortRef}
    (h : port ∈ g.feedersOf id) : Offered g port := by
  obtain ⟨c, hc, rfl, -⟩ := hg.mem_feedersOf.mp h
  exact hg.upstream c hc

theorem Offered.not_sink {g : Graph W α} (hg : g.Coherent) {port : PortRef} (h : Offered g port) :
    g.kind? port.component ≠ some .sink := by
  intro hsink
  obtain ⟨hdirection, hport⟩ := h
  obtain ⟨c, hc⟩ := Option.isSome_iff_exists.mp (Graph.component?_isSome_of_port? hport)
  have hcount := (hg.sink_ports _ hsink).2
  unfold Graph.portCount Graph.table? at hcount
  rw [hc] at hcount
  rw [Graph.port?_of_component hc, hdirection, PortTable.port?_isSome_iff,
    Except.ok.inj hcount] at hport
  exact Nat.not_lt_zero _ hport

theorem iteratorWithin_eq {g : Graph W α} (hg : g.Coherent) {depth : Nat} {port : PortRef}
    (hport : Offered g port) (hnests : g.NestsWithin depth port) (session : Session W α) :
    iteratorWithin g depth port session = .ok (g.iteratorWithin depth port session) := by
  induction depth generalizing port session with
  | zero => exact hnests.elim
  | succ depth ih =>
    obtain ⟨c, hc⟩ := Option.isSome_iff_exists.mp (Graph.component?_isSome_of_port? hport.2)
    unfold iteratorWithin walk Graph.iteratorWithin Graph.walk
    rw [component_eq hc, hc]
    cases hrole : c.role with
    | source source => simp only [ok_bind, hrole, pure_eq_ok]
    | filter filter =>
      have hmake : makeEach (iteratorWithin g depth) (g.feeders c) session =
          .ok (TraceFlow.makeEach (g.iteratorWithin depth) (g.feeders c) session) := by
        apply makeEach_eq
        intro callee hcallee before
        have hmem : callee ∈ g.callees port := by
          rw [Graph.callees_of_role hc, hrole]
          exact hcallee
        exact ih (offered_of_feeder hg (Graph.mem_feedersOf_of_callee hmem)) (hnests callee hmem)
          before
      have hfeeders : feeders g c.inputs.ports = .ok (g.feeders c) :=
        feeders_eq (recorded_inputs hg hc)
      simp only [ok_bind, hrole, hfeeders, hmake]
      rcases TraceFlow.makeEach (g.iteratorWithin depth) (g.feeders c) session with
        ⟨e | upstream, between⟩ <;> rfl
    | sink sink phase =>
      refine absurd ?_ (hport.not_sink hg)
      simp [Graph.kind?, hc, Component.kind, hrole, Role.kind]

theorem iterator_eq {g : Graph W α} (hg : g.Coherent) (hacyclic : g.Acyclic) {port : PortRef}
    (hport : Offered g port) (session : Session W α) :
    iterator g port session = .ok (g.iterator port session) :=
  iteratorWithin_eq hg hport
    (Graph.nestsWithin_componentCount hg hacyclic (Graph.component?_isSome_of_port? hport.2))
    session

/-! ## The first step -/

theorem sinkFeeder_go_eq {g : Graph W α} {ports : List Port} (h : Recorded g ports) (name : String)
    (found : Option PortRef) :
    sinkFeeder g name ports found = .ok
      (match ports.find? (!·.isConnected) with
        | some port => .error (.unconnectedSink name port.index)
        | none => .ok
          ((ports.filterMap fun port => port.connection.bind g.origin?).getLast?.or found)) := by
  induction ports generalizing found with
  | nil => rfl
  | cons port rest ih =>
    unfold sinkFeeder
    cases hport : port.connection with
    | none => simp [hport, Port.isConnected]
    | some id =>
      obtain ⟨first, hfirst⟩ :=
        Option.isSome_iff_exists.mp (h port List.mem_cons_self id hport)
      simp [ih h.tail, hport, origin_eq hfirst, hfirst, Port.isConnected, List.getLast?_cons]

theorem sinkFeeder_eq {g : Graph W α} (hg : g.Coherent) {id : ComponentId} {c : Component W α}
    (hc : g.component? id = some c) :
    sinkFeeder g c.name c.inputs.ports none = .ok (g.sinkFeeder c) := by
  rw [sinkFeeder_go_eq (recorded_inputs hg hc)]
  unfold Graph.sinkFeeder Graph.feeders
  cases c.inputs.ports.find? (!·.isConnected) <;> simp

theorem openSink_eq {g : Graph W α} (hg : g.Coherent) (hacyclic : g.Acyclic) {id : ComponentId}
    (hid : id ∈ g.sinks) (session : Session W α) :
    openSink g id session = .ok (g.openSink id session) := by
  obtain ⟨sink, phase, hsink⟩ := Graph.sink_of_mem_sinks hg hid
  obtain ⟨c, hc, hrole⟩ := Graph.sink?_eq_some_iff.mp hsink
  unfold openSink Graph.openSink
  rw [component_eq hc, hc]
  simp only [ok_bind, sinkFeeder_eq hg hc]
  rcases hfeeder : g.sinkFeeder c with e | feeder
  · rfl
  · obtain ⟨port, rfl⟩ := hg.feeder_of_sink hid hc hfeeder
    have hmem : port ∈ g.feedersOf id := by
      rw [Graph.feedersOf_eq hc]
      exact Graph.mem_feeders_of_sinkFeeder hfeeder
    have hport := offered_of_feeder hg hmem
    simp only [iterator_eq hg hacyclic hport, ok_bind]
    rcases g.iterator port session with ⟨e | upstream, between⟩
    · rfl
    · simp only [sink_eq hrole, ok_bind, pure_eq_ok]

theorem openSinks_eq {g : Graph W α} (hg : g.Coherent) (hacyclic : g.Acyclic)
    {ids : List ComponentId} (hids : ids ⊆ g.sinks) (session : Session W α) :
    openSinks g ids session = .ok (g.openSinks ids session) := by
  induction ids generalizing g session with
  | nil => rfl
  | cons id rest ih =>
    obtain ⟨hid, hrest⟩ := List.cons_subset.mp hids
    have hbare := Graph.bare_openSink g id session
    unfold openSinks Graph.openSinks
    simp only [openSink_eq hg hacyclic hid, ok_bind]
    rcases hreply : g.openSink id session with ⟨e | ⟨⟩, opened, between⟩
    · rfl
    · rw [hreply] at hbare
      refine ih (hg.of_bare_eq hbare) (hacyclic.of_bare_eq hbare) ?_ between
      rw [Graph.sinks_of_bare_eq hbare]
      exact hrest

theorem setUpSink_eq {g : Graph W α} (hg : g.Coherent) {id : ComponentId} (hid : id ∈ g.sinks)
    (session : Session W α) : setUpSink g id session = .ok (g.setUpSink id session) := by
  obtain ⟨sink, phase, hsink⟩ := Graph.sink_of_mem_sinks hg hid
  obtain ⟨c, hc, hrole⟩ := Graph.sink?_eq_some_iff.mp hsink
  have hfound := sink_eq hrole id
  obtain ⟨_, _, _, _, _, _⟩ := c
  cases hrole
  unfold setUpSink Graph.setUpSink
  rw [component_eq hc, hc]
  simp only [ok_bind, hfound]
  rcases session.ask sink.setUp (.setUp id) with ⟨fault | ⟨⟩, between⟩ <;> rfl

theorem configure_eq {g : Graph W α} (hg : g.Coherent) (hacyclic : g.Acyclic)
    (session : Session W α) : configure g session = .ok (g.configure session) := by
  have hbare := Graph.bare_openSinks g g.sinks session
  unfold configure Graph.configure
  by_cases hempty : g.sinks.isEmpty = true
  · simp [hempty]
  · simp only [hempty, openSinks_eq hg hacyclic (List.Subset.refl _), ok_bind]
    rcases hreply : g.openSinks g.sinks session with ⟨e | ⟨⟩, opened, between⟩
    · rfl
    · rw [hreply] at hbare
      have hmake : makeEach (setUpSink opened) opened.sinks between =
          .ok (TraceFlow.makeEach opened.setUpSink opened.sinks between) :=
        makeEach_eq (fun id hid => setUpSink_eq (hg.of_bare_eq hbare) hid) between
      simp only [hmake, ok_bind]
      rcases TraceFlow.makeEach opened.setUpSink opened.sinks between with ⟨e | _, after⟩ <;> rfl

/-! ## Every step -/

theorem allEnded_eq {g : Graph W α} {ids : List ComponentId}
    (h : ∀ id ∈ ids, ∃ sink phase, g.sink? id = some (sink, phase)) :
    allEnded g ids = .ok (ids.all g.hasEnded) := by
  induction ids with
  | nil => rfl
  | cons id rest ih =>
    obtain ⟨sink, phase, hsink⟩ := h id List.mem_cons_self
    obtain ⟨c, hc, hrole⟩ := Graph.sink?_eq_some_iff.mp hsink
    have hrest := ih fun other hother => h other (List.mem_cons_of_mem _ hother)
    have hended : g.hasEnded id = c.hasEnded := by
      unfold Graph.hasEnded
      rw [hc]
    unfold allEnded
    simp only [component_eq hc, sink_eq hrole, ok_bind, hrest, List.all_cons, hended]
    cases c.hasEnded <;> rfl

theorem settle_eq {g : Graph W α} (hg : g.Coherent) (otherwise : Status) (session : Session W α) :
    settle g otherwise session = .ok (g.settle otherwise session) := by
  have hall : allEnded g g.sinks = .ok g.allEnded :=
    allEnded_eq fun _ hid => Graph.sink_of_mem_sinks hg hid
  unfold settle Graph.settle
  simp only [hall, ok_bind]
  cases g.allEnded <;> rfl

theorem consume_eq {g : Graph W α} (hg : g.Coherent) (id : ComponentId) (name : String)
    (sink : Sink W α) (upstream : Iterator W) (session : Session W α) :
    consume g id name sink upstream session = .ok (g.consume id name sink upstream session) := by
  have hended := hg.of_bare_eq (g.bare_modify_setPhase id .ended)
  unfold consume Graph.consume
  rcases session.ask (sink.consume upstream) (.consume id upstream) with
    ⟨fault | status, later⟩
  · rfl
  · cases status with
    | ok => rfl
    | again => rfl
    | ended => exact settle_eq hended _ _

theorem advance_eq {g : Graph W α} (h : 0 < g.sinks.length) : advance g = .ok g.advance := by
  unfold advance
  rw [if_neg (Nat.ne_of_gt h)]
  rfl

theorem sinkAt_eq {g : Graph W α} {cursor : Nat} {id : ComponentId}
    (h : g.sinks[cursor]? = some id) :
    sinkAt g cursor = .ok id := by
  unfold sinkAt
  rw [h]

theorem feedWithin_of_turn {g : Graph W α} {places turns : Nat} {id : ComponentId}
    {c : Component W α} {sink : Sink W α} {upstream : Iterator W}
    (hcursor : g.cursor < g.sinks.length) (hturn : g.NextTurn places id)
    (hc : g.component? id = some c) (hrole : c.role = .sink sink (.reading upstream))
    (hturns : places < turns) (session : Session W α) :
    feedWithin g turns session =
      consume (g.pass (places + 1)) id c.name sink upstream session := by
  have hlength : 0 < g.sinks.length := Nat.zero_lt_of_lt hcursor
  obtain ⟨turns, rfl⟩ : ∃ n, turns = n + 1 := ⟨turns - 1, by omega⟩
  induction places generalizing g turns with
  | zero =>
    have hplace := hturn.place
    rw [Nat.add_zero, Nat.mod_eq_of_lt hcursor] at hplace
    have hc' : g.advance.component? id = some c := hc
    unfold feedWithin
    simp only [sinkAt_eq hplace, advance_eq hlength, component_eq hc', sink_eq hrole, ok_bind]
    rfl
  | succ places ih =>
    obtain ⟨other, passed, hother, hpassed⟩ := hturn.here hcursor
    obtain ⟨c', hc', hrole'⟩ := Graph.sink?_eq_some_iff.mp hpassed
    have hlater : g.advance.component? other = some c' := hc'
    obtain ⟨turns, rfl⟩ : ∃ n, turns = n + 1 := ⟨turns - 1, by omega⟩
    unfold feedWithin
    simp only [sinkAt_eq hother, advance_eq hlength, component_eq hlater, sink_eq hrole', ok_bind]
    rw [ih (Nat.mod_lt _ hlength) hturn.advance hc hlength turns (by omega), Graph.pass_advance]

theorem feed_eq {g : Graph W α} (hg : g.Coherent) (h : g.Underway) (session : Session W α) :
    feed g session = .ok (g.feed session) := by
  obtain ⟨places, id, c, sink, upstream, _, hserves, -, -, hfeed⟩ := h.feed_eq session
  have hpassed : (g.pass (places + 1)).Coherent := .of_bare_eq (g := g) rfl hg
  unfold feed
  rw [hfeed, feedWithin_of_turn h.cursor hserves.turn hserves.component hserves.role
    hserves.turn.within, consume_eq hpassed]

theorem run_eq {g : Graph W α} (hg : g.Coherent) (hacyclic : g.Acyclic) (hphased : g.Phased)
    (session : Session W α) : run g session = .ok (g.run session) := by
  unfold run Graph.run
  cases hstate : g.state with
  | ended => rfl
  | faulted => rfl
  | running =>
    simp only [feed_eq hg (hphased.running hstate), ok_bind, pure_eq_ok]
  | configuring =>
    have hbare := g.bare_configure session
    simp only [configure_eq hg hacyclic, ok_bind]
    rcases hreply : g.configure session with ⟨e | ⟨⟩, ready, opened⟩
    · rfl
    · rw [hreply] at hbare
      obtain ⟨-, hunderway, -⟩ :=
        Graph.underway_of_configure hg (hphased.configuring hstate) hreply
      simp only [feed_eq (hg.of_bare_eq hbare) hunderway, ok_bind, pure_eq_ok]

/-! ## Every command -/

theorem on_eq {g : Graph W α} (hg : g.Reached) (command : Command W α) (session : Session W α) :
    on command g session = .ok (command.on g session) := by
  cases command with
  | addSource | addFilter | addSink => rfl
  | connect upstream downstream =>
    unfold on
    simp only [connect_eq, ok_bind, pure_eq_ok]
    rfl
  | run =>
    unfold on
    simp only [run_eq hg.coherent hg.acyclic hg.phased, ok_bind, pure_eq_ok]
    rfl

end Guarded

namespace Past

variable {W α : Type}

/-- A step of a life that ends at a breach. -/
def guardedStep (past : Past W α) (deed : Deed W α) : Guarded (Past W α) := do
  let reply ← Guarded.on deed.command past.graph ⟨deed.scene, past.journal⟩
  return ⟨reply.graph, reply.session.journal⟩

/-- What the commands of a life make of the empty graph, as far as they meet no breach. -/
def guarded (life : List (Deed W α)) : Guarded (Past W α) := life.foldlM guardedStep {}

theorem guardedStep_eq {past : Past W α} (h : past.graph.Reached) (deed : Deed W α) :
    past.guardedStep deed = .ok (past.step deed) := by
  unfold guardedStep
  rw [Guarded.on_eq h]
  rfl

theorem guarded_eq (life : List (Deed W α)) : guarded life = .ok (of life) := by
  induction life using List.reverseRecOn with
  | nil => rfl
  | append_singleton life deed ih =>
    unfold guarded at ih ⊢
    rw [List.foldlM_append, ih, of_concat]
    simp [guardedStep_eq (reached_of life)]

/--
No life of a graph leads to a breach. While the graph runs the cursor points at a sink, every sink
reads from an iterator or has ended, and some sink has not ended.
-/
theorem no_breach (life : List (Deed W α)) :
    guarded life = .ok (of life) ∧
      ((of life).graph.state = .running →
        (of life).graph.cursor < (of life).graph.sinks.length ∧
        (∀ id ∈ (of life).graph.sinks,
          (of life).graph.Reading id ∨ (of life).graph.hasEnded id = true) ∧
        ∃ id ∈ (of life).graph.sinks, (of life).graph.hasEnded id = false) := by
  refine ⟨guarded_eq life, fun hrunning => ?_⟩
  have h := (reached_of life).phased.running hrunning
  refine ⟨h.cursor, h.engaged, ?_⟩
  obtain ⟨id, hid⟩ := List.exists_mem_of_ne_nil _ h.live
  exact ⟨id, Graph.mem_waiting.mp hid⟩

end Past

/-- A list of sinks that names no component is found out. -/
example : Guarded.run ({ sinks := [⟨0⟩] } : Graph Unit Unit) ⟨.plain (), .empty⟩ =
    .error (.noComponent ⟨0⟩) := rfl

end TraceFlow
