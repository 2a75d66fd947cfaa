import TraceFlow.Graph.Command
import TraceFlow.Proofs.Ports

/-!
# Joining two ports

A request to join two ports is refused before anything has changed, or the connection is recorded.
The one refusal that comes too late is that of a filter that grows too large: its connection is
stranded, recorded in the graph though the request failed.
-/

namespace TraceFlow.Graph

variable {W α : Type}

/-! ## The checks -/

theorem checkPort_eq_ok_iff {g : Graph W α} {port : PortRef} {expected : Direction} :
    g.checkPort port expected = .ok () ↔
      port.direction = expected ∧ (g.port? port).isSome ∧ g.holds? port = none := by
  unfold checkPort holds? port? table?
  cases hc : g.component? port.component with
  | none => simp
  | some c =>
    by_cases hd : port.direction = expected
    · subst hd
      simp only [ne_eq, not_true_eq_false, if_false, Option.map_some, Option.bind_some]
      cases hp : (c.table port.direction).port? port.index with
      | none => simp
      | some found => cases hk : found.connection <;> simp [Port.isConnected, hk]
    · simp [hd]

theorem checkConnection_eq_ok_iff {g : Graph W α} {upstream downstream : PortRef} :
    g.checkConnection upstream downstream = .ok () ↔
      g.state = .configuring ∧ g.checkPort upstream .output = .ok () ∧
        g.checkPort downstream .input = .ok () ∧ upstream.component ≠ downstream.component ∧
        g.leadsTo downstream.component upstream.component = false := by
  unfold checkConnection
  by_cases hs : g.state = .configuring
  · rcases hu : g.checkPort upstream .output with e | ⟨⟩
    · simp [hs, bind, Except.bind]
    · rcases hd : g.checkPort downstream .input with e | ⟨⟩
      · simp [hs, bind, Except.bind]
      · by_cases hc : upstream.component = downstream.component
        · simp [hs, hc, bind, Except.bind, throw, throwThe, MonadExceptOf.throw]
        · cases hl : g.leadsTo downstream.component upstream.component <;>
            simp [hs, hc, bind, Except.bind, pure, Except.pure, throw, throwThe,
              MonadExceptOf.throw]
  · simp [hs, bind, Except.bind, throw, throwThe, MonadExceptOf.throw]

theorem checkPort_of_missing {g : Graph W α} (port : PortRef) {c : Component W α}
    (hc : g.component? port.component = some c)
    (h : (c.table port.direction).size ≤ port.index) :
    g.checkPort port port.direction =
      .error (.portOutOfRange c.name port.direction port.index (c.table port.direction).size) := by
  have hnone : (c.table port.direction).port? port.index = none := by
    rw [← Option.not_isSome_iff_eq_none, PortTable.port?_isSome_iff]
    exact Nat.not_lt_of_le h
  unfold checkPort
  rw [hc]
  simp only [ne_eq, not_true_eq_false, if_false, hnone]

theorem checkConnection_of_upstream {g : Graph W α} {upstream : PortRef} {e : GraphError}
    (hstate : g.state = .configuring) (h : g.checkPort upstream .output = .error e)
    (downstream : PortRef) : g.checkConnection upstream downstream = .error e := by
  unfold checkConnection
  dsimp only
  rw [if_neg fun hne => hne hstate, h]
  rfl

theorem checkConnection_of_downstream {g : Graph W α} {upstream downstream : PortRef}
    {e : GraphError} (hstate : g.state = .configuring)
    (hupstream : g.checkPort upstream .output = .ok ())
    (h : g.checkPort downstream .input = .error e) :
    g.checkConnection upstream downstream = .error e := by
  unfold checkConnection
  dsimp only
  rw [if_neg fun hne => hne hstate, hupstream]
  dsimp only [bind, Except.bind]
  rw [h]

structure Joinable (g : Graph W α) (upstream downstream : PortRef) : Prop where
  state : g.state = .configuring
  output : upstream.direction = .output
  input : downstream.direction = .input
  upstream_port : (g.port? upstream).isSome
  downstream_port : (g.port? downstream).isSome
  upstream_free : g.holds? upstream = none
  downstream_free : g.holds? downstream = none
  apart : upstream.component ≠ downstream.component
  no_way_back : g.leadsTo downstream.component upstream.component = false

theorem joinable_iff {g : Graph W α} {upstream downstream : PortRef} :
    g.checkConnection upstream downstream = .ok () ↔ g.Joinable upstream downstream := by
  rw [checkConnection_eq_ok_iff, checkPort_eq_ok_iff, checkPort_eq_ok_iff]
  constructor
  · rintro ⟨hs, ⟨hu, hup, huf⟩, ⟨hd, hdp, hdf⟩, hne, hl⟩
    exact ⟨hs, hu, hd, hup, hdp, huf, hdf, hne, hl⟩
  · rintro ⟨hs, hu, hd, hup, hdp, huf, hdf, hne, hl⟩
    exact ⟨hs, ⟨hu, hup, huf⟩, ⟨hd, hdp, hdf⟩, hne, hl⟩

theorem Joinable.ne {g : Graph W α} {upstream downstream : PortRef}
    (h : g.Joinable upstream downstream) : upstream ≠ downstream := by
  rintro rfl
  exact h.apart rfl

/-! ## The filter behind the input port -/

/-- What a filter counts as its input ports, once told that one of them is connected. -/
def wanted (filter : Filter W) (port : PortRef) (session : Session W α) : Nat :=
  filter.inputCount (filter.inputConnected port.index session.world)

/-- The session in which the filter behind a port is told of the connection. -/
def told (filter : Filter W) (port : PortRef) (session : Session W α) : Session W α :=
  session.tell (Prod.map (filter.inputConnected port.index) id)
    (.inputConnected port.component port.index)

/-- What the filter behind a port then asks of the memory. -/
def wish (c : Component W α) (filter : Filter W) (port : PortRef) (session : Session W α) :
    Reservation :=
  c.inputs.request port.component (wanted filter port session)

theorem announce_of_filter {g : Graph W α} {port : PortRef} {c : Component W α} {filter : Filter W}
    (hc : g.component? port.component = some c) (hf : c.role = .filter filter)
    (session : Session W α) :
    g.announce port session =
      match session.memory.reserve (wish c filter port session) with
      | .ok () =>
        (.ok (g.growInputs port.component (wanted filter port session)), told filter port session)
      | .error reason => (.error (.allocation reason), told filter port session) := by
  obtain ⟨name, className, level, inputs, outputs, role⟩ := c
  subst hf
  have hgrow (count : Nat) :
      (g.modify port.component fun c => { c with inputs := inputs.grow count }) =
        g.growInputs port.component count := by
    unfold growInputs modify
    congr 1
    apply List.ext_getElem?
    intro i
    rw [List.getElem?_modify, List.getElem?_modify]
    by_cases hi : port.component.index = i
    · subst hi
      unfold component? at hc
      rw [hc]
      simp
    · simp [hi]
  unfold announce wish wanted
  simp only [hc, Memory.growTo, Session.tell, Prod.map]
  cases session.memory.reserve
      (inputs.request port.component
        (filter.inputCount (filter.inputConnected port.index session.world))) with
  | error reason => rfl
  | ok _ =>
    simp only [Except.map, hgrow]
    rfl

theorem announce_of_not_filter {g : Graph W α} {port : PortRef}
    (h : g.kind? port.component ≠ some .filter) (session : Session W α) :
    g.announce port session = (.ok g, session) := by
  unfold announce
  split
  · next hc => exact absurd (by unfold kind?; rw [hc]; rfl) h
  · rfl

/-! ## The request -/

/-- The filter behind the input port, once told, asks for input ports for which there is no room. -/
def Overgrown (g : Graph W α) (port : PortRef) (session : Session W α) : Prop :=
  ∃ c filter reason, g.component? port.component = some c ∧ c.role = .filter filter ∧
    session.memory.reserve (wish c filter port session) = .error reason

theorem connect_of_refused {g : Graph W α} {upstream downstream : PortRef} {e : GraphError}
    (h : g.checkConnection upstream downstream = .error e) (session : Session W α) :
    g.connect upstream downstream session = ⟨.error e, g, session⟩ := by
  unfold connect
  rw [h]

def connectedLine (g : Graph W α) (upstream downstream : PortRef) : LogLine :=
  .connected (g.nameOf upstream.component) upstream.index (g.nameOf downstream.component)
    downstream.index ⟨g.connections.length⟩

theorem connect_of_no_row {g : Graph W α} {upstream downstream : PortRef}
    (h : g.Joinable upstream downstream) {session : Session W α} {reason : String}
    (hrow : session.memory.reserve g.roomForConnection = .error reason) :
    g.connect upstream downstream session = ⟨.error (.allocation reason), g, session⟩ := by
  unfold connect
  rw [joinable_iff.mpr h]
  dsimp only
  rw [hrow]

section

variable {g : Graph W α} {upstream downstream : PortRef} {session : Session W α}

theorem wish_link {c c' : Component W α} (h : c.Alike c') (filter : Filter W) :
    wish c' filter downstream session = wish c filter downstream session :=
  PortTable.request_congr (h.direction .input) (h.size .input) _ _

theorem connect_of_filter (h : g.Joinable upstream downstream)
    (hrow : session.memory.reserve g.roomForConnection = .ok ()) {c : Component W α}
    {filter : Filter W} (hc : g.component? downstream.component = some c)
    (hrole : c.role = .filter filter)
    (hroom : session.memory.reserve (wish c filter downstream session) = .ok ()) :
    g.connect upstream downstream session =
      ⟨.ok ⟨g.connections.length⟩,
        (g.link upstream downstream).growInputs downstream.component
          (wanted filter downstream session),
        (told filter downstream session).log (g.connectedLine upstream downstream)⟩ := by
  obtain ⟨c', hc', halike⟩ := component?_link_alike g upstream downstream hc
  have hannounce := announce_of_filter hc' (halike.role.trans hrole) session
  rw [wish_link halike, hroom] at hannounce
  unfold connect
  rw [joinable_iff.mpr h]
  dsimp only
  rw [hrow]
  simp only [hannounce]
  rfl

theorem connect_of_fits (h : g.Joinable upstream downstream)
    (hrow : session.memory.reserve g.roomForConnection = .ok ()) {c : Component W α}
    {filter : Filter W} (hc : g.component? downstream.component = some c)
    (hrole : c.role = .filter filter)
    (hroom : session.memory.reserve (wish c filter downstream session) = .ok ()) :
    ∃ closed, g.connect upstream downstream session =
        ⟨.ok ⟨g.connections.length⟩, (g.link upstream downstream).growInputs downstream.component
          (wanted filter downstream session), closed⟩ ∧
      closed.toScene =
        session.toScene.later (filter.inputConnected downstream.index session.world) :=
  ⟨_, connect_of_filter h hrow hc hrole hroom, rfl⟩

theorem connect_of_not_filter (h : g.Joinable upstream downstream)
    (hrow : session.memory.reserve g.roomForConnection = .ok ())
    (hkind : g.kind? downstream.component ≠ some .filter) :
    g.connect upstream downstream session =
      ⟨.ok ⟨g.connections.length⟩, g.link upstream downstream,
        session.log (g.connectedLine upstream downstream)⟩ := by
  rw [← kind?_link g upstream downstream] at hkind
  unfold connect
  rw [joinable_iff.mpr h]
  dsimp only
  rw [hrow]
  simp only [announce_of_not_filter hkind]
  rfl

theorem connect_of_unfit (h : g.Joinable upstream downstream)
    (hrow : session.memory.reserve g.roomForConnection = .ok ()) {c : Component W α}
    {filter : Filter W} (hc : g.component? downstream.component = some c)
    (hrole : c.role = .filter filter) {reason : String}
    (hroom : session.memory.reserve (wish c filter downstream session) = .error reason) :
    g.connect upstream downstream session =
      ⟨.error (.allocation reason), g.link upstream downstream,
        told filter downstream session⟩ := by
  obtain ⟨c', hc', halike⟩ := component?_link_alike g upstream downstream hc
  have hannounce := announce_of_filter hc' (halike.role.trans hrole) session
  rw [wish_link halike, hroom] at hannounce
  unfold connect
  rw [joinable_iff.mpr h]
  dsimp only
  rw [hrow]
  simp only [hannounce]

/-- All that a request to join two joinable ports can come to. -/
theorem connect_of_joinable (h : g.Joinable upstream downstream) (session : Session W α) :
    (∃ reason, session.memory.reserve g.roomForConnection = .error reason ∧
      g.connect upstream downstream session = ⟨.error (.allocation reason), g, session⟩) ∨
    session.memory.reserve g.roomForConnection = .ok () ∧
      (g.Overgrown downstream session ∧
        (∃ reason, (g.connect upstream downstream session).answer = .error (.allocation reason)) ∧
        (g.connect upstream downstream session).graph = g.link upstream downstream ∨
      ¬ g.Overgrown downstream session ∧
        (g.connect upstream downstream session).answer = .ok ⟨g.connections.length⟩ ∧
        ((g.connect upstream downstream session).graph = g.link upstream downstream ∨
          g.kind? downstream.component = some .filter ∧
            ∃ count, (g.connect upstream downstream session).graph =
              (g.link upstream downstream).growInputs downstream.component count)) := by
  obtain ⟨c, hc⟩ := Option.isSome_iff_exists.mp (component?_isSome_of_port? h.downstream_port)
  cases hrow : session.memory.reserve g.roomForConnection with
  | error reason => exact .inl ⟨reason, rfl, connect_of_no_row h hrow⟩
  | ok _ =>
    refine .inr ⟨rfl, ?_⟩
    cases hrole : c.role with
    | filter filter =>
      have hkind : g.kind? downstream.component = some .filter := by
        simp [kind?, hc, Component.kind, hrole, Role.kind]
      cases hroom : session.memory.reserve (wish c filter downstream session) with
      | ok _ =>
        rw [connect_of_filter h hrow hc hrole hroom]
        refine .inr ⟨?_, rfl, .inr ⟨hkind, _, rfl⟩⟩
        rintro ⟨c₁, filter₁, reason, hc₁, hrole₁, hfull⟩
        cases hc.symm.trans hc₁
        cases hrole.symm.trans hrole₁
        cases hroom.symm.trans hfull
      | error reason =>
        rw [connect_of_unfit h hrow hc hrole hroom]
        exact .inl ⟨⟨c, filter, reason, hc, hrole, hroom⟩, ⟨_, rfl⟩, rfl⟩
    | source source | sink sink phase =>
      have hkind : g.kind? downstream.component ≠ some .filter := by
        simp [kind?, hc, Component.kind, hrole, Role.kind]
      rw [connect_of_not_filter h hrow hkind]
      refine .inr ⟨?_, rfl, .inl rfl⟩
      rintro ⟨c₁, filter₁, -, hc₁, hrole₁, -⟩
      cases hc.symm.trans hc₁
      rw [hrole] at hrole₁
      cases hrole₁

theorem connect_graph (g : Graph W α) (upstream downstream : PortRef) (session : Session W α) :
    (g.connect upstream downstream session).graph = g ∨
      g.Joinable upstream downstream ∧
        ((g.connect upstream downstream session).graph = g.link upstream downstream ∨
          g.kind? downstream.component = some .filter ∧
            ∃ count, (g.connect upstream downstream session).graph =
              (g.link upstream downstream).growInputs downstream.component count) := by
  rcases hcheck : g.checkConnection upstream downstream with e | ⟨⟩
  · rw [connect_of_refused hcheck]
    exact .inl rfl
  · have h := joinable_iff.mp hcheck
    rcases connect_of_joinable h session with
      ⟨_, -, hreply⟩ | ⟨-, ⟨-, -, hgraph⟩ | ⟨-, -, hgraph⟩⟩
    · exact .inl (congrArg Reply.graph hreply)
    · exact .inr ⟨h, .inl hgraph⟩
    · exact .inr ⟨h, hgraph⟩

theorem connect_keeps {γ : Type} (kept : Graph W α → γ)
    (hlink : ∀ g upstream downstream, kept (g.link upstream downstream) = kept g)
    (hgrow : ∀ g id count, kept (g.growInputs id count) = kept g) (g : Graph W α)
    (upstream downstream : PortRef) (session : Session W α) :
    kept (g.connect upstream downstream session).graph = kept g := by
  rcases connect_graph g upstream downstream session with h | ⟨-, h | ⟨-, count, h⟩⟩
  · rw [h]
  · rw [h, hlink]
  · rw [h, hgrow, hlink]

end

/-! ## Stranded connections -/

/-- The request fails, and its connection stays in the graph. -/
def Strands (g : Graph W α) (upstream downstream : PortRef) (session : Session W α) : Prop :=
  g.Joinable upstream downstream ∧ session.memory.reserve g.roomForConnection = .ok () ∧
    g.Overgrown downstream session

theorem link_ne (g : Graph W α) (upstream downstream : PortRef) :
    g.link upstream downstream ≠ g := by
  intro h
  have := congrArg (fun g : Graph W α => g.connections.length) h
  simp at this

theorem Joinable.connect_link {g : Graph W α} {upstream downstream : PortRef}
    (h : g.Joinable upstream downstream) (session : Session W α) :
    ((g.link upstream downstream).connect upstream downstream session).answer =
      .error (.portAlreadyConnected (g.nameOf upstream.component) .output upstream.index) := by
  obtain ⟨c, hc⟩ := Option.isSome_iff_exists.mp (component?_isSome_of_port? h.upstream_port)
  obtain ⟨c', hc', halike⟩ := component?_link_alike g upstream downstream hc
  have hheld := holds?_link_of_end h.ne (.inl rfl) h.upstream_port
  have hname : g.nameOf upstream.component = c'.name := by
    unfold nameOf
    rw [hc, halike.name]
  -- The first check that fails is that of the output port: the assembly has not ended.
  have hport : (g.link upstream downstream).checkPort upstream .output =
      .error (.portAlreadyConnected c'.name .output upstream.index) := by
    obtain ⟨found, hfound, hconn⟩ := Option.bind_eq_some_iff.mp hheld
    rw [port?_of_component hc', h.output] at hfound
    unfold checkPort
    rw [hc']
    simp [h.output, hfound, Port.isConnected, hconn]
  have hcheck : (g.link upstream downstream).checkConnection upstream downstream =
      .error (.portAlreadyConnected c'.name .output upstream.index) := by
    have hstate : (g.link upstream downstream).state = .configuring := h.state
    unfold checkConnection
    simp [hstate, hport, bind, Except.bind]
  rw [connect_of_refused hcheck, hname]

/--
A request that fails leaves everything as it was, the session too, unless it strands its connection.
A stranded connection is in the graph like any other, and its two ports cannot be joined any more.
-/
theorem connect_atomic_iff (g : Graph W α) (upstream downstream : PortRef) (session : Session W α) :
    ((∃ e, (g.connect upstream downstream session).answer = .error e) ∧
        (g.connect upstream downstream session).graph ≠ g ↔
      g.Strands upstream downstream session) ∧
    (∀ e, (g.connect upstream downstream session).answer = .error e →
      ¬ g.Strands upstream downstream session →
      g.connect upstream downstream session = ⟨.error e, g, session⟩) ∧
    (g.Strands upstream downstream session →
      (∃ reason, (g.connect upstream downstream session).answer = .error (.allocation reason)) ∧
      (g.connect upstream downstream session).graph = g.link upstream downstream ∧
      ∀ later, ((g.link upstream downstream).connect upstream downstream later).answer =
        .error (.portAlreadyConnected (g.nameOf upstream.component) .output upstream.index)) := by
  rcases hcheck : g.checkConnection upstream downstream with e | ⟨⟩
  · have hnot : ¬ g.Joinable upstream downstream := by
      intro h
      rw [joinable_iff.mpr h] at hcheck
      cases hcheck
    rw [connect_of_refused hcheck]
    refine ⟨⟨fun h => absurd rfl h.2, fun h => absurd h.1 hnot⟩, ?_, fun h => absurd h.1 hnot⟩
    intro e' he _
    cases he
    rfl
  · have h := joinable_iff.mp hcheck
    rcases connect_of_joinable h session with ⟨reason, hrow, hreply⟩ |
      ⟨hrow, ⟨hgrown, ⟨reason, hans⟩, hgraph⟩ | ⟨hgrown, hans, -⟩⟩
    · have hnot : ¬ g.Strands upstream downstream session := by
        rintro ⟨-, hroom, -⟩
        cases hrow.symm.trans hroom
      rw [hreply]
      refine ⟨⟨fun h => absurd rfl h.2, fun h => absurd h hnot⟩, ?_, fun h => absurd h hnot⟩
      intro e he _
      cases he
      rfl
    · have hstrands : g.Strands upstream downstream session := ⟨h, hrow, hgrown⟩
      refine ⟨⟨fun _ => hstrands, fun _ => ⟨⟨_, hans⟩, ?_⟩⟩, fun _ _ hno => absurd hstrands hno,
        fun _ => ⟨⟨reason, hans⟩, hgraph, fun later => h.connect_link later⟩⟩
      rw [hgraph]
      exact link_ne g upstream downstream
    · have hanswered : ∀ e, (g.connect upstream downstream session).answer ≠ .error e := by
        intro e he
        rw [hans] at he
        cases he
      refine ⟨⟨fun ⟨⟨e, he⟩, _⟩ => absurd he (hanswered e), fun h => absurd h.2.2 hgrown⟩,
        fun e he => absurd he (hanswered e), fun h => absurd h.2.2 hgrown⟩

def tap : SourceClass Nat where
  name := "tap"
  description := none
  instantiate _ _ := pure { outputCount := fun _ => 1, iterator := fun _ => pure ⟨pure .ended⟩ }

/-- A filter whose input ports the world counts. Once connected it wants more than memory holds. -/
def swell : FilterClass Nat where
  name := "swell"
  description := none
  instantiate _ _ := pure
    { inputCount := id
      outputCount := fun _ => 1
      inputConnected := fun _ _ => Nat.pow 2 62
      iterator := fun _ _ => pure ⟨pure .ended⟩ }

def tapAndSwell : Graph Nat Unit :=
  empty.carryOut ⟨.plain 1, .empty⟩
    [.addSource tap "tap" .empty .info, .addFilter swell "swell" .empty .info]

def tapOut : PortRef := ⟨⟨0⟩, .output, 0⟩

def swellIn : PortRef := ⟨⟨1⟩, .input, 0⟩

theorem tapAndSwell_stranded :
    tapAndSwell.Reached ∧
      (∃ e, (tapAndSwell.connect tapOut swellIn ⟨.plain 1, .empty⟩).answer = .error e) ∧
      (tapAndSwell.connect tapOut swellIn ⟨.plain 1, .empty⟩).graph.connections ≠
        tapAndSwell.connections ∧
      ∀ later, ((tapAndSwell.connect tapOut swellIn ⟨.plain 1, .empty⟩).graph.connect tapOut swellIn
        later).answer = .error (.portAlreadyConnected "tap" .output 0) := by
  have hjoin : tapAndSwell.Joinable tapOut swellIn :=
    { state := rfl
      output := rfl
      input := rfl
      upstream_port := rfl
      downstream_port := rfl
      upstream_free := rfl
      downstream_free := rfl
      apart := by decide
      no_way_back := by decide +kernel }
  have hgrown : tapAndSwell.Overgrown swellIn ⟨.plain 1, .empty⟩ :=
    ⟨_, _, _, rfl, rfl, rfl⟩
  refine ⟨reachedFrom_carryOut .., ?_⟩
  rcases connect_of_joinable hjoin ⟨.plain 1, .empty⟩ with ⟨_, hno, -⟩ |
    ⟨-, ⟨-, ⟨reason, hans⟩, hgraph⟩ | ⟨hno, -⟩⟩
  · cases hno
  · refine ⟨⟨_, hans⟩, ?_, ?_⟩
    · rw [hgraph, connections_link]
      simp
    · intro later
      rw [hgraph, hjoin.connect_link later]
      rfl
  · exact absurd hgrown hno

end TraceFlow.Graph
