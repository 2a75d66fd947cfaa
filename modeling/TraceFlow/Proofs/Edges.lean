import TraceFlow.Proofs.Layout
import TraceFlow.Proofs.Reordering

/-!
# Which connections are legal

Two ports may be joined if both are free and no path of connections leads back. A request to join
them is granted exactly then; otherwise it is refused for the first reason that there is. A request
that is granted makes its connection, tells the filter behind it and leaves all else as it was.
-/

namespace TraceFlow

variable {W α : Type}

def Component.card (c : Component W α) : String × Option String × LogLevel × Role W α :=
  (c.name, c.className, c.level, c.role)

namespace Graph

/-! ## What makes a connection legal -/

/-- A connection that may be made. -/
structure Legal (g : Graph W α) (upstream downstream : PortRef) : Prop where
  state : g.state = .configuring
  output : g.Free upstream .output
  input : g.Free downstream .input
  apart : upstream.component ≠ downstream.component
  no_path : ¬ Relation.TransGen g.Feeds downstream.component upstream.component

/-- What is wrong with a port that is to be joined: the first thing that is. -/
inductive PortRefused (g : Graph W α) (port : PortRef) (expected : Direction) :
    GraphError → Prop where
  | unknown (h : g.component? port.component = none) :
      PortRefused g port expected (.unknownComponent port.component)
  | direction {c : Component W α} (hc : g.component? port.component = some c)
      (h : port.direction ≠ expected) :
      PortRefused g port expected (.wrongDirection c.name port.index expected)
  | range {c : Component W α} (hc : g.component? port.component = some c)
      (hdirection : port.direction = expected) (h : (c.table expected).size ≤ port.index) :
      PortRefused g port expected
        (.portOutOfRange c.name expected port.index (c.table expected).size)
  | connected {c : Component W α} (hc : g.component? port.component = some c)
      (hdirection : port.direction = expected) (h : (g.holds? port).isSome) :
      PortRefused g port expected (.portAlreadyConnected c.name expected port.index)

/-- Why a connection is not legal: the first reason that there is. -/
inductive Refused (g : Graph W α) (upstream downstream : PortRef) : GraphError → Prop where
  | started (h : g.state ≠ .configuring) : Refused g upstream downstream .alreadyRunning
  | upstream {e : GraphError} (hstate : g.state = .configuring)
      (h : g.PortRefused upstream .output e) : Refused g upstream downstream e
  | downstream {e : GraphError} (hstate : g.state = .configuring)
      (hupstream : g.Free upstream .output) (h : g.PortRefused downstream .input e) :
      Refused g upstream downstream e
  | itself (hstate : g.state = .configuring) (hupstream : g.Free upstream .output)
      (hdownstream : g.Free downstream .input) (h : upstream.component = downstream.component) :
      Refused g upstream downstream (.selfConnection (g.nameOf upstream.component))
  | cycle (hstate : g.state = .configuring) (hupstream : g.Free upstream .output)
      (hdownstream : g.Free downstream .input) (hapart : upstream.component ≠ downstream.component)
      (h : Relation.TransGen g.Feeds downstream.component upstream.component) :
      Refused g upstream downstream
        (.cycleDetected (g.nameOf upstream.component) (g.nameOf downstream.component))

section

variable {g : Graph W α} {port upstream downstream : PortRef} {expected : Direction}
  {e : GraphError}

/-! ## Ports -/

theorem free_or_portRefused (g : Graph W α) (port : PortRef) (expected : Direction) :
    g.Free port expected ∨ ∃ e, g.PortRefused port expected e := by
  cases hc : g.component? port.component with
  | none => exact .inr ⟨_, .unknown hc⟩
  | some c =>
    by_cases hdirection : port.direction = expected
    · rcases Nat.lt_or_ge port.index (c.table expected).size with hlt | hge
      · have hthere : (g.port? port).isSome := by
          rw [port?_of_component hc, PortTable.port?_isSome_iff, hdirection]
          exact hlt
        cases hheld : g.holds? port with
        | none => exact .inl ⟨hdirection, hthere, hheld⟩
        | some id =>
          exact .inr ⟨_, .connected hc hdirection (Option.isSome_of_eq_some hheld)⟩
      · exact .inr ⟨_, .range hc hdirection hge⟩
    · exact .inr ⟨_, .direction hc hdirection⟩

theorem free_iff : g.checkPort port expected = .ok () ↔ g.Free port expected := by
  rw [checkPort_eq_ok_iff]
  exact ⟨fun ⟨hdirection, hthere, hfree⟩ => ⟨hdirection, hthere, hfree⟩,
    fun ⟨hdirection, hthere, hfree⟩ => ⟨hdirection, hthere, hfree⟩⟩

theorem PortRefused.checkPort (h : g.PortRefused port expected e) :
    g.checkPort port expected = .error e := by
  cases h with
  | unknown h =>
    unfold Graph.checkPort
    rw [h]
  | @direction c hc h =>
    unfold Graph.checkPort
    rw [hc]
    exact if_pos h
  | @range c hc hdirection h =>
    subst hdirection
    exact checkPort_of_missing port hc h
  | @connected c hc hdirection h =>
    subst hdirection
    obtain ⟨id, hid⟩ := Option.isSome_iff_exists.mp h
    obtain ⟨found, hfound, hheld⟩ := Option.bind_eq_some_iff.mp hid
    rw [port?_of_component hc] at hfound
    unfold Graph.checkPort
    simp [hc, hfound, Port.isConnected, hheld]

/-! ## Requests -/

theorem Coherent.legal_iff (hg : g.Coherent) :
    g.checkConnection upstream downstream = .ok () ↔ g.Legal upstream downstream := by
  rw [joinable_iff]
  constructor
  · intro h
    refine ⟨h.state, ⟨h.output, h.upstream_port, h.upstream_free⟩,
      ⟨h.input, h.downstream_port, h.downstream_free⟩, h.apart, fun hpath => ?_⟩
    have hback := (leadsTo_iff hg (component?_isSome_of_port? h.upstream_port)).mpr
      hpath.to_reflTransGen
    rw [h.no_way_back] at hback
    cases hback
  · rintro ⟨hstate, hup, hdown, hapart, hpath⟩
    refine ⟨hstate, hup.direction, hdown.direction, hup.there, hdown.there, hup.free, hdown.free,
      hapart, ?_⟩
    rw [Bool.eq_false_iff]
    intro hback
    rcases (Relation.reflTransGen_iff_eq_or_transGen.mp
      ((leadsTo_iff hg (component?_isSome_of_port? hup.there)).mp hback)) with hsame | hway
    · exact hapart hsame
    · exact hpath hway

theorem legal_or_refused (g : Graph W α) (upstream downstream : PortRef) :
    g.Legal upstream downstream ∨ ∃ e, g.Refused upstream downstream e := by
  by_cases hstate : g.state = .configuring
  swap
  · exact .inr ⟨_, .started hstate⟩
  rcases g.free_or_portRefused upstream .output with hup | ⟨e, he⟩
  swap
  · exact .inr ⟨e, .upstream hstate he⟩
  rcases g.free_or_portRefused downstream .input with hdown | ⟨e, he⟩
  swap
  · exact .inr ⟨e, .downstream hstate hup he⟩
  by_cases hapart : upstream.component = downstream.component
  · exact .inr ⟨_, .itself hstate hup hdown hapart⟩
  by_cases hpath : Relation.TransGen g.Feeds downstream.component upstream.component
  · exact .inr ⟨_, .cycle hstate hup hdown hapart hpath⟩
  · exact .inl ⟨hstate, hup, hdown, hapart, hpath⟩

theorem Refused.checkConnection (hg : g.Coherent) (h : g.Refused upstream downstream e) :
    g.checkConnection upstream downstream = .error e := by
  cases h with
  | started h =>
    unfold Graph.checkConnection
    simp [h, bind, Except.bind, throw, throwThe, MonadExceptOf.throw]
  | upstream hstate h => exact checkConnection_of_upstream hstate h.checkPort downstream
  | downstream hstate hup h =>
    exact checkConnection_of_downstream hstate (free_iff.mpr hup) h.checkPort
  | itself hstate hup hdown h =>
    unfold Graph.checkConnection
    simp [hstate, free_iff.mpr hup, free_iff.mpr hdown, h, bind, Except.bind, throw, throwThe,
      MonadExceptOf.throw]
  | cycle hstate hup hdown hapart h =>
    have hback : g.leadsTo downstream.component upstream.component = true :=
      (leadsTo_iff hg (component?_isSome_of_port? hup.there)).mpr h.to_reflTransGen
    unfold Graph.checkConnection
    simp [hstate, free_iff.mpr hup, free_iff.mpr hdown, hapart, hback, bind, Except.bind,
      throw, throwThe, MonadExceptOf.throw]

theorem Coherent.refused_iff (hg : g.Coherent) :
    g.checkConnection upstream downstream = .error e ↔ g.Refused upstream downstream e := by
  constructor
  · intro h
    rcases g.legal_or_refused upstream downstream with hlegal | ⟨e', hrefused⟩
    · rw [hg.legal_iff.mpr hlegal] at h
      cases h
    · cases h.symm.trans (hrefused.checkConnection hg)
      exact hrefused
  · exact Refused.checkConnection hg

end

/-! ## What comes of a request that is granted -/

/-- Two ports have been joined, and nothing else has come of it. -/
structure Joined (g : Graph W α) (upstream downstream : PortRef) (session : Session W α)
    (later : Graph W α) (last : Session W α) : Prop where
  connections : later.connections =
    g.connections ++ [⟨⟨g.connections.length⟩, upstream, downstream⟩]
  /-- The two ports hold the connection, and all other ports are as they were. -/
  ports : ∀ ref port, g.port? ref = some port → later.port? ref = some
    (if ref = upstream ∨ ref = downstream then
      { port with connection := some ⟨g.connections.length⟩ } else port)
  /-- Only unconnected ports are added. -/
  added : ∀ ref port, g.port? ref = none → later.port? ref = some port →
    port = .fresh .input ref.index
  /-- A filter behind the input port is told, once, and gets the ports that it asks for. -/
  filter : ∀ c filter, g.component? downstream.component = some c → c.role = .filter filter →
    later.portCount downstream.component .input =
        .ok (max c.inputs.size (wanted filter downstream session)) ∧
      last = (told filter downstream session).log (g.connectedLine upstream downstream)
  /-- No other component is told. -/
  other : g.kind? downstream.component ≠ some .filter →
    later.portCount downstream.component .input = g.portCount downstream.component .input ∧
      last = session.log (g.connectedLine upstream downstream)
  counts : ∀ id direction, id ≠ downstream.component ∨ direction ≠ .input →
    later.portCount id direction = g.portCount id direction
  cards : ∀ id, (later.component? id).map Component.card = (g.component? id).map Component.card
  rest : later = { g with components := later.components, connections := later.connections }

section

variable {g : Graph W α} {upstream downstream : PortRef} {session : Session W α}

theorem card_link (g : Graph W α) (upstream downstream : PortRef) (id : ComponentId) :
    ((g.link upstream downstream).component? id).map Component.card =
      (g.component? id).map Component.card := by
  have hattach (c : Component W α) (direction : Direction) (f : PortTable → PortTable) :
      (c.modifyTable direction f).card = c.card := by
    cases direction <;> rfl
  unfold link attach
  dsimp only
  rw [map_component?_modify (fun c => hattach c _ _),
    map_component?_modify (fun c => hattach c _ _)]
  rfl

theorem card_growInputs (g : Graph W α) (id : ComponentId) (count : Nat) (other : ComponentId) :
    ((g.growInputs id count).component? other).map Component.card =
      (g.component? other).map Component.card := by
  refine map_component?_modify (p := Component.card) ?_ g id other
  exact fun _ => rfl

theorem portCount_growInputs_output (g : Graph W α) (id : ComponentId) (count : Nat)
    (other : ComponentId) :
    (g.growInputs id count).portCount other .output = g.portCount other .output := by
  unfold portCount
  rw [table?_growInputs_output]

theorem Joinable.port?_link (h : g.Joinable upstream downstream) {ref : PortRef} {port : Port}
    (hport : g.port? ref = some port) :
    (g.link upstream downstream).port? ref = some
      (if ref = upstream ∨ ref = downstream then
        { port with connection := some ⟨g.connections.length⟩ } else port) := by
  by_cases hend : ref = upstream ∨ ref = downstream
  · rw [if_pos hend, port?_link_of_end g h.ne hend, hport, Option.map_some]
  · obtain ⟨hup, hdown⟩ := not_or.mp hend
    rw [if_neg hend, port?_link_of_ne g hup hdown, hport]

theorem port?_link_eq_none (upstream downstream : PortRef) {ref : PortRef}
    (h : g.port? ref = none) :
    (g.link upstream downstream).port? ref = none := by
  rw [← Option.not_isSome_iff_eq_none, isSome_port?_link, h]
  exact Bool.false_ne_true

theorem Joinable.joined_of_not_filter (h : g.Joinable upstream downstream)
    (hkind : g.kind? downstream.component ≠ some .filter) (session : Session W α) :
    g.Joined upstream downstream session (g.link upstream downstream)
      (session.log (g.connectedLine upstream downstream)) where
  connections := connections_link g upstream downstream
  ports _ _ hport := h.port?_link hport
  added ref port hnone hport := by
    rw [port?_link_eq_none upstream downstream hnone] at hport
    cases hport
  filter c filter hc hrole := by
    refine absurd ?_ hkind
    unfold kind? Component.kind
    rw [hc, Option.map_some, hrole]
    rfl
  other _ := ⟨portCount_link .., rfl⟩
  counts id direction _ := portCount_link g upstream downstream id direction
  cards := card_link g upstream downstream
  rest := rfl

theorem Joinable.joined_of_filter (hg : g.Coherent) (h : g.Joinable upstream downstream)
    {c : Component W α} {filter : Filter W} (hc : g.component? downstream.component = some c)
    (hrole : c.role = .filter filter) (session : Session W α) :
    g.Joined upstream downstream session
      ((g.link upstream downstream).growInputs downstream.component
        (wanted filter downstream session))
      ((told filter downstream session).log (g.connectedLine upstream downstream)) where
  connections := connections_link g upstream downstream
  ports ref port hport := by
    have hlink := h.port?_link hport
    rw [port?_growInputs_of_isSome (Option.isSome_of_eq_some hlink)]
    exact hlink
  added ref port hnone hport := by
    have hlink := port?_link_eq_none upstream downstream hnone
    rcases port?_growInputs (g.link upstream downstream) downstream.component
      (wanted filter downstream session) ref with hsame | ⟨-, -, -, c', hc', hnew⟩
    · rw [hsame, hlink] at hport
      cases hport
    · have hdirection : c'.inputs.direction = .input := by
        refine (hg.link h).table downstream.component .input c'.inputs ?_
        unfold table?
        rw [hc']
        rfl
      rw [hnew, hdirection] at hport
      exact (Option.some.inj hport).symm
  filter c₁ filter₁ hc₁ hrole₁ := by
    cases hc.symm.trans hc₁
    cases hrole.symm.trans hrole₁
    refine ⟨portCount_growInputs_self ?_ _, rfl⟩
    rw [portCount_link]
    unfold portCount table?
    rw [hc]
    rfl
  other hkind := by
    refine absurd ?_ hkind
    unfold kind? Component.kind
    rw [hc, Option.map_some, hrole]
    rfl
  counts id direction hother := by
    rcases hother with hid | hdirection
    · rw [portCount_growInputs_of_ne _ hid, portCount_link]
    · cases direction with
      | input => exact absurd rfl hdirection
      | output => rw [portCount_growInputs_output, portCount_link]
  cards id := (card_growInputs ..).trans (card_link ..)
  rest := rfl

theorem Joinable.connect (hg : g.Coherent) (h : g.Joinable upstream downstream)
    (hrow : session.memory.reserve g.roomForConnection = .ok ())
    (hfits : ¬ g.Overgrown downstream session) :
    ∃ later last, g.connect upstream downstream session =
        ⟨.ok ⟨g.connections.length⟩, later, last⟩ ∧
      g.Joined upstream downstream session later last := by
  by_cases hkind : g.kind? downstream.component = some .filter
  · obtain ⟨c, hc, hfilter⟩ := Option.map_eq_some_iff.mp hkind
    cases hrole : c.role with
    | filter filter =>
      rcases hroom : session.memory.reserve (wish c filter downstream session) with reason | ⟨⟩
      · exact absurd ⟨c, filter, reason, hc, hrole, hroom⟩ hfits
      · exact ⟨_, _, connect_of_filter h hrow hc hrole hroom,
          h.joined_of_filter hg hc hrole session⟩
    | source | sink =>
      rw [Component.kind, hrole] at hfilter
      cases hfilter
  · exact ⟨_, _, connect_of_not_filter h hrow hkind, h.joined_of_not_filter hkind session⟩

end

/--
Where there is room for one connection more, a request to join two ports is granted exactly if the
connection is legal, and else refused for the first reason why it is not. Where there is none a
legal connection is refused, too, for that reason. If a request is granted the next connection is
made, of these two ports, and nothing else comes of it than that a filter behind them is told and
gets the ports that it asks for.
-/
theorem connect_iff_legal {g : Graph W α} (h : g.Reached) (upstream downstream : PortRef)
    (session : Session W α)
    (hfits : g.Legal upstream downstream → ¬ g.Overgrown downstream session) :
    (session.memory.reserve g.roomForConnection = .ok () →
      ((∃ id, (g.connect upstream downstream session).answer = .ok id) ↔
        g.Legal upstream downstream) ∧
      ∀ e, (g.connect upstream downstream session).answer = .error e ↔
        g.Refused upstream downstream e) ∧
    (∀ reason, session.memory.reserve g.roomForConnection = .error reason →
      ∀ e, (g.connect upstream downstream session).answer = .error e ↔
        g.Refused upstream downstream e ∨
          g.Legal upstream downstream ∧ e = .allocation reason) ∧
    (∀ id later last, g.connect upstream downstream session = ⟨.ok id, later, last⟩ →
      id = ⟨g.connections.length⟩ ∧ g.Joined upstream downstream session later last) ∧
    ∀ e later last, g.connect upstream downstream session = ⟨.error e, later, last⟩ →
      later = g ∧ last = session := by
  have hg := h.coherent
  have hapart {e : GraphError} (hrefused : g.Refused upstream downstream e) :
      ¬ g.Legal upstream downstream := by
    intro hlegal
    cases (hg.refused_iff.mpr hrefused).symm.trans (hg.legal_iff.mpr hlegal)
  rcases hcheck : g.checkConnection upstream downstream with e | ⟨⟩
  · have hrefused := hg.refused_iff.mp hcheck
    have hillegal := hapart hrefused
    have hsame (e' : GraphError) : Except.error e = (.error e' : Except GraphError ConnectionId) ↔
        g.Refused upstream downstream e' := by
      rw [Except.error.injEq, ← hg.refused_iff, hcheck, Except.error.injEq]
    rw [connect_of_refused hcheck]
    refine ⟨fun _ => ⟨⟨nofun, fun hlegal => absurd hlegal hillegal⟩, hsame⟩,
      fun reason _ e' => (hsame e').trans ⟨.inl, ?_⟩, nofun, ?_⟩
    · rintro (h' | ⟨hlegal, -⟩)
      · exact h'
      · exact absurd hlegal hillegal
    · rintro e' later last ⟨⟩
      exact ⟨rfl, rfl⟩
  · have hlegal := hg.legal_iff.mp hcheck
    have hjoinable := joinable_iff.mp hcheck
    rcases hrow : session.memory.reserve g.roomForConnection with reason | ⟨⟩
    · rw [connect_of_no_row hjoinable hrow]
      refine ⟨nofun, fun reason' hreason e => ?_, nofun, ?_⟩
      · cases hreason
        constructor
        · rintro ⟨⟩
          exact .inr ⟨hlegal, rfl⟩
        · rintro (hrefused | ⟨-, rfl⟩)
          · exact absurd hlegal (hapart hrefused)
          · rfl
      · rintro e later last ⟨⟩
        exact ⟨rfl, rfl⟩
    · obtain ⟨later, last, hconnect, hjoined⟩ := hjoinable.connect hg hrow (hfits hlegal)
      rw [hconnect]
      refine ⟨fun _ => ⟨⟨fun _ => hlegal, fun _ => ⟨_, rfl⟩⟩,
        fun e => ⟨nofun, fun hrefused => absurd hlegal (hapart hrefused)⟩⟩, nofun, ?_, nofun⟩
      rintro id later last ⟨⟩
      exact ⟨rfl, hjoined⟩

/-- A filter with one free input port at least: it gets another with every connection. The world
counts its ports. -/
def manifold : FilterClass Nat where
  name := "manifold"
  description := none
  instantiate _ _ := pure
    { inputCount := id
      outputCount := fun _ => 1
      inputConnected := fun _ => (· + 1)
      iterator := fun _ _ => pure ⟨pure .ended⟩ }

def tapAndManifold : Graph Nat Unit :=
  empty.carryOut ⟨.plain 1, .empty⟩
    [.addSource tap "tap" .empty .info, .addFilter manifold "manifold" .empty .info]

theorem connect_tapAndManifold :
    tapAndManifold.Reached ∧ ¬ tapAndManifold.Overgrown ⟨⟨1⟩, .input, 0⟩ ⟨.plain 1, .empty⟩ ∧
      tapAndManifold.Legal tapOut ⟨⟨1⟩, .input, 0⟩ ∧
      ∃ later last,
        tapAndManifold.connect tapOut ⟨⟨1⟩, .input, 0⟩ ⟨.plain 1, .empty⟩ = ⟨.ok ⟨0⟩, later, last⟩ ∧
        tapAndManifold.Joined tapOut ⟨⟨1⟩, .input, 0⟩ ⟨.plain 1, .empty⟩ later last ∧
        later.portCount ⟨1⟩ .input = .ok 2 := by
  have hreached : tapAndManifold.Reached := reachedFrom_carryOut ..
  have hfits : ¬ tapAndManifold.Overgrown ⟨⟨1⟩, .input, 0⟩ ⟨.plain 1, .empty⟩ := by
    rintro ⟨c, filter, reason, hc, hrole, hgrown⟩
    cases hc
    cases hrole
    cases hgrown
  have hanswer :
      (tapAndManifold.connect tapOut ⟨⟨1⟩, .input, 0⟩ ⟨.plain 1, .empty⟩).answer = .ok ⟨0⟩ := by
    decide +kernel
  have hcount : (tapAndManifold.connect tapOut ⟨⟨1⟩, .input, 0⟩
      ⟨.plain 1, .empty⟩).graph.portCount ⟨1⟩ .input = .ok 2 := by
    decide +kernel
  obtain ⟨hlegal, -, hjoined, -⟩ :=
    connect_iff_legal hreached tapOut ⟨⟨1⟩, .input, 0⟩ ⟨.plain 1, .empty⟩ fun _ => hfits
  refine ⟨hreached, hfits, (hlegal (Memory.reserve_ample rfl)).1.mp ⟨_, hanswer⟩, ?_⟩
  rcases hreply : tapAndManifold.connect tapOut ⟨⟨1⟩, .input, 0⟩ ⟨.plain 1, .empty⟩ with
    ⟨answer, later, last⟩
  rw [hreply] at hanswer hcount
  cases hanswer
  exact ⟨later, last, rfl, (hjoined _ _ _ hreply).2, hcount⟩

end Graph

end TraceFlow
