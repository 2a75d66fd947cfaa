import Mathlib.Data.List.Find
import Mathlib.Data.List.Perm.Basic
import TraceFlow.Proofs.Acyclic
import TraceFlow.Proofs.Twins

/-!
# The order of the requests

Requests to join ports are granted or not by what is there already. Still their order is
irrelevant: all of them are granted just when the ports are free and different and all the
connections together make no cycle, and no step can tell in which order they came.
-/

namespace TraceFlow

variable {W α : Type}

def Connection.pair (c : Connection) : PortRef × PortRef := (c.upstream, c.downstream)

theorem PortTable.grow_of_le {table : PortTable} {count : Nat} (h : count ≤ table.size) :
    table.grow count = table := by
  unfold grow
  simp [Nat.sub_eq_zero_of_le h]

namespace Graph

/-! ## Filters that do not mind -/

/-- To be told of a connection makes no difference to a filter: it wants no more ports than it has,
and no component can tell the world after from the world before. -/
structure Indifferent (same : W → W → Prop) (world : W) (g : Graph W α) : Prop where
  equivalence : Equivalence same
  blind : g.Blind same
  told : ∀ id c filter, g.component? id = some c → c.role = .filter filter →
    ∀ port now, same world now → same now (filter.inputConnected port now)
  counted : ∀ id c filter, g.component? id = some c → c.role = .filter filter →
    ∀ now, same world now → filter.inputCount now ≤ c.inputs.size

theorem alike_of_component?_link {g : Graph W α} {upstream downstream : PortRef}
    {id : ComponentId} {c' : Component W α}
    (h : (g.link upstream downstream).component? id = some c') :
    ∃ c, g.component? id = some c ∧ c.Alike c' := by
  have hkind := kind?_link g upstream downstream id
  unfold kind? at hkind
  rw [h, Option.map_some] at hkind
  obtain ⟨c, hc, -⟩ := Option.map_eq_some_iff.mp hkind.symm
  obtain ⟨c'', hc'', halike⟩ := component?_link_alike g upstream downstream hc
  cases h.symm.trans hc''
  exact ⟨c, hc, halike⟩

theorem growInputs_of_le {g : Graph W α} {id : ComponentId} {c : Component W α}
    (hc : g.component? id = some c) {count : Nat} (h : count ≤ c.inputs.size) :
    g.growInputs id count = g := by
  have hsame : g.components.modify id.index
      (fun c => { c with inputs := c.inputs.grow count }) = g.components := by
    apply List.ext_getElem?
    intro i
    rw [List.getElem?_modify]
    by_cases hi : id.index = i
    · subst hi
      rw [show g.components[id.index]? = some c from hc]
      simp [PortTable.grow_of_le h]
    · simp [hi]
  unfold growInputs modify
  rw [hsame]

section

variable {same : W → W → Prop} {world : W} {g : Graph W α} {upstream downstream : PortRef}

theorem Blind.link (h : g.Blind same) : (g.link upstream downstream).Blind same := by
  intro id c' hc'
  obtain ⟨c, hc, halike⟩ := alike_of_component?_link hc'
  rw [halike.role]
  exact h id c hc

theorem Indifferent.link (h : g.Indifferent same world) :
    (g.link upstream downstream).Indifferent same world where
  equivalence := h.equivalence
  blind := h.blind.link
  told id c' filter hc' hrole := by
    obtain ⟨c, hc, halike⟩ := alike_of_component?_link hc'
    exact h.told id c filter hc (halike.role.symm.trans hrole)
  counted id c' filter hc' hrole now hnow := by
    obtain ⟨c, hc, halike⟩ := alike_of_component?_link hc'
    rw [show c'.inputs.size = c.inputs.size from halike.size .input]
    exact h.counted id c filter hc (halike.role.symm.trans hrole) now hnow

theorem Indifferent.connect (h : g.Indifferent same world)
    (hjoinable : g.Joinable upstream downstream) {session : Session W α}
    (hrow : session.memory.reserve g.roomForConnection = .ok ())
    (hworld : same world session.world) :
    ∃ id closed now, g.connect upstream downstream session =
        ⟨.ok id, g.link upstream downstream, closed⟩ ∧
      closed.toScene = session.toScene.later now ∧ same world now := by
  obtain ⟨c, hc⟩ := Option.isSome_iff_exists.mp
    (component?_isSome_of_port? hjoinable.downstream_port)
  by_cases hfilter : ∃ filter, c.role = .filter filter
  · obtain ⟨filter, hrole⟩ := hfilter
    have hnow := h.equivalence.trans hworld (h.told _ c filter hc hrole downstream.index _ hworld)
    have hcount : wanted filter downstream session ≤ c.inputs.size :=
      h.counted _ c filter hc hrole _ hnow
    obtain ⟨closed, hconnect, hclosed⟩ := connect_of_fits hjoinable hrow hc hrole
      (session.memory.reserve_of_le hcount)
    obtain ⟨c', hc', halike⟩ := component?_link_alike g upstream downstream hc
    have hsize : c'.inputs.size = c.inputs.size := halike.size .input
    rw [growInputs_of_le hc' (hsize ▸ hcount)] at hconnect
    exact ⟨_, closed, _, hconnect, hclosed, hnow⟩
  · have hkind : g.kind? downstream.component ≠ some .filter := by
      unfold kind? Component.kind
      rw [hc, Option.map_some]
      intro hsome
      cases hrole : c.role with
      | filter filter => exact hfilter ⟨filter, hrole⟩
      | source | sink =>
        rw [hrole] at hsome
        cases hsome
    exact ⟨_, _, session.world, connect_of_not_filter hjoinable hrow hkind, rfl, hworld⟩

end

/-! ## Requests one after the other -/

/-- Asks for ports to be joined, pair by pair, up to the first that is refused. -/
def joinEach (g : Graph W α) : List (PortRef × PortRef) → Session W α → Reply W α Unit
  | [], session => ⟨.ok (), g, session⟩
  | (upstream, downstream) :: rest, session =>
    match g.connect upstream downstream session with
    | ⟨.error e, g, session⟩ => ⟨.error e, g, session⟩
    | ⟨.ok _, g, session⟩ => g.joinEach rest session

/-- There is room for so many connections more. -/
def RoomFor (g : Graph W α) (memory : Memory) (count : Nat) : Prop :=
  ∀ k < count, memory.reserve (.next .connections (g.connections.length + k)) = .ok ()

theorem roomFor_succ_iff {g : Graph W α} {memory : Memory} {count : Nat}
    (upstream downstream : PortRef) :
    g.RoomFor memory (count + 1) ↔
      memory.reserve g.roomForConnection = .ok () ∧
        (g.link upstream downstream).RoomFor memory count := by
  unfold RoomFor
  rw [connections_link, List.length_append, List.length_singleton]
  constructor
  · intro h
    refine ⟨h 0 count.succ_pos, fun k hk => ?_⟩
    rw [Nat.add_assoc, Nat.add_comm 1]
    exact h (k + 1) (Nat.succ_lt_succ hk)
  · rintro ⟨hfirst, hrest⟩ (_ | k) hk
    · exact hfirst
    · rw [Nat.add_comm k, ← Nat.add_assoc]
      exact hrest k (Nat.lt_of_succ_lt_succ hk)

def linkEach (g : Graph W α) (pairs : List (PortRef × PortRef)) : Graph W α :=
  pairs.foldl (fun g pair => g.link pair.1 pair.2) g

/-- One component feeds the other, or does so once the pairs are joined. -/
def FeedsWith (g : Graph W α) (pairs : List (PortRef × PortRef)) (id other : ComponentId) : Prop :=
  g.Feeds id other ∨ ∃ pair ∈ pairs, pair.1.component = id ∧ pair.2.component = other

/-- A port that a connection may be made to, of that direction. -/
structure Free (g : Graph W α) (port : PortRef) (direction : Direction) : Prop where
  direction : port.direction = direction
  there : (g.port? port).isSome
  free : g.holds? port = none

/-- All the pairs can be joined in one graph. The order of them is not looked at. -/
structure Wirable (g : Graph W α) (pairs : List (PortRef × PortRef)) : Prop where
  state : pairs ≠ [] → g.state = .configuring
  outputs : ∀ pair ∈ pairs, g.Free pair.1 .output
  inputs : ∀ pair ∈ pairs, g.Free pair.2 .input
  outputs_nodup : (pairs.map Prod.fst).Nodup
  inputs_nodup : (pairs.map Prod.snd).Nodup
  acyclic : ∀ id, ¬ Relation.TransGen (g.FeedsWith pairs) id id

theorem Wirable.perm {g : Graph W α} {pairs pairs' : List (PortRef × PortRef)}
    (h : g.Wirable pairs) (hperm : pairs.Perm pairs') : g.Wirable pairs' where
  state hne := h.state fun hnil => hne (List.perm_nil.mp (hnil ▸ hperm.symm))
  outputs pair hpair := h.outputs pair (hperm.mem_iff.mpr hpair)
  inputs pair hpair := h.inputs pair (hperm.mem_iff.mpr hpair)
  outputs_nodup := (hperm.map _).nodup_iff.mp h.outputs_nodup
  inputs_nodup := (hperm.map _).nodup_iff.mp h.inputs_nodup
  acyclic := by
    have hsame : g.FeedsWith pairs' = g.FeedsWith pairs := by
      funext id other
      simp only [FeedsWith, hperm.mem_iff]
    rw [hsame]
    exact h.acyclic

theorem wirable_nil {g : Graph W α} (hacyclic : g.Acyclic) : g.Wirable [] where
  state hne := absurd rfl hne
  outputs _ hpair := absurd hpair List.not_mem_nil
  inputs _ hpair := absurd hpair List.not_mem_nil
  outputs_nodup := List.nodup_nil
  inputs_nodup := List.nodup_nil
  acyclic := by
    have hsame : g.FeedsWith [] = g.Feeds := by
      funext id other
      simp [FeedsWith]
    rw [hsame]
    exact hacyclic

section

variable {g : Graph W α} {upstream downstream : PortRef} {pairs : List (PortRef × PortRef)}

theorem feeds_link_iff {id other : ComponentId} :
    (g.link upstream downstream).Feeds id other ↔
      g.Feeds id other ∨ upstream.component = id ∧ downstream.component = other := by
  unfold Feeds
  rw [connections_link]
  simp

theorem feedsWith_link :
    (g.link upstream downstream).FeedsWith pairs =
      g.FeedsWith ((upstream, downstream) :: pairs) := by
  funext id other
  simp only [FeedsWith, feeds_link_iff, List.mem_cons, exists_eq_or_imp, or_assoc]

theorem free_link_iff {port : PortRef} {direction : Direction} (hup : port ≠ upstream)
    (hdown : port ≠ downstream) :
    (g.link upstream downstream).Free port direction ↔ g.Free port direction := by
  constructor
  · rintro ⟨hdirection, hthere, hfree⟩
    rw [isSome_port?_link] at hthere
    rw [holds?_link_of_ne g hup hdown] at hfree
    exact ⟨hdirection, hthere, hfree⟩
  · rintro ⟨hdirection, hthere, hfree⟩
    rw [← isSome_port?_link g upstream downstream] at hthere
    rw [← holds?_link_of_ne g hup hdown] at hfree
    exact ⟨hdirection, hthere, hfree⟩

theorem Joinable.not_free_link (h : g.Joinable upstream downstream) {port : PortRef}
    {direction : Direction} (hfree : (g.link upstream downstream).Free port direction) :
    port ≠ upstream ∧ port ≠ downstream := by
  constructor
  · rintro rfl
    have hheld := holds?_link_of_end h.ne (.inl rfl) h.upstream_port
    rw [hfree.free] at hheld
    cases hheld
  · rintro rfl
    have hheld := holds?_link_of_end h.ne (.inr rfl) h.downstream_port
    rw [hfree.free] at hheld
    cases hheld

theorem ne_of_direction {port other : PortRef} {direction direction' : Direction}
    (h : port.direction = direction) (h' : other.direction = direction')
    (hne : direction ≠ direction') : port ≠ other := by
  rintro rfl
  exact hne (h.symm.trans h')

theorem Wirable.joinable (hg : g.Coherent) (h : g.Wirable ((upstream, downstream) :: pairs)) :
    g.Joinable upstream downstream := by
  have hup := h.outputs _ List.mem_cons_self
  have hdown := h.inputs _ List.mem_cons_self
  have hedge : g.FeedsWith ((upstream, downstream) :: pairs) upstream.component
      downstream.component := .inr ⟨_, List.mem_cons_self, rfl, rfl⟩
  exact
    { state := h.state (List.cons_ne_nil _ _)
      output := hup.direction
      input := hdown.direction
      upstream_port := hup.there
      downstream_port := hdown.there
      upstream_free := hup.free
      downstream_free := hdown.free
      apart := by
        intro hself
        rw [hself] at hedge
        exact h.acyclic _ (.single hedge)
      no_way_back := by
        rw [← Bool.not_eq_true, leadsTo_iff hg (component?_isSome_of_port? hup.there)]
        intro hback
        exact h.acyclic _ (.head' hedge (hback.lift id (fun _ _ => .inl))) }

theorem wirable_cons_iff (hg : g.Coherent) :
    g.Wirable ((upstream, downstream) :: pairs) ↔
      g.Joinable upstream downstream ∧ (g.link upstream downstream).Wirable pairs := by
  constructor
  · intro h
    have hjoinable := h.joinable hg
    obtain ⟨hfirst, hnodup⟩ := List.nodup_cons.mp h.outputs_nodup
    obtain ⟨hlast, hnodup'⟩ := List.nodup_cons.mp h.inputs_nodup
    refine ⟨hjoinable, fun _ => hjoinable.state, fun pair hpair => ?_, fun pair hpair => ?_,
      hnodup, hnodup', ?_⟩
    · have hfree := h.outputs pair (List.mem_cons_of_mem _ hpair)
      refine (free_link_iff ?_ ?_).mpr hfree
      · rintro rfl
        exact hfirst (List.mem_map.mpr ⟨pair, hpair, rfl⟩)
      · exact ne_of_direction hfree.direction hjoinable.input (by decide)
    · have hfree := h.inputs pair (List.mem_cons_of_mem _ hpair)
      refine (free_link_iff ?_ ?_).mpr hfree
      · exact ne_of_direction hfree.direction hjoinable.output (by decide)
      · rintro rfl
        exact hlast (List.mem_map.mpr ⟨pair, hpair, rfl⟩)
    · rw [feedsWith_link]
      exact h.acyclic
  · -- The first pair has taken its two ports, so none of the others can name them.
    rintro ⟨hjoinable, h⟩
    have hother (pair : PortRef × PortRef) (hpair : pair ∈ pairs) :=
      And.intro (hjoinable.not_free_link (h.outputs pair hpair))
        (hjoinable.not_free_link (h.inputs pair hpair))
    refine ⟨fun _ => hjoinable.state, ?_, ?_, ?_, ?_, ?_⟩
    · refine List.forall_mem_cons.mpr
        ⟨⟨hjoinable.output, hjoinable.upstream_port, hjoinable.upstream_free⟩, fun pair hpair => ?_⟩
      obtain ⟨⟨hup, hdown⟩, -⟩ := hother pair hpair
      exact (free_link_iff hup hdown).mp (h.outputs pair hpair)
    · refine List.forall_mem_cons.mpr
        ⟨⟨hjoinable.input, hjoinable.downstream_port, hjoinable.downstream_free⟩,
          fun pair hpair => ?_⟩
      obtain ⟨-, hup, hdown⟩ := hother pair hpair
      exact (free_link_iff hup hdown).mp (h.inputs pair hpair)
    · refine List.nodup_cons.mpr ⟨fun hmem => ?_, h.outputs_nodup⟩
      obtain ⟨pair, hpair, hsame⟩ := List.mem_map.mp hmem
      exact (hother pair hpair).1.1 hsame
    · refine List.nodup_cons.mpr ⟨fun hmem => ?_, h.inputs_nodup⟩
      obtain ⟨pair, hpair, hsame⟩ := List.mem_map.mp hmem
      exact (hother pair hpair).2.2 hsame
    · rw [← feedsWith_link]
      exact h.acyclic

end

/-! ## All are granted, or not all -/

section

variable {same : W → W → Prop} {world : W} {g : Graph W α} {pairs : List (PortRef × PortRef)}

theorem Wirable.coherent (hg : g.Coherent) (h : g.Wirable pairs) : (g.linkEach pairs).Coherent := by
  induction pairs generalizing g with
  | nil => exact hg
  | cons pair rest ih =>
    obtain ⟨hjoinable, hrest⟩ := (wirable_cons_iff hg).mp h
    exact ih (hg.link hjoinable) hrest

theorem Wirable.joinEach (hg : g.Coherent) (h : g.Wirable pairs)
    (hindifferent : g.Indifferent same world) {session : Session W α}
    (hroom : g.RoomFor session.memory pairs.length) (hworld : same world session.world) :
    ∃ closed now, g.joinEach pairs session = ⟨.ok (), g.linkEach pairs, closed⟩ ∧
      closed.toScene = session.toScene.later now ∧ same world now := by
  induction pairs generalizing g session with
  | nil => exact ⟨session, session.world, rfl, rfl, hworld⟩
  | cons pair rest ih =>
    obtain ⟨upstream, downstream⟩ := pair
    obtain ⟨hjoinable, hrest⟩ := (wirable_cons_iff hg).mp h
    obtain ⟨hrow, hrows⟩ := (roomFor_succ_iff upstream downstream).mp hroom
    obtain ⟨id, between, now, hconnect, hbetween, hnow⟩ :=
      hindifferent.connect hjoinable hrow hworld
    rw [show session.memory = between.memory from (congrArg Scene.memory hbetween).symm] at hrows
    obtain ⟨closed, last, hjoin, hclosed, hlast⟩ := ih (hg.link hjoinable) hrest
      hindifferent.link hrows ((congrArg Scene.world hbetween).symm ▸ hnow)
    refine ⟨closed, last, ?_, hclosed.trans (congrArg (·.later last) hbetween), hlast⟩
    unfold Graph.joinEach
    rw [hconnect]
    exact hjoin

theorem wirable_of_joinEach (hg : g.Coherent) (hacyclic : g.Acyclic)
    (hindifferent : g.Indifferent same world) {session : Session W α}
    (hworld : same world session.world) (h : (g.joinEach pairs session).answer = .ok ()) :
    g.Wirable pairs ∧ g.RoomFor session.memory pairs.length := by
  induction pairs generalizing g session with
  | nil => exact ⟨wirable_nil hacyclic, fun _ hk => absurd hk (Nat.not_lt_zero _)⟩
  | cons pair rest ih =>
    obtain ⟨upstream, downstream⟩ := pair
    unfold joinEach at h
    rcases hcheck : g.checkConnection upstream downstream with e | ⟨⟩
    · rw [connect_of_refused hcheck] at h
      cases h
    · have hjoinable := joinable_iff.mp hcheck
      rcases hrow : session.memory.reserve g.roomForConnection with reason | ⟨⟩
      · rw [connect_of_no_row hjoinable hrow] at h
        cases h
      · obtain ⟨id, between, now, hconnect, hbetween, hnow⟩ :=
          hindifferent.connect hjoinable hrow hworld
        rw [hconnect] at h
        obtain ⟨hrest, hrows⟩ := ih (hg.link hjoinable) (hacyclic.link hg hjoinable)
          hindifferent.link ((congrArg Scene.world hbetween).symm ▸ hnow) h
        rw [show between.memory = session.memory from
          (congrArg Scene.memory hbetween).trans rfl] at hrows
        exact ⟨(wirable_cons_iff hg).mpr ⟨hjoinable, hrest⟩,
          (roomFor_succ_iff upstream downstream).mpr ⟨hrow, hrows⟩⟩

end

/-! ## What no step can tell -/

/-- The output port from which the connection comes that a port holds. -/
def feeder? (g : Graph W α) (ref : PortRef) : Option PortRef := (g.holds? ref).bind g.origin?

/-- What a step reads of the input ports: the position of each, and what feeds it. -/
def inputRow (g : Graph W α) (c : Component W α) : List (Nat × Option PortRef) :=
  c.inputs.ports.map fun port => (port.index, port.connection.bind g.origin?)

theorem feeders_eq_inputRow (g : Graph W α) (c : Component W α) :
    g.feeders c = (g.inputRow c).filterMap Prod.snd := by
  unfold inputRow
  rw [List.filterMap_map]
  rfl

section

variable {g g' : Graph W α} {c c' : Component W α} {id : ComponentId}

theorem Coherent.feeder?_eq_some_iff (hg : g.Coherent) {ref port : PortRef}
    (hdirection : ref.direction = .input) :
    g.feeder? ref = some port ↔ (port, ref) ∈ g.connections.map Connection.pair := by
  constructor
  · intro h
    obtain ⟨k, hk, horigin⟩ := Option.bind_eq_some_iff.mp h
    obtain ⟨connection, hconnection, hdown⟩ := hg.downstream_of_holds hdirection hk
    unfold origin? at horigin
    rw [hconnection, Option.map_some] at horigin
    cases horigin
    cases hdown
    exact List.mem_map.mpr ⟨connection, List.mem_of_getElem? hconnection, rfl⟩
  · intro h
    obtain ⟨connection, hmem, hpair⟩ := List.mem_map.mp h
    cases hpair
    obtain ⟨k, hk⟩ := List.mem_iff_getElem?.mp hmem
    have hholds : g.holds? connection.downstream = some ⟨k⟩ :=
      (hg.holds_iff _ _).mpr ⟨connection, hk, .inr rfl⟩
    exact Option.bind_eq_some_iff.mpr ⟨⟨k⟩, hholds, Option.map_eq_some_iff.mpr ⟨_, hk, rfl⟩⟩

theorem Coherent.getElem?_inputRow (hg : g.Coherent) (hc : g.component? id = some c) (i : Nat) :
    (g.inputRow c)[i]? = if i < c.inputs.size then some (i, g.feeder? (id.input i)) else none := by
  unfold inputRow
  rw [List.getElem?_map]
  by_cases hi : i < c.inputs.size
  · have hport : g.port? (id.input i) = some c.inputs.ports[i] :=
      (port?_of_component hc).trans (List.getElem?_eq_getElem hi)
    have hindex : c.inputs.ports[i].index = i := (hg.port _ _ hport).2.1
    rw [if_pos hi, List.getElem?_eq_getElem hi, Option.map_some, hindex]
    unfold feeder? holds?
    rw [hport, Option.bind_some]
  · rw [if_neg hi, List.getElem?_eq_none (Nat.le_of_not_lt hi), Option.map_none]

theorem Coherent.isConnected_iff (hg : g.Coherent) (hc : g.component? id = some c) {port : Port}
    (hport : port ∈ c.inputs.ports) :
    port.isConnected = (port.connection.bind g.origin?).isSome := by
  unfold Port.isConnected
  cases hk : port.connection with
  | none => rfl
  | some k =>
    obtain ⟨i, hi⟩ := List.mem_iff_getElem?.mp hport
    obtain ⟨connection, hconnection, -⟩ := hg.downstream_of_holds rfl (holds?_of_input hc hi hk)
    simp [origin?, hconnection]

theorem Coherent.sinkFeeder_eq_inputRow (hg : g.Coherent) (hc : g.component? id = some c) :
    g.sinkFeeder c =
      match (g.inputRow c).find? (·.2.isNone) with
      | some (index, _) => .error (.unconnectedSink c.name index)
      | none => .ok (g.feeders c).getLast? := by
  have hfind : (g.inputRow c).find? (·.2.isNone) =
      (c.inputs.ports.find? (!·.isConnected)).map
        fun port => (port.index, port.connection.bind g.origin?) := by
    unfold inputRow
    rw [List.find?_map]
    congr 1
    refine List.find?_congr fun port hport => ?_
    simp [hg.isConnected_iff hc hport]
  unfold sinkFeeder
  rw [hfind]
  cases c.inputs.ports.find? (!·.isConnected) <;> rfl

/-- What feeds the ports is all that a step can tell of the connections. -/
theorem Coherent.looks (hg : g.Coherent) (hg' : g'.Coherent) (hc : g.component? id = some c)
    (hc' : g'.component? id = some c') (hname : c'.name = c.name) (hrole : c'.role = c.role)
    (hsize : c'.inputs.size = c.inputs.size)
    (hpairs : ∀ pair, pair ∈ g'.connections.map Connection.pair ↔
      pair ∈ g.connections.map Connection.pair) : g.Looks g' c c' := by
  have hrow : g'.inputRow c' = g.inputRow c := by
    apply List.ext_getElem?
    intro i
    rw [hg.getElem?_inputRow hc, hg'.getElem?_inputRow hc', hsize]
    have hfeeder : g'.feeder? (id.input i) = g.feeder? (id.input i) := by
      ext port
      rw [hg.feeder?_eq_some_iff rfl, hg'.feeder?_eq_some_iff rfl, hpairs]
    rw [hfeeder]
  have hfeeders : g'.feeders c' = g.feeders c := by
    rw [feeders_eq_inputRow, feeders_eq_inputRow, hrow]
  refine ⟨hname, hrole, hfeeders, ?_⟩
  rw [hg.sinkFeeder_eq_inputRow hc, hg'.sinkFeeder_eq_inputRow hc', hrow, hname, hfeeders]

end

/-- Nothing but the ports has changed. -/
structure Kept (g g' : Graph W α) : Prop where
  sinks : g'.sinks = g.sinks
  cursor : g'.cursor = g.cursor
  state : g'.state = g.state
  steps : g'.steps = g.steps
  count : g'.componentCount = g.componentCount
  component : ∀ id c, g.component? id = some c → ∃ c', g'.component? id = some c' ∧ c.Alike c'

theorem kept_linkEach (g : Graph W α) (pairs : List (PortRef × PortRef)) :
    g.Kept (g.linkEach pairs) := by
  induction pairs generalizing g with
  | nil => exact ⟨rfl, rfl, rfl, rfl, rfl, fun _ c hc => ⟨c, hc, .refl c⟩⟩
  | cons pair rest ih =>
    have hrest := ih (g.link pair.1 pair.2)
    refine ⟨hrest.sinks, hrest.cursor, hrest.state, hrest.steps,
      hrest.count.trans (componentCount_link ..), fun id c hc => ?_⟩
    obtain ⟨c₁, hc₁, halike⟩ := component?_link_alike g pair.1 pair.2 hc
    obtain ⟨c₂, hc₂, halike'⟩ := hrest.component id c₁ hc₁
    exact ⟨c₂, hc₂, halike.trans halike'⟩

theorem pairs_linkEach (g : Graph W α) (pairs : List (PortRef × PortRef)) :
    (g.linkEach pairs).connections.map Connection.pair =
      g.connections.map Connection.pair ++ pairs := by
  induction pairs generalizing g with
  | nil => exact (List.append_nil _).symm
  | cons pair rest ih =>
    have hrest := ih (g.link pair.1 pair.2)
    rw [connections_link, List.map_append, List.append_assoc] at hrest
    exact hrest

theorem Blind.linkEach {same : W → W → Prop} {g : Graph W α} (h : g.Blind same)
    (pairs : List (PortRef × PortRef)) : (g.linkEach pairs).Blind same := by
  induction pairs generalizing g with
  | nil => exact h
  | cons pair rest ih => exact ih h.link

theorem Wirable.twin {g : Graph W α} {pairs pairs' : List (PortRef × PortRef)} (hg : g.Coherent)
    (h : g.Wirable pairs) (hperm : pairs.Perm pairs') :
    (g.linkEach pairs).Twin (g.linkEach pairs') := by
  have hkept := g.kept_linkEach pairs
  have hkept' := g.kept_linkEach pairs'
  exact
    { sinks := hkept'.sinks.trans hkept.sinks.symm
      cursor := hkept'.cursor.trans hkept.cursor.symm
      state := hkept'.state.trans hkept.state.symm
      steps := hkept'.steps.trans hkept.steps.symm
      count := hkept'.count.trans hkept.count.symm
      component := by
        intro id c₁ hc₁
        have hthere : (g.component? id).isSome := by
          rw [component?_isSome_iff]
          have hlt := component?_isSome_iff.mp (Option.isSome_of_eq_some hc₁)
          have hcount : (g.linkEach pairs).components.length = g.components.length := hkept.count
          omega
        obtain ⟨c, hc⟩ := Option.isSome_iff_exists.mp hthere
        obtain ⟨c₁', hc₁', halike⟩ := hkept.component id c hc
        obtain ⟨c₂, hc₂, halike'⟩ := hkept'.component id c hc
        cases hc₁.symm.trans hc₁'
        refine ⟨c₂, hc₂, (h.coherent hg).looks ((h.perm hperm).coherent hg) hc₁ hc₂
          (halike'.name.trans halike.name.symm) (halike'.role.trans halike.role.symm)
          ((halike'.size .input).trans (halike.size .input).symm) fun pair => ?_⟩
        rw [pairs_linkEach, pairs_linkEach, List.mem_append, List.mem_append, hperm.mem_iff] }

/-- What comes of a graph and its session: the steps, each after world and what is shared were
stirred, and the end. -/
def liveOutAfter {β : Type} (reply : Reply W α β) (stirs : List (W × α → W × α)) :
    List (Except GraphError Status) × Session W α :=
  reply.graph.liveOut stirs reply.session

/--
If a number of requests to join ports are all granted, in one order, then they are in every other,
and the same ports are joined. From then on no steps can tell the order: whatever is done to the
world between them, they answer the same and the same is called, to the end of the graph.
-/
theorem order_irrelevant {g : Graph W α} (hreached : g.Reached) {same : W → W → Prop}
    {session : Session W α} (hindifferent : g.Indifferent same session.world)
    {pairs pairs' : List (PortRef × PortRef)} (hperm : pairs.Perm pairs')
    (hgranted : (g.joinEach pairs session).answer = .ok ()) :
    (g.joinEach pairs' session).answer = .ok () ∧
      ((g.joinEach pairs' session).graph.connections.map Connection.pair).Perm
        ((g.joinEach pairs session).graph.connections.map Connection.pair) ∧
      ∀ stirs : List (W × α → W × α),
        (∀ stir ∈ stirs, ∀ scene other, SameBeside same scene other →
          SameBeside same (stir scene) (stir other)) →
        (liveOutAfter (g.joinEach pairs' session) stirs).1 =
          (liveOutAfter (g.joinEach pairs session) stirs).1 ∧
        (liveOutAfter (g.joinEach pairs session) stirs).2.Beside same
          (g.joinEach pairs session).session.journal.hooks
          (g.joinEach pairs' session).session.journal.hooks
          (liveOutAfter (g.joinEach pairs' session) stirs).2 := by
  have hg := hreached.coherent
  have hworld := hindifferent.equivalence.refl session.world
  obtain ⟨hwirable, hroom⟩ :=
    wirable_of_joinEach hg hreached.acyclic hindifferent hworld hgranted
  obtain ⟨closed, now, hjoin, hclosed, hnow⟩ :=
    hwirable.joinEach hg hindifferent hroom hworld
  -- As many connections are made in either order, so the same rows are reserved for them.
  rw [hperm.length_eq] at hroom
  obtain ⟨closed', now', hjoin', hclosed', hnow'⟩ :=
    (hwirable.perm hperm).joinEach hg hindifferent hroom hworld
  rw [hjoin, hjoin']
  refine ⟨rfl, ?_, fun stirs hstirs => ?_⟩
  · rw [pairs_linkEach, pairs_linkEach]
    exact hperm.symm.append_left _
  · obtain ⟨_, journal⟩ := closed
    obtain ⟨_, journal'⟩ := closed'
    subst hclosed hclosed'
    exact (hwirable.twin hg hperm).liveOut_beside (hindifferent.blind.linkEach pairs) hstirs
      ⟨⟨hindifferent.equivalence.trans (hindifferent.equivalence.symm hnow) hnow', rfl⟩, [],
        (List.append_nil _).symm, (List.append_nil _).symm⟩

/-- A filter of two input ports that counts how often it was told of a connection, to no purpose. -/
def mixer : FilterClass Nat where
  name := "mixer"
  description := none
  instantiate _ _ := pure
    { inputCount := fun _ => 2
      outputCount := fun _ => 1
      inputConnected := fun _ told => told + 1
      iterator := fun _ upstream => pure (upstream.headD ⟨pure .ended⟩) }

def mixing : Graph Nat Unit :=
  empty.carryOut ⟨.plain 0, .empty⟩
    [.addSource tap "left" .empty .info, .addSource tap "right" .empty .info,
      .addFilter mixer "mixer" .empty .info, .addSink cup "cup"]

def mixingPairs : List (PortRef × PortRef) :=
  [(⟨⟨0⟩, .output, 0⟩, ⟨⟨2⟩, .input, 0⟩), (⟨⟨1⟩, .output, 0⟩, ⟨⟨2⟩, .input, 1⟩),
    (⟨⟨2⟩, .output, 0⟩, ⟨⟨3⟩, .input, 0⟩)]

theorem indifferent_mixing : mixing.Indifferent (fun _ _ => True) 0 where
  equivalence := ⟨fun _ => trivial, fun _ => trivial, fun _ _ => trivial⟩
  blind := by
    have hended : (⟨pure .ended⟩ : Iterator Nat).Blind fun _ _ => True := Act.blind_pure _ trivial
    intro ⟨i⟩ c hc
    match i, hc with
    | 0, hc | 1, hc =>
      cases hc
      exact fun _ => Act.blind_pure _ hended
    | 2, hc =>
      cases hc
      intro port upstream hupstream
      apply Act.blind_pure
      cases upstream with
      | nil => exact hended
      | cons first rest => exact hupstream first List.mem_cons_self
    | 3, hc =>
      cases hc
      exact ⟨⟨Act.blind_pure _ trivial, fun _ _ => Act.blind_pure _ trivial,
        fun _ _ h => h⟩, trivial⟩
  told := fun _ _ _ _ _ _ _ _ => trivial
  counted := by
    intro ⟨i⟩ c filter hc hrole now _
    match i, hc with
    | 0, hc | 1, hc | 3, hc =>
      cases hc
      cases hrole
    | 2, hc =>
      cases hc
      cases hrole
      exact Nat.le_refl 2

theorem order_irrelevant_mixing :
    mixing.Reached ∧ mixing.Indifferent (fun _ _ => True) 0 ∧
      mixingPairs.Perm mixingPairs.reverse ∧
      (mixing.joinEach mixingPairs ⟨.plain 0, .empty⟩).answer = .ok () ∧
      (mixing.joinEach mixingPairs.reverse ⟨.plain 0, .empty⟩).answer = .ok () := by
  have hreached : mixing.Reached := reachedFrom_carryOut ..
  have hperm : mixingPairs.Perm mixingPairs.reverse := (List.reverse_perm _).symm
  have hgranted : (mixing.joinEach mixingPairs ⟨.plain 0, .empty⟩).answer = .ok () := by
    decide +kernel
  have hindifferent : mixing.Indifferent (fun _ _ => True)
      (⟨.plain 0, .empty⟩ : Session Nat Unit).world := indifferent_mixing
  obtain ⟨hreversed, -, -⟩ := order_irrelevant hreached hindifferent hperm hgranted
  exact ⟨hreached, indifferent_mixing, hperm, hgranted, hreversed⟩

end Graph

end TraceFlow
