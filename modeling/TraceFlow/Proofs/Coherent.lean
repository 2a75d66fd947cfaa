import TraceFlow.Proofs.Extends

/-!
# What a graph says twice

The connections stand in a list, and every port holds the number of its own. The names stand in a
table, and every component has its own. The sinks stand in a list, and every component tells its
kind. In every graph that is reached these agree.
-/

namespace TraceFlow

namespace Connection

def endAt (c : Connection) : Direction → PortRef := Graph.ends c.upstream c.downstream

def Touches (c : Connection) (ref : PortRef) : Prop := c.upstream = ref ∨ c.downstream = ref

theorem touches_endAt (c : Connection) (direction : Direction) : c.Touches (c.endAt direction) := by
  cases direction
  · exact .inr rfl
  · exact .inl rfl

end Connection

namespace Graph

variable {W α : Type}

/-- All that a graph says twice agrees. -/
structure Coherent (g : Graph W α) : Prop where
  connection_id : ∀ (k : Nat) (c : Connection), g.connections[k]? = some c → c.id = ⟨k⟩
  upstream : ∀ c ∈ g.connections, c.upstream.direction = .output ∧ (g.port? c.upstream).isSome
  downstream : ∀ c ∈ g.connections, c.downstream.direction = .input ∧ (g.port? c.downstream).isSome
  holds_iff : ∀ ref id, g.holds? ref = some id ↔
    ∃ c, g.connections[id.index]? = some c ∧ c.Touches ref
  connectedCount : ∀ id direction table, g.table? id direction = some table →
    table.connectedCount = g.connections.countP fun c => (c.endAt direction).component = id
  table : ∀ id direction table, g.table? id direction = some table → table.direction = direction
  port : ∀ ref port, g.port? ref = some port →
    port.direction = ref.direction ∧ port.index = ref.index ∧
      port.name = s!"{ref.direction.stem}{ref.index}"
  find_iff : ∀ name id, g.find? name = some id ↔ g.name? id = some name
  sinks : g.sinks = g.ids.filter (g.kind? · = some .sink)
  sink_ports : ∀ id, g.kind? id = some .sink →
    g.portCount id .input = .ok 1 ∧ g.portCount id .output = .ok 0
  source_ports : ∀ id, g.kind? id = some .source → g.portCount id .input = .ok 0

theorem coherent_empty : (empty : Graph W α).Coherent where
  connection_id _ _ h := by simp [empty] at h
  upstream _ h := by simp [empty] at h
  downstream _ h := by simp [empty] at h
  holds_iff _ _ := by simp [holds?, port?, table?, component?, empty]
  connectedCount _ _ _ h := by simp [table?, component?, empty] at h
  table _ _ _ h := by simp [table?, component?, empty] at h
  port _ _ h := by simp [port?, table?, component?, empty] at h
  find_iff _ _ := by simp [find?, name?, component?, empty]
  sinks := rfl
  sink_ports _ h := by simp [kind?, component?, empty] at h
  source_ports _ h := by simp [kind?, component?, empty] at h

/-! ## Sinks move on -/

theorem Coherent.of_bare_eq {g g' : Graph W α} (h : g'.bare = g.bare) (hg : g.Coherent) :
    g'.Coherent := by
  have hconnections : g'.connections = g.connections := by
    rw [← connections_bare g', h, connections_bare]
  have hport (ref : PortRef) : g'.port? ref = g.port? ref := by
    rw [← port?_bare g', h, port?_bare]
  have htable (id : ComponentId) (d : Direction) : g'.table? id d = g.table? id d := by
    rw [← table?_bare g', h, table?_bare]
  have hcount (id : ComponentId) (d : Direction) : g'.portCount id d = g.portCount id d := by
    rw [← portCount_bare g', h, portCount_bare]
  have hkind (id : ComponentId) : g'.kind? id = g.kind? id := by
    rw [← kind?_bare g', h, kind?_bare]
  have hholds (ref : PortRef) : g'.holds? ref = g.holds? ref := by
    rw [← holds?_bare g', h, holds?_bare]
  exact
    { connection_id := by rw [hconnections]; exact hg.connection_id
      upstream := by simp only [hconnections, hport]; exact hg.upstream
      downstream := by simp only [hconnections, hport]; exact hg.downstream
      holds_iff := by simp only [hconnections, hholds]; exact hg.holds_iff
      connectedCount := by simp only [hconnections, htable]; exact hg.connectedCount
      table := by simp only [htable]; exact hg.table
      port := by simp only [hport]; exact hg.port
      find_iff := by
        intro name id
        rw [← find?_bare g', ← name?_bare g', h, find?_bare, name?_bare]
        exact hg.find_iff name id
      sinks := by
        rw [← sinks_bare g', ← ids_bare g', h, sinks_bare, ids_bare, hg.sinks]
        simp only [hkind]
      sink_ports := by simp only [hkind, hcount]; exact hg.sink_ports
      source_ports := by simp only [hkind, hcount]; exact hg.source_ports }

/-! ## A component is accepted -/

theorem Coherent.component_of_touches {g : Graph W α} (hg : g.Coherent) {c : Connection}
    {ref : PortRef} (hc : c ∈ g.connections) (h : c.Touches ref) :
    (g.component? ref.component).isSome := by
  rcases h with rfl | rfl
  · exact component?_isSome_of_port? (hg.upstream c hc).2
  · exact component?_isSome_of_port? (hg.downstream c hc).2

theorem Coherent.component_ne_nextId {g : Graph W α} (hg : g.Coherent) {c : Connection}
    {ref : PortRef} (hc : c ∈ g.connections) (h : c.Touches ref) : ref.component ≠ g.nextId := by
  intro hnext
  have hthere := hg.component_of_touches hc h
  rw [hnext, component?_nextId] at hthere
  cases hthere

theorem Fresh.table {g : Graph W α} {c : Component W α} (h : g.Fresh c) (direction : Direction) :
    c.table direction = .ofCount direction (c.table direction).size := by
  cases direction with
  | input => exact h.inputs
  | output => exact h.outputs

theorem Fresh.port?_accept {g : Graph W α} {c : Component W α} (h : g.Fresh c) {ref : PortRef}
    (href : ref.component = g.nextId) {port : Port} (hp : (g.accept c).port? ref = some port) :
    port = .fresh ref.direction ref.index := by
  have htable := table?_place_self g c ref.direction
  change (g.place c).port? ref = some port at hp
  unfold port? at hp
  rw [href, htable, Option.bind_some, h.table, PortTable.port?_ofCount] at hp
  split at hp
  · cases hp
    rfl
  · cases hp

theorem Fresh.holds?_accept {g : Graph W α} {c : Component W α} (h : g.Fresh c) {ref : PortRef}
    (href : ref.component = g.nextId) : (g.accept c).holds? ref = none := by
  unfold holds?
  cases hp : (g.accept c).port? ref with
  | none => rfl
  | some port =>
    rw [h.port?_accept href hp]
    rfl

theorem Fresh.sinks_accept {g : Graph W α} {c : Component W α}
    (hsinks : g.sinks = g.ids.filter (g.kind? · = some .sink)) :
    (g.accept c).sinks = (g.accept c).ids.filter ((g.accept c).kind? · = some .sink) := by
  have hids : (g.accept c).ids = g.ids ++ [g.nextId] := ids_place g c
  have hself : (g.accept c).kind? g.nextId = some c.kind := kind?_place_self g c
  have hold : g.ids.filter ((g.accept c).kind? · = some .sink) =
      g.ids.filter (g.kind? · = some .sink) := by
    apply List.filter_congr
    intro id hid
    have hne : id ≠ g.nextId := by
      rintro rfl
      simp [ids, nextId] at hid
    have hkind : (g.accept c).kind? id = g.kind? id := kind?_place_of_ne g c hne
    rw [hkind]
  have hlist : (g.accept c).sinks = if c.kind = .sink then g.sinks ++ [g.nextId] else g.sinks := rfl
  rw [hids, List.filter_append, hold, ← hsinks, hlist]
  by_cases hc : c.kind = .sink
  · rw [if_pos hc, List.filter_cons_of_pos (by rw [hself, hc]; rfl), List.filter_nil]
  · rw [if_neg hc, List.filter_cons_of_neg (by simp [hself, hc]), List.filter_nil,
      List.append_nil]

theorem Fresh.find_iff_accept {g : Graph W α} {c : Component W α} (h : g.Fresh c)
    (hg : ∀ name id, g.find? name = some id ↔ g.name? id = some name) (name : String)
    (id : ComponentId) :
    (g.accept c).find? name = some id ↔ (g.accept c).name? id = some name := by
  have hself : (g.accept c).name? g.nextId = some c.name := name?_place_self g c
  by_cases hname : name = c.name
  · subst hname
    have hfind : (g.accept c).find? c.name = some g.nextId := OrderedMap.get?_insert_self ..
    rw [hfind]
    by_cases hid : id = g.nextId
    · subst hid
      exact ⟨fun _ => hself, fun _ => rfl⟩
    · have hold : (g.accept c).name? id = g.name? id := name?_place_of_ne g c hid
      rw [hold, ← hg, h.name]
      constructor
      · intro hsame
        exact absurd (Option.some.inj hsame).symm hid
      · intro hfree
        cases hfree
  · have hfind : (g.accept c).find? name = g.find? name := OrderedMap.get?_insert_of_ne _ hname _
    rw [hfind, hg]
    by_cases hid : id = g.nextId
    · subst hid
      rw [hself, name?_nextId]
      constructor
      · intro habsent
        cases habsent
      · intro hsame
        exact absurd (Option.some.inj hsame).symm hname
    · have hold : (g.accept c).name? id = g.name? id := name?_place_of_ne g c hid
      rw [hold]

theorem Coherent.accept {g : Graph W α} {c : Component W α} (hg : g.Coherent) (h : g.Fresh c) :
    (g.accept c).Coherent where
  connection_id := hg.connection_id
  upstream k hk := by
    have hport : (g.accept c).port? k.upstream = g.port? k.upstream :=
      port?_place_of_isSome c (hg.upstream k hk).2
    rw [hport]
    exact hg.upstream k hk
  downstream k hk := by
    have hport : (g.accept c).port? k.downstream = g.port? k.downstream :=
      port?_place_of_isSome c (hg.downstream k hk).2
    rw [hport]
    exact hg.downstream k hk
  holds_iff ref id := by
    by_cases href : ref.component = g.nextId
    · rw [h.holds?_accept href]
      constructor
      · intro hnone
        cases hnone
      · rintro ⟨k, hk, htouches⟩
        exact absurd href (hg.component_ne_nextId (List.mem_of_getElem? hk) htouches)
    · have hport : (g.accept c).port? ref = g.port? ref := port?_place_of_ne g c href
      unfold holds?
      rw [hport]
      exact hg.holds_iff ref id
  connectedCount id direction table htable := by
    by_cases hid : id = g.nextId
    · subst hid
      cases (table?_place_self g c direction).symm.trans htable
      rw [h.table, PortTable.connectedCount_ofCount, eq_comm, List.countP_eq_zero]
      intro k hk hend
      exact hg.component_ne_nextId hk (k.touches_endAt direction) (of_decide_eq_true hend)
    · rw [show (g.accept c).table? id direction = g.table? id direction from
        table?_place_of_ne g c hid direction] at htable
      exact hg.connectedCount id direction table htable
  table id direction table htable := by
    by_cases hid : id = g.nextId
    · subst hid
      cases (table?_place_self g c direction).symm.trans htable
      rw [h.table]
      rfl
    · rw [show (g.accept c).table? id direction = g.table? id direction from
        table?_place_of_ne g c hid direction] at htable
      exact hg.table id direction table htable
  port ref port hp := by
    by_cases href : ref.component = g.nextId
    · cases h.port?_accept href hp
      exact ⟨rfl, rfl, rfl⟩
    · exact hg.port ref port ((port?_place_of_ne g c href).symm.trans hp)
  find_iff := h.find_iff_accept hg.find_iff
  sinks := Fresh.sinks_accept hg.sinks
  sink_ports id hkind := by
    by_cases hid : id = g.nextId
    · subst hid
      have hsink := h.sink (Option.some.inj ((kind?_place_self g c).symm.trans hkind))
      exact ⟨(portCount_place_self g c .input).trans (congrArg _ hsink.1),
        (portCount_place_self g c .output).trans (congrArg _ hsink.2)⟩
    · have hsink := hg.sink_ports id ((kind?_place_of_ne g c hid).symm.trans hkind)
      exact ⟨(portCount_place_of_ne g c hid .input).trans hsink.1,
        (portCount_place_of_ne g c hid .output).trans hsink.2⟩
  source_ports id hkind := by
    by_cases hid : id = g.nextId
    · subst hid
      have hsource := h.source (Option.some.inj ((kind?_place_self g c).symm.trans hkind))
      exact (portCount_place_self g c .input).trans (congrArg _ hsource)
    · exact (portCount_place_of_ne g c hid .input).trans
        (hg.source_ports id ((kind?_place_of_ne g c hid).symm.trans hkind))

/-! ## Two ports are joined -/

theorem getElem?_concat_eq_some_iff {l : List Connection} {last c : Connection} {k : Nat} :
    (l ++ [last])[k]? = some c ↔ l[k]? = some c ∨ k = l.length ∧ last = c := by
  rcases Nat.lt_trichotomy k l.length with hlt | rfl | hgt
  · rw [List.getElem?_append_left hlt]
    constructor
    · exact .inl
    · rintro (h | ⟨rfl, -⟩)
      · exact h
      · exact absurd hlt (Nat.lt_irrefl _)
  · simp
  · rw [List.getElem?_eq_none (by simp; omega), List.getElem?_eq_none (by omega)]
    constructor
    · intro h
      cases h
    · rintro (h | ⟨rfl, -⟩)
      · cases h
      · exact absurd hgt (Nat.lt_irrefl _)

theorem Joinable.holds_iff_link {g : Graph W α} {upstream downstream : PortRef}
    (h : g.Joinable upstream downstream)
    (hg : ∀ ref id, g.holds? ref = some id ↔
      ∃ c, g.connections[id.index]? = some c ∧ c.Touches ref)
    (ref : PortRef) (id : ConnectionId) :
    (g.link upstream downstream).holds? ref = some id ↔
      ∃ c, (g.link upstream downstream).connections[id.index]? = some c ∧ c.Touches ref := by
  rw [connections_link]
  simp only [getElem?_concat_eq_some_iff]
  by_cases hend : ref = upstream ∨ ref = downstream
  · have hthere : (g.port? ref).isSome ∧ g.holds? ref = none := by
      rcases hend with rfl | rfl
      · exact ⟨h.upstream_port, h.upstream_free⟩
      · exact ⟨h.downstream_port, h.downstream_free⟩
    rw [holds?_link_of_end h.ne hend hthere.1]
    constructor
    · intro hid
      cases hid
      exact ⟨_, .inr ⟨rfl, rfl⟩, hend.imp Eq.symm Eq.symm⟩
    · -- No connection that was there before touches a free port.
      rintro ⟨c, hold | ⟨hid, -⟩, htouches⟩
      · have hheld := (hg ref id).mpr ⟨c, hold, htouches⟩
        rw [hthere.2] at hheld
        cases hheld
      · cases id
        cases hid
        rfl
  · obtain ⟨hup, hdown⟩ := not_or.mp hend
    rw [holds?_link_of_ne g hup hdown, hg]
    constructor
    · rintro ⟨c, hc, htouches⟩
      exact ⟨c, .inl hc, htouches⟩
    · rintro ⟨c, hold | ⟨-, rfl⟩, htouches⟩
      · exact ⟨c, hold, htouches⟩
      · exact absurd (htouches.imp Eq.symm Eq.symm) hend

theorem Joinable.end_free {g : Graph W α} {upstream downstream : PortRef}
    (h : g.Joinable upstream downstream) (direction : Direction) :
    (ends upstream downstream direction).direction = direction ∧
      (g.port? (ends upstream downstream direction)).isSome ∧
      g.holds? (ends upstream downstream direction) = none := by
  cases direction with
  | input => exact ⟨h.input, h.downstream_port, h.downstream_free⟩
  | output => exact ⟨h.output, h.upstream_port, h.upstream_free⟩

theorem Joinable.connectedCount_link {g : Graph W α} {upstream downstream : PortRef}
    (h : g.Joinable upstream downstream)
    (hg : ∀ id direction table, g.table? id direction = some table →
      table.connectedCount = g.connections.countP fun c => (c.endAt direction).component = id)
    (id : ComponentId) (direction : Direction) (table : PortTable)
    (htable : (g.link upstream downstream).table? id direction = some table) :
    table.connectedCount = (g.link upstream downstream).connections.countP fun c =>
      (c.endAt direction).component = id := by
  rw [connections_link, List.countP_append, List.countP_singleton]
  have hnew : Connection.endAt ⟨⟨g.connections.length⟩, upstream, downstream⟩ direction =
      ends upstream downstream direction := rfl
  rw [hnew]
  obtain ⟨hdirection, hthere, hfree⟩ := h.end_free direction
  by_cases hid : id = (ends upstream downstream direction).component
  · rw [hid, table?_link_self g h.output h.input, ← hid] at htable
    obtain ⟨old, hold, rfl⟩ := Option.map_eq_some_iff.mp htable
    obtain ⟨port, hport⟩ := Option.isSome_iff_exists.mp hthere
    unfold holds? at hfree
    rw [hport, Option.bind_some] at hfree
    unfold port? at hport
    rw [hdirection, ← hid, hold, Option.bind_some] at hport
    rw [PortTable.connectedCount_attach hport hfree, hg id direction old hold]
    simp [hid]
  · rw [table?_link_of_ne g h.output h.input hid] at htable
    rw [hg id direction table htable]
    simp [Ne.symm hid]

theorem Coherent.link {g : Graph W α} {upstream downstream : PortRef} (hg : g.Coherent)
    (h : g.Joinable upstream downstream) : (g.link upstream downstream).Coherent where
  connection_id k c hc := by
    rcases getElem?_concat_eq_some_iff.mp hc with hold | ⟨rfl, rfl⟩
    · exact hg.connection_id k c hold
    · rfl
  upstream c hc := by
    rw [isSome_port?_link]
    rcases List.mem_append.mp hc with hold | hnew
    · exact hg.upstream c hold
    · cases List.mem_singleton.mp hnew
      exact ⟨h.output, h.upstream_port⟩
  downstream c hc := by
    rw [isSome_port?_link]
    rcases List.mem_append.mp hc with hold | hnew
    · exact hg.downstream c hold
    · cases List.mem_singleton.mp hnew
      exact ⟨h.input, h.downstream_port⟩
  holds_iff := h.holds_iff_link hg.holds_iff
  connectedCount := h.connectedCount_link hg.connectedCount
  table id direction table htable := by
    have hsame := map_direction_link g upstream downstream id direction
    rw [htable, Option.map_some] at hsame
    obtain ⟨old, hold, hdirection⟩ := Option.map_eq_some_iff.mp hsame.symm
    rw [← hdirection]
    exact hg.table id direction old hold
  port ref port hp := by
    by_cases hend : ref = upstream ∨ ref = downstream
    · rw [port?_link_of_end g h.ne hend] at hp
      obtain ⟨old, hold, rfl⟩ := Option.map_eq_some_iff.mp hp
      exact hg.port ref old hold
    · obtain ⟨hup, hdown⟩ := not_or.mp hend
      rw [port?_link_of_ne g hup hdown] at hp
      exact hg.port ref port hp
  find_iff name id := by
    rw [name?_link]
    exact hg.find_iff name id
  sinks := by
    simp only [ids_link, kind?_link]
    exact hg.sinks
  sink_ports id hkind := by
    rw [kind?_link] at hkind
    rw [portCount_link, portCount_link]
    exact hg.sink_ports id hkind
  source_ports id hkind := by
    rw [kind?_link] at hkind
    rw [portCount_link]
    exact hg.source_ports id hkind

/-! ## A row of input ports grows -/

theorem Coherent.growInputs {g : Graph W α} {id : ComponentId} (hg : g.Coherent)
    (h : g.kind? id = some .filter) (count : Nat) : (g.growInputs id count).Coherent where
  connection_id := hg.connection_id
  upstream c hc := by
    obtain ⟨hdirection, hport⟩ := hg.upstream c hc
    rw [port?_growInputs_of_isSome hport]
    exact ⟨hdirection, hport⟩
  downstream c hc := by
    obtain ⟨hdirection, hport⟩ := hg.downstream c hc
    rw [port?_growInputs_of_isSome hport]
    exact ⟨hdirection, hport⟩
  holds_iff ref other := by
    rw [holds?_growInputs]
    exact hg.holds_iff ref other
  connectedCount other direction table htable := by
    rcases table?_growInputs htable with hold | ⟨old, hold, rfl⟩
    · exact hg.connectedCount other direction table hold
    · rw [PortTable.connectedCount_grow]
      exact hg.connectedCount other direction old hold
  table other direction table htable := by
    rcases table?_growInputs htable with hold | ⟨old, hold, rfl⟩
    · exact hg.table other direction table hold
    · exact hg.table other direction old hold
  port ref port hp := by
    rcases port?_growInputs g id count ref with hsame | ⟨-, href, hdirection, c, hc, hnew⟩
    · rw [hsame] at hp
      exact hg.port ref port hp
    · rw [hnew] at hp
      cases hp
      have hinput : c.inputs.direction = .input :=
        hg.table id .input c.inputs (by unfold table?; rw [hc]; rfl)
      rw [hinput, hdirection]
      exact ⟨rfl, rfl, rfl⟩
  find_iff name other := by
    rw [name?_growInputs]
    exact hg.find_iff name other
  sinks := by
    simp only [ids_growInputs, kind?_growInputs]
    exact hg.sinks
  sink_ports other hkind := by
    rw [kind?_growInputs] at hkind
    have hne : other ≠ id := by
      rintro rfl
      rw [h] at hkind
      cases hkind
    rw [portCount_growInputs_of_ne g hne, portCount_growInputs_of_ne g hne]
    exact hg.sink_ports other hkind
  source_ports other hkind := by
    rw [kind?_growInputs] at hkind
    have hne : other ≠ id := by
      rintro rfl
      rw [h] at hkind
      cases hkind
    rw [portCount_growInputs_of_ne g hne]
    exact hg.source_ports other hkind

/-! ## Every past -/

theorem Coherent.change {g g' : Graph W α} (hg : g.Coherent) (h : g.Change g') : g'.Coherent := by
  cases h with
  | phases h => exact hg.of_bare_eq h
  | accept h => exact hg.accept h
  | link h => exact hg.link h
  | grow h count => exact hg.growInputs h count

theorem Reached.coherent {g : Graph W α} (h : g.Reached) : g.Coherent :=
  h.keeps (fun _ _ hchange hg => hg.change hchange) coherent_empty

theorem Coherent.eq_of_touches {g : Graph W α} (hg : g.Coherent) {k l : Nat} {c d : Connection}
    {ref : PortRef} (hk : g.connections[k]? = some c) (hl : g.connections[l]? = some d)
    (hc : c.Touches ref) (hd : d.Touches ref) : k = l := by
  have hfirst : g.holds? ref = some ⟨k⟩ := (hg.holds_iff ref ⟨k⟩).mpr ⟨c, hk, hc⟩
  have hsecond : g.holds? ref = some ⟨l⟩ := (hg.holds_iff ref ⟨l⟩).mpr ⟨d, hl, hd⟩
  rw [hfirst] at hsecond
  cases hsecond
  rfl

theorem Coherent.eq_of_name {g : Graph W α} (hg : g.Coherent) {id other : ComponentId}
    {name : String} (h : g.name? id = some name) (h' : g.name? other = some name) : id = other := by
  have hfirst := (hg.find_iff name id).mpr h
  have hsecond := (hg.find_iff name other).mpr h'
  rw [hfirst] at hsecond
  cases hsecond
  rfl

/--
In every graph that is reached all agrees: no port belongs to two connections, and no name to two
components. Whatever it is asked afterwards, it keeps what it has.
-/
theorem coherent_of_reached {g : Graph W α} (h : g.Reached) :
    g.Coherent ∧
      (∀ (k l : Nat) (c d : Connection) (ref : PortRef), g.connections[k]? = some c →
        g.connections[l]? = some d → c.Touches ref → d.Touches ref → k = l) ∧
      (∀ id other name, g.name? id = some name → g.name? other = some name → id = other) ∧
      ∀ later, g.ReachedFrom later → g.Extends later := by
  have hg := h.coherent
  refine ⟨hg, ?_, ?_, ?_⟩
  · intro k l c d ref hk hl hc hd
    exact hg.eq_of_touches hk hl hc hd
  · intro id other name hid hother
    exact hg.eq_of_name hid hother
  · intro later hlater
    exact hlater.extends

def cup : Sink W Unit where
  setUp := pure ()
  consume _ := pure .ended
  tidyUp := id

def cupIn : PortRef := ⟨⟨1⟩, .input, 0⟩

def tapAndCup : Graph Nat Unit :=
  empty.carryOut ⟨.plain 1, .empty⟩
    [.addSource tap "tap" .empty .info, .addSink cup "cup", .connect tapOut cupIn]

theorem coherent_tapAndCup :
    tapAndCup.connections = [⟨⟨0⟩, tapOut, cupIn⟩] ∧ tapAndCup.sinks = [⟨1⟩] ∧
      tapAndCup.Coherent ∧
      tapAndCup.Extends (tapAndCup.addSink cup "saucer" ⟨.plain 1, .empty⟩).graph := by
  have hreached : tapAndCup.Reached := reachedFrom_carryOut ..
  have hlater : tapAndCup.ReachedFrom (tapAndCup.addSink cup "saucer" ⟨.plain 1, .empty⟩).graph :=
    .step (.addSink cup "saucer") ⟨.plain 1, .empty⟩ .refl
  obtain ⟨hcoherent, -, -, hextends⟩ := coherent_of_reached hreached
  exact ⟨by decide +kernel, by decide +kernel, hcoherent, hextends _ hlater⟩

end Graph

end TraceFlow
