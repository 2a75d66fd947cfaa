import TraceFlow.Proofs.Acyclic

/-!
# Which iterators the sinks demand

The walk from a sink asks for every iterator on its way, and it remembers none. A port is asked for
once per path from it to a sink; so some port is asked for twice exactly when the paths fork.
-/

namespace TraceFlow.Graph

variable {W α : Type}

/-! ## What is asked for -/

/-- To make the iterator behind the port, the one behind the callee is made first. -/
def Calls (g : Graph W α) (port callee : PortRef) : Prop := callee ∈ g.callees port

/-- The ports whose iterators are made for the one behind a port, in this order, its own last. -/
def ordersWithin (g : Graph W α) : Nat → PortRef → List PortRef
  | 0, _ => []
  | depth + 1, port => (g.callees port).flatMap (g.ordersWithin depth) ++ [port]

def orders (g : Graph W α) (port : PortRef) : List PortRef := g.ordersWithin g.componentCount port

/-- The ports whose iterators are made for some components to read from. -/
def demandOf (g : Graph W α) (ids : List ComponentId) : List PortRef :=
  ids.flatMap fun id => (g.feedersOf id).flatMap g.orders

def demand (g : Graph W α) : List PortRef := g.demandOf g.sinks

theorem mem_ordersWithin {g : Graph W α} {depth : Nat} {port other : PortRef}
    (h : g.NestsWithin depth port) :
    other ∈ g.ordersWithin depth port ↔ Relation.ReflTransGen g.Calls port other := by
  induction depth generalizing port with
  | zero => exact h.elim
  | succ depth ih =>
    unfold ordersWithin
    rw [List.mem_append, List.mem_flatMap, List.mem_singleton]
    constructor
    · rintro (⟨callee, hcallee, hother⟩ | rfl)
      · exact ((ih (h callee hcallee)).mp hother).head hcallee
      · exact .refl
    · intro hreach
      rcases hreach.cases_head with rfl | ⟨callee, hcallee, hrest⟩
      · exact .inr rfl
      · exact .inl ⟨callee, hcallee, (ih (h callee hcallee)).mpr hrest⟩

theorem Coherent.nests_of_feeder {g : Graph W α} (hg : g.Coherent) (hacyclic : g.Acyclic)
    {id : ComponentId} {port : PortRef} (h : port ∈ g.feedersOf id) :
    g.NestsWithin g.componentCount port :=
  nestsWithin_componentCount hg hacyclic (hg.component_of_feeds (hg.feeds_of_feeder h)).1

theorem mem_demand {g : Graph W α} (hg : g.Coherent) (hacyclic : g.Acyclic) {port : PortRef} :
    port ∈ g.demand ↔
      ∃ id ∈ g.sinks, ∃ root ∈ g.feedersOf id, Relation.ReflTransGen g.Calls root port := by
  unfold demand demandOf
  simp only [List.mem_flatMap]
  constructor
  · rintro ⟨id, hid, root, hroot, hport⟩
    exact ⟨id, hid, root, hroot, (mem_ordersWithin (hg.nests_of_feeder hacyclic hroot)).mp hport⟩
  · rintro ⟨id, hid, root, hroot, hport⟩
    exact ⟨id, hid, root, hroot, (mem_ordersWithin (hg.nests_of_feeder hacyclic hroot)).mpr hport⟩

theorem mem_demand_of_reaches {g : Graph W α} (hg : g.Coherent) (hacyclic : g.Acyclic)
    {port other : PortRef} (h : port ∈ g.demand)
    (hreach : Relation.ReflTransGen g.Calls port other) : other ∈ g.demand := by
  obtain ⟨id, hid, root, hroot, hport⟩ := (mem_demand hg hacyclic).mp h
  exact (mem_demand hg hacyclic).mpr ⟨id, hid, root, hroot, hport.trans hreach⟩

/-! ## Where a port leads -/

theorem Coherent.eq_of_upstream {g : Graph W α} (hg : g.Coherent) {c d : Connection}
    (hc : c ∈ g.connections) (hd : d ∈ g.connections) (h : c.upstream = d.upstream) : c = d := by
  obtain ⟨k, hk⟩ := List.mem_iff_getElem?.mp hc
  obtain ⟨l, hl⟩ := List.mem_iff_getElem?.mp hd
  cases hg.eq_of_touches hk hl (.inl rfl) (.inl h.symm)
  exact Option.some.inj (hk.symm.trans hl)

theorem Coherent.eq_of_feeder {g : Graph W α} (hg : g.Coherent) {id other : ComponentId}
    {port : PortRef} (h : port ∈ g.feedersOf id) (h' : port ∈ g.feedersOf other) : id = other := by
  obtain ⟨c, hc, hup, rfl⟩ := hg.mem_feedersOf.mp h
  obtain ⟨d, hd, hup', rfl⟩ := hg.mem_feedersOf.mp h'
  rw [hg.eq_of_upstream hc hd (hup.trans hup'.symm)]

theorem Coherent.nodup_feedersOf {g : Graph W α} (hg : g.Coherent) (id : ComponentId) :
    (g.feedersOf id).Nodup := by
  unfold feedersOf
  split
  · next component hcomponent =>
    apply List.pairwise_filterMap.mpr
    apply List.pairwise_iff_getElem.mpr
    intro i j hi hj hlt up hup up' hup' hsame
    subst hsame
    obtain ⟨k, hk, horigin⟩ := Option.bind_eq_some_iff.mp hup
    obtain ⟨l, hl, horigin'⟩ := Option.bind_eq_some_iff.mp hup'
    obtain ⟨c, hc, hcup⟩ := Option.map_eq_some_iff.mp horigin
    obtain ⟨d, hd, hdup⟩ := Option.map_eq_some_iff.mp horigin'
    obtain ⟨c', hc', hcdown⟩ := hg.downstream_of_holds rfl
      (holds?_of_input hcomponent (List.getElem?_eq_getElem hi) hk)
    obtain ⟨d', hd', hddown⟩ := hg.downstream_of_holds rfl
      (holds?_of_input hcomponent (List.getElem?_eq_getElem hj) hl)
    cases hc.symm.trans hc'
    cases hd.symm.trans hd'
    -- One connection comes from that port, and it leads to one input port only.
    cases hg.eq_of_upstream (List.mem_of_getElem? hc) (List.mem_of_getElem? hd)
      (hcup.trans hdup.symm)
    cases hcdown.symm.trans hddown
    exact Nat.lt_irrefl _ hlt
  · exact List.nodup_nil

theorem kind_of_calls {g : Graph W α} {port callee : PortRef} (h : g.Calls port callee) :
    g.kind? port.component = some .filter := by
  unfold Calls callees at h
  split at h
  · assumption
  · cases h

theorem portCount_ne_zero {g : Graph W α} {ref : PortRef} (h : (g.port? ref).isSome) :
    g.portCount ref.component ref.direction ≠ .ok 0 := by
  obtain ⟨port, hport⟩ := Option.isSome_iff_exists.mp h
  obtain ⟨table, htable, hindex⟩ := Option.bind_eq_some_iff.mp hport
  have hlt : ref.index < table.size :=
    PortTable.port?_isSome_iff.mp (Option.isSome_of_eq_some hindex)
  unfold portCount
  rw [htable]
  intro hzero
  have := Except.ok.inj hzero
  omega

theorem Coherent.kind_of_between {g : Graph W α} (hg : g.Coherent) {c d : Connection}
    (hc : c ∈ g.connections) (hd : d ∈ g.connections)
    (h : c.downstream.component = d.upstream.component) :
    g.kind? d.upstream.component = some .filter := by
  have hin := portCount_ne_zero (hg.downstream c hc).2
  have hout := portCount_ne_zero (hg.upstream d hd).2
  rw [(hg.downstream c hc).1, h] at hin
  rw [(hg.upstream d hd).1] at hout
  have hthere := hg.component_of_touches hd (.inl rfl)
  cases hkind : g.kind? d.upstream.component with
  | none =>
    unfold kind? at hkind
    rw [Option.map_eq_none_iff] at hkind
    rw [hkind] at hthere
    cases hthere
  | some kind =>
    cases kind with
    | source => exact absurd (hg.source_ports _ hkind) hin
    | filter => rfl
    | sink => exact absurd (hg.sink_ports _ hkind).2 hout

theorem Coherent.calls_iff {g : Graph W α} (hg : g.Coherent) {c d : Connection}
    (hc : c ∈ g.connections) (hd : d ∈ g.connections) :
    g.Calls d.upstream c.upstream ↔ c.downstream.component = d.upstream.component := by
  constructor
  · intro h
    exact hg.eq_of_feeder (hg.mem_feedersOf.mpr ⟨c, hc, rfl, rfl⟩) (mem_feedersOf_of_callee h)
  · intro h
    unfold Calls callees
    rw [if_pos (hg.kind_of_between hc hd h)]
    exact hg.mem_feedersOf.mpr ⟨c, hc, rfl, h⟩

theorem Coherent.kind_of_sink {g : Graph W α} (hg : g.Coherent) {id : ComponentId}
    (h : id ∈ g.sinks) : g.kind? id = some .sink := by
  rw [hg.sinks] at h
  exact of_decide_eq_true (List.mem_filter.mp h).2

def LeadsToSink (g : Graph W α) (c : Connection) : Prop :=
  ∃ id ∈ g.sinks, Relation.ReflTransGen g.Feeds c.downstream.component id

theorem mem_demand_iff {g : Graph W α} (hg : g.Coherent) (hacyclic : g.Acyclic) {port : PortRef} :
    port ∈ g.demand ↔ ∃ c ∈ g.connections, c.upstream = port ∧ g.LeadsToSink c := by
  rw [mem_demand hg hacyclic]
  constructor
  · rintro ⟨id, hid, root, hroot, hreach⟩
    induction hreach with
    | refl =>
      obtain ⟨c, hc, hup, hdown⟩ := hg.mem_feedersOf.mp hroot
      exact ⟨c, hc, hup, id, hid, by rw [hdown]⟩
    | tail _ hcalls ih =>
      obtain ⟨d, hd, rfl, sink, hsink, hlead⟩ := ih
      obtain ⟨c, hc, rfl, hdown⟩ := hg.mem_feedersOf.mp (mem_feedersOf_of_callee hcalls)
      exact ⟨c, hc, rfl, sink, hsink, hlead.head ⟨d, hd, hdown.symm, rfl⟩⟩
  · rintro ⟨c, hc, rfl, id, hid, hlead⟩
    generalize hfirst : c.downstream.component = first at hlead
    induction hlead using Relation.ReflTransGen.head_induction_on generalizing c with
    | refl => exact ⟨id, hid, c.upstream, hg.mem_feedersOf.mpr ⟨c, hc, rfl, hfirst⟩, .refl⟩
    | head hfeeds _ ih =>
      obtain ⟨d, hd, hup, hdown⟩ := hfeeds
      obtain ⟨sink, hsink, root, hroot, hreach⟩ := ih d hd hdown
      have hcalls := (hg.calls_iff hc hd).mpr (hfirst.trans hup.symm)
      exact ⟨sink, hsink, root, hroot, hreach.tail hcalls⟩

/-! ## Ports asked for once -/

/-- No port is demanded by two others. -/
def SoleCaller (g : Graph W α) : Prop :=
  ∀ port other callee, port ∈ g.demand → other ∈ g.demand →
    g.Calls port callee → g.Calls other callee → port = other

theorem Coherent.feeds_of_calls {g : Graph W α} (hg : g.Coherent) {port other : PortRef}
    (h : Relation.TransGen g.Calls port other) :
    Relation.TransGen g.Feeds other.component port.component := by
  induction h with
  | single hcalls => exact .single (hg.feeds_of_callee hcalls)
  | tail _ hcalls ih => exact .head (hg.feeds_of_callee hcalls) ih

theorem not_calls_back {g : Graph W α} (hg : g.Coherent) (hacyclic : g.Acyclic)
    {port callee : PortRef} (h : g.Calls port callee)
    (hback : Relation.ReflTransGen g.Calls callee port) : False :=
  hacyclic _ (hg.feeds_of_calls (Relation.TransGen.head' h hback))

/-- Of two demanded ports with a common one below, one is below the other. -/
theorem SoleCaller.reaches_or_reaches {g : Graph W α} (hsole : g.SoleCaller) (hg : g.Coherent)
    (hacyclic : g.Acyclic) {port other below : PortRef} (hport : port ∈ g.demand)
    (hother : other ∈ g.demand) (h : Relation.ReflTransGen g.Calls port below)
    (h' : Relation.ReflTransGen g.Calls other below) :
    Relation.ReflTransGen g.Calls port other ∨ Relation.ReflTransGen g.Calls other port := by
  induction h with
  | refl => exact .inr h'
  | tail hbefore hcalls ih =>
    rcases Relation.ReflTransGen.cases_tail h' with rfl | ⟨last, hlast, hcalls'⟩
    · exact .inl (hbefore.tail hcalls)
    · cases hsole _ _ _ (mem_demand_of_reaches hg hacyclic hport hbefore)
        (mem_demand_of_reaches hg hacyclic hother hlast) hcalls hcalls'
      exact ih hlast

theorem SoleCaller.eq_of_siblings {g : Graph W α} (hsole : g.SoleCaller) (hg : g.Coherent)
    (hacyclic : g.Acyclic) {port first last : PortRef} (hport : port ∈ g.demand)
    (hfirst : g.Calls port first) (hlast : g.Calls port last)
    (h : Relation.ReflTransGen g.Calls first last) : first = last := by
  rcases Relation.ReflTransGen.cases_tail h with rfl | ⟨before, hbefore, hcalls⟩
  · rfl
  · have hmem := mem_demand_of_reaches hg hacyclic hport (.head hfirst hbefore)
    cases hsole _ _ _ hmem hport hcalls hlast
    exact (not_calls_back hg hacyclic hfirst hbefore).elim

theorem SoleCaller.nodup_ordersWithin {g : Graph W α} (hsole : g.SoleCaller) (hg : g.Coherent)
    (hacyclic : g.Acyclic) {depth : Nat} {port : PortRef} (hnests : g.NestsWithin depth port)
    (hport : port ∈ g.demand) : (g.ordersWithin depth port).Nodup := by
  induction depth generalizing port with
  | zero => exact hnests.elim
  | succ depth ih =>
    have hdemand (callee : PortRef) (hcallee : g.Calls port callee) : callee ∈ g.demand :=
      mem_demand_of_reaches hg hacyclic hport (.single hcallee)
    unfold ordersWithin
    refine List.nodup_append.mpr ⟨List.nodup_flatMap.mpr ⟨?_, ?_⟩, List.nodup_singleton _, ?_⟩
    · intro callee hcallee
      exact ih (hnests callee hcallee) (hdemand callee hcallee)
    · have hnodup : (g.callees port).Nodup := by
        unfold callees
        split
        · exact hg.nodup_feedersOf _
        · exact List.nodup_nil
      apply hnodup.pairwise_of_forall_ne
      intro first hfirst last hlast hne below hbelow hbelow'
      have hreach := (mem_ordersWithin (hnests first hfirst)).mp hbelow
      have hreach' := (mem_ordersWithin (hnests last hlast)).mp hbelow'
      rcases hsole.reaches_or_reaches hg hacyclic (hdemand first hfirst) (hdemand last hlast)
        hreach hreach' with hdown | hdown
      · exact hne (hsole.eq_of_siblings hg hacyclic hport hfirst hlast hdown)
      · exact hne (hsole.eq_of_siblings hg hacyclic hport hlast hfirst hdown).symm
    · intro other hother _ hself hsame
      cases List.mem_singleton.mp hself
      cases hsame
      obtain ⟨callee, hcallee, hmem⟩ := List.mem_flatMap.mp hother
      exact not_calls_back hg hacyclic hcallee
        ((mem_ordersWithin (hnests callee hcallee)).mp hmem)

theorem Coherent.eq_of_reaches_root {g : Graph W α} (hg : g.Coherent) {id : ComponentId}
    {port root : PortRef} (hid : id ∈ g.sinks) (hroot : root ∈ g.feedersOf id)
    (h : Relation.ReflTransGen g.Calls port root) : port = root := by
  rcases Relation.ReflTransGen.cases_tail h with rfl | ⟨before, -, hcalls⟩
  · rfl
  · have hkind := kind_of_calls hcalls
    rw [hg.eq_of_feeder (mem_feedersOf_of_callee hcalls) hroot, hg.kind_of_sink hid] at hkind
    cases hkind

theorem SoleCaller.eq_of_roots {g : Graph W α} (hsole : g.SoleCaller) (hg : g.Coherent)
    (hacyclic : g.Acyclic) {id other : ComponentId} (hid : id ∈ g.sinks) (hother : other ∈ g.sinks)
    {root root' below : PortRef} (hroot : root ∈ g.feedersOf id)
    (hroot' : root' ∈ g.feedersOf other) (hbelow : below ∈ g.orders root)
    (hbelow' : below ∈ g.orders root') : root = root' := by
  have hreach := (mem_ordersWithin (hg.nests_of_feeder hacyclic hroot)).mp hbelow
  have hreach' := (mem_ordersWithin (hg.nests_of_feeder hacyclic hroot')).mp hbelow'
  have hmem := (mem_demand hg hacyclic).mpr ⟨id, hid, root, hroot, .refl⟩
  have hmem' := (mem_demand hg hacyclic).mpr ⟨other, hother, root', hroot', .refl⟩
  rcases hsole.reaches_or_reaches hg hacyclic hmem hmem' hreach hreach' with hdown | hdown
  · exact hg.eq_of_reaches_root hother hroot' hdown
  · exact (hg.eq_of_reaches_root hid hroot hdown).symm

theorem SoleCaller.nodup_demand {g : Graph W α} (hsole : g.SoleCaller) (hg : g.Coherent)
    (hacyclic : g.Acyclic) : g.demand.Nodup := by
  have hsinks : g.sinks.Nodup := by
    rw [hg.sinks]
    exact g.nodup_ids.filter _
  refine List.nodup_flatMap.mpr ⟨?_, ?_⟩
  · intro id hid
    refine List.nodup_flatMap.mpr ⟨?_, ?_⟩
    · intro root hroot
      exact hsole.nodup_ordersWithin hg hacyclic (hg.nests_of_feeder hacyclic hroot)
        ((mem_demand hg hacyclic).mpr ⟨id, hid, root, hroot, .refl⟩)
    · apply (hg.nodup_feedersOf id).pairwise_of_forall_ne
      intro root hroot root' hroot' hne below hbelow hbelow'
      exact hne (hsole.eq_of_roots hg hacyclic hid hid hroot hroot' hbelow hbelow')
  · apply hsinks.pairwise_of_forall_ne
    intro id hid other hother hne below hbelow hbelow'
    obtain ⟨root, hroot, horders⟩ := List.mem_flatMap.mp hbelow
    obtain ⟨root', hroot', horders'⟩ := List.mem_flatMap.mp hbelow'
    cases hsole.eq_of_roots hg hacyclic hid hother hroot hroot' horders horders'
    exact hne (hg.eq_of_feeder hroot hroot')

/-! ## Ports asked for twice -/

theorem eq_of_mem_flatMap {β γ : Type} {f : β → List γ} {items : List β}
    (h : (items.flatMap f).Nodup) {item other : β} (hitem : item ∈ items) (hother : other ∈ items)
    {x : γ} (hx : x ∈ f item) (hx' : x ∈ f other) : item = other := by
  induction items with
  | nil => cases hitem
  | cons first rest ih =>
    rw [List.flatMap_cons, List.nodup_append] at h
    obtain ⟨-, hrest, hapart⟩ := h
    have hmem (later : β) (hlater : later ∈ rest) (hx : x ∈ f later) : x ∈ rest.flatMap f :=
      List.mem_flatMap.mpr ⟨later, hlater, hx⟩
    rcases List.mem_cons.mp hitem with rfl | hitemRest
    · rcases List.mem_cons.mp hother with rfl | hotherRest
      · rfl
      · exact absurd rfl (hapart x hx x (hmem other hotherRest hx'))
    · rcases List.mem_cons.mp hother with rfl | hotherRest
      · exact absurd rfl (hapart x hx' x (hmem item hitemRest hx))
      · exact ih hrest hitemRest hotherRest

theorem eq_of_nodup_ordersWithin {g : Graph W α} (hg : g.Coherent) (hacyclic : g.Acyclic)
    {depth : Nat} {root : PortRef} (hnests : g.NestsWithin depth root)
    (hnodup : (g.ordersWithin depth root).Nodup) {port other callee : PortRef}
    (hport : port ∈ g.ordersWithin depth root) (hother : other ∈ g.ordersWithin depth root)
    (hcalls : g.Calls port callee) (hcalls' : g.Calls other callee) : port = other := by
  have hsame : port.component = other.component :=
    hg.eq_of_feeder (mem_feedersOf_of_callee hcalls) (mem_feedersOf_of_callee hcalls')
  induction depth generalizing root with
  | zero => exact hnests.elim
  | succ depth ih =>
    -- A port of the root's component below the root would close a cycle.
    have hbelow (below : PortRef) (hcomponent : below.component = root.component)
        (hmem : below ∈ (g.callees root).flatMap (g.ordersWithin depth)) : False := by
      obtain ⟨first, hfirst, horders⟩ := List.mem_flatMap.mp hmem
      have hreach := (mem_ordersWithin (hnests first hfirst)).mp horders
      have hcycle := hg.feeds_of_calls (Relation.TransGen.head' hfirst hreach)
      rw [hcomponent] at hcycle
      exact hacyclic _ hcycle
    unfold ordersWithin at hnodup hport hother
    have hparts := (List.nodup_append.mp hnodup).1
    rcases List.mem_append.mp hport with hin | hroot
    · rcases List.mem_append.mp hother with hin' | hroot'
      · obtain ⟨first, hfirst, horders⟩ := List.mem_flatMap.mp hin
        obtain ⟨last, hlast, horders'⟩ := List.mem_flatMap.mp hin'
        have hdown := (mem_ordersWithin (hnests first hfirst)).mp horders
        have hdown' := (mem_ordersWithin (hnests last hlast)).mp horders'
        have heq : first = last := eq_of_mem_flatMap hparts hfirst hlast
          ((mem_ordersWithin (hnests first hfirst)).mpr (hdown.tail hcalls))
          ((mem_ordersWithin (hnests last hlast)).mpr (hdown'.tail hcalls'))
        subst heq
        exact ih (hnests first hfirst) ((List.nodup_flatMap.mp hparts).1 first hfirst) horders
          horders'
      · cases List.mem_singleton.mp hroot'
        exact (hbelow port hsame hin).elim
    · cases List.mem_singleton.mp hroot
      rcases List.mem_append.mp hother with hin' | hroot'
      · exact (hbelow other hsame.symm hin').elim
      · exact (List.mem_singleton.mp hroot').symm

theorem soleCaller_of_nodup {g : Graph W α} (hg : g.Coherent) (hacyclic : g.Acyclic)
    (h : g.demand.Nodup) : g.SoleCaller := by
  intro port other callee hport hother hcalls hcalls'
  obtain ⟨id, hid, hport⟩ := List.mem_flatMap.mp hport
  obtain ⟨id', hid', hother⟩ := List.mem_flatMap.mp hother
  obtain ⟨root, hroot, horders⟩ := List.mem_flatMap.mp hport
  obtain ⟨root', hroot', horders'⟩ := List.mem_flatMap.mp hother
  have hnests := hg.nests_of_feeder hacyclic hroot
  have hnests' := hg.nests_of_feeder hacyclic hroot'
  have hcallee : callee ∈ g.orders root :=
    (mem_ordersWithin hnests).mpr (((mem_ordersWithin hnests).mp horders).tail hcalls)
  have hcallee' : callee ∈ g.orders root' :=
    (mem_ordersWithin hnests').mpr (((mem_ordersWithin hnests').mp horders').tail hcalls')
  have hids : id = id' := eq_of_mem_flatMap h hid hid'
    (List.mem_flatMap.mpr ⟨root, hroot, hcallee⟩) (List.mem_flatMap.mpr ⟨root', hroot', hcallee'⟩)
  subst hids
  have hsink := (List.nodup_flatMap.mp h).1 id hid
  have hroots : root = root' := eq_of_mem_flatMap hsink hroot hroot' hcallee hcallee'
  subst hroots
  exact eq_of_nodup_ordersWithin hg hacyclic hnests ((List.nodup_flatMap.mp hsink).1 root hroot)
    horders horders' hcalls hcalls'

/-! ## Forks -/

/-- A component with a connection in has two connections out, and both lead to sinks. -/
def Forked (g : Graph W α) : Prop :=
  ∃ c ∈ g.connections, ∃ d ∈ g.connections, ∃ d' ∈ g.connections, d ≠ d' ∧
    c.downstream.component = d.upstream.component ∧
    c.downstream.component = d'.upstream.component ∧ g.LeadsToSink d ∧ g.LeadsToSink d'

theorem soleCaller_iff {g : Graph W α} (hg : g.Coherent) (hacyclic : g.Acyclic) :
    g.SoleCaller ↔ ¬ g.Forked := by
  constructor
  · rintro hsole ⟨c, hc, d, hd, d', hd', hne, hfirst, hlast, hlead, hlead'⟩
    have hports := hsole d.upstream d'.upstream c.upstream
      ((mem_demand_iff hg hacyclic).mpr ⟨d, hd, rfl, hlead⟩)
      ((mem_demand_iff hg hacyclic).mpr ⟨d', hd', rfl, hlead'⟩)
      ((hg.calls_iff hc hd).mpr hfirst) ((hg.calls_iff hc hd').mpr hlast)
    exact hne (hg.eq_of_upstream hd hd' hports)
  · intro hfork port other callee hport hother hcalls hcalls'
    by_contra hne
    obtain ⟨d, hd, rfl, hlead⟩ := (mem_demand_iff hg hacyclic).mp hport
    obtain ⟨d', hd', rfl, hlead'⟩ := (mem_demand_iff hg hacyclic).mp hother
    obtain ⟨c, hc, rfl, -⟩ := hg.mem_feedersOf.mp (mem_feedersOf_of_callee hcalls)
    refine hfork ⟨c, hc, d, hd, d', hd', ?_, (hg.calls_iff hc hd).mp hcalls,
      (hg.calls_iff hc hd').mp hcalls', hlead, hlead'⟩
    rintro rfl
    exact hne rfl

theorem nodup_demand_iff {g : Graph W α} (hg : g.Coherent) (hacyclic : g.Acyclic) :
    g.demand.Nodup ↔ ¬ g.Forked := by
  rw [← soleCaller_iff hg hacyclic]
  exact ⟨soleCaller_of_nodup hg hacyclic, fun h => h.nodup_demand hg hacyclic⟩

end TraceFlow.Graph
