import Mathlib.Data.List.Perm.Subperm
import TraceFlow.Proofs.Search

/-!
# No cycle ever arises

Every connection is checked when it is made, so no past leads to a cycle. Iterators are made by a
walk against the connections that remembers nothing; without cycles it nests no deeper than the
graph has components.
-/

namespace TraceFlow

/-- A path along old edges and one new edge either is old, or it leads up to the new edge and on
from it along old edges. -/
theorem transGen_of_new_edge {β : Type} {old new : β → β → Prop} {first last : β}
    (h : ∀ a b, new a b → old a b ∨ a = first ∧ b = last) {x y : β}
    (hpath : Relation.TransGen new x y) :
    Relation.TransGen old x y ∨
      Relation.ReflTransGen old x first ∧ Relation.ReflTransGen old last y := by
  induction hpath with
  | single hedge =>
    rcases h _ _ hedge with hold | ⟨rfl, rfl⟩
    · exact .inl (.single hold)
    · exact .inr ⟨.refl, .refl⟩
  | tail _ hedge ih =>
    rcases h _ _ hedge with hold | ⟨rfl, rfl⟩
    · rcases ih with hbefore | ⟨hup, hdown⟩
      · exact .inl (hbefore.tail hold)
      · exact .inr ⟨hup, hdown.tail hold⟩
    · rcases ih with hbefore | ⟨hup, -⟩
      · exact .inr ⟨hbefore.to_reflTransGen, .refl⟩
      · exact .inr ⟨hup, .refl⟩

namespace Graph

variable {W α : Type}

def Acyclic (g : Graph W α) : Prop := ∀ id, ¬ Relation.TransGen g.Feeds id id

theorem acyclic_congr {g g' : Graph W α} (h : g'.connections = g.connections) (hg : g.Acyclic) :
    g'.Acyclic := by
  unfold Acyclic Feeds
  rw [h]
  exact hg

theorem Acyclic.of_bare_eq {g g' : Graph W α} (hg : g.Acyclic) (h : g'.bare = g.bare) :
    g'.Acyclic := by
  apply acyclic_congr _ hg
  rw [← connections_bare g', h, connections_bare]

theorem acyclic_empty : (empty : Graph W α).Acyclic := by
  intro id hpath
  obtain ⟨other, -, ⟨c, hc, -⟩⟩ := Relation.TransGen.tail'_iff.mp hpath
  simp [empty] at hc

theorem feeds_link {g : Graph W α} {upstream downstream : PortRef} {id other : ComponentId}
    (h : (g.link upstream downstream).Feeds id other) :
    g.Feeds id other ∨ id = upstream.component ∧ other = downstream.component := by
  obtain ⟨c, hc, rfl, rfl⟩ := h
  rcases List.mem_append.mp hc with hold | hnew
  · exact .inl ⟨c, hold, rfl, rfl⟩
  · cases List.mem_singleton.mp hnew
    exact .inr ⟨rfl, rfl⟩

theorem Acyclic.link {g : Graph W α} {upstream downstream : PortRef} (hg : g.Acyclic)
    (hcoherent : g.Coherent) (h : g.Joinable upstream downstream) :
    (g.link upstream downstream).Acyclic := by
  intro id hcycle
  rcases transGen_of_new_edge (fun _ _ => feeds_link) hcycle with hold | ⟨hup, hdown⟩
  · exact hg id hold
  · -- The way back was searched for before the connection was made.
    have hback : g.leadsTo downstream.component upstream.component = true :=
      (leadsTo_iff hcoherent (component?_isSome_of_port? h.upstream_port)).mpr (hdown.trans hup)
    rw [h.no_way_back] at hback
    cases hback

theorem Acyclic.change {g g' : Graph W α} (hg : g.Acyclic) (hcoherent : g.Coherent)
    (h : g.Change g') : g'.Acyclic := by
  cases h with
  | phases h => exact hg.of_bare_eq h
  | accept => exact acyclic_congr rfl hg
  | link h => exact hg.link hcoherent h
  | grow => exact acyclic_congr rfl hg

theorem Reached.acyclic {g : Graph W α} (h : g.Reached) : g.Acyclic := by
  have hboth : g.Coherent ∧ g.Acyclic := by
    refine h.keeps (P := fun g => g.Coherent ∧ g.Acyclic) ?_ ⟨coherent_empty, acyclic_empty⟩
    rintro g g' hchange ⟨hcoherent, hacyclic⟩
    exact ⟨hcoherent.change hchange, hacyclic.change hcoherent hchange⟩
  exact hboth.2

/-! ## The walk against the connections -/

/-- The output ports that feed the connected input ports of a component. -/
def feedersOf (g : Graph W α) (id : ComponentId) : List PortRef :=
  match g.component? id with
  | some c => g.feeders c
  | none => []

theorem feedersOf_eq {g : Graph W α} {id : ComponentId} {c : Component W α}
    (hc : g.component? id = some c) : g.feedersOf id = g.feeders c := by
  unfold feedersOf
  rw [hc]

/-- The ports whose iterators are made first when one is made behind a port. -/
def callees (g : Graph W α) (port : PortRef) : List PortRef :=
  if g.kind? port.component = some .filter then g.feedersOf port.component else []

theorem callees_of_role {g : Graph W α} {port : PortRef} {c : Component W α}
    (hc : g.component? port.component = some c) :
    g.callees port = match c.role with
      | .filter _ => g.feeders c
      | _ => [] := by
  unfold callees kind?
  rw [hc, feedersOf_eq hc, Option.map_some]
  unfold Component.kind
  cases c.role <;> simp [Role.kind]

/-- The walk from a port nests at most so deep. -/
def NestsWithin (g : Graph W α) : Nat → PortRef → Prop
  | 0, _ => False
  | depth + 1, port => ∀ callee ∈ g.callees port, g.NestsWithin depth callee

theorem Coherent.downstream_of_holds {g : Graph W α} (hg : g.Coherent) {ref : PortRef}
    {k : ConnectionId} (hdirection : ref.direction = .input) (h : g.holds? ref = some k) :
    ∃ c, g.connections[k.index]? = some c ∧ c.downstream = ref := by
  obtain ⟨c, hc, htouches⟩ := (hg.holds_iff ref k).mp h
  rcases htouches with hup | hdown
  · have hout := (hg.upstream c (List.mem_of_getElem? hc)).1
    rw [hup, hdirection] at hout
    cases hout
  · exact ⟨c, hc, hdown⟩

theorem holds?_of_input {g : Graph W α} {id : ComponentId} {component : Component W α} {i : Nat}
    {input : Port} {k : ConnectionId} (hcomponent : g.component? id = some component)
    (hi : component.inputs.ports[i]? = some input) (hk : input.connection = some k) :
    g.holds? ⟨id, .input, i⟩ = some k := by
  unfold holds?
  rw [port?_of_component hcomponent]
  exact Option.bind_eq_some_iff.mpr ⟨input, hi, hk⟩

theorem Coherent.mem_feedersOf {g : Graph W α} (hg : g.Coherent) {id : ComponentId}
    {port : PortRef} :
    port ∈ g.feedersOf id ↔
      ∃ c ∈ g.connections, c.upstream = port ∧ c.downstream.component = id := by
  constructor
  · intro h
    unfold feedersOf at h
    split at h
    · next component hcomponent =>
      obtain ⟨input, hinput, hbind⟩ := List.mem_filterMap.mp h
      obtain ⟨k, hk, horigin⟩ := Option.bind_eq_some_iff.mp hbind
      obtain ⟨c, hc, rfl⟩ := Option.map_eq_some_iff.mp horigin
      obtain ⟨i, hi⟩ := List.mem_iff_getElem?.mp hinput
      obtain ⟨c', hc', hdown⟩ := hg.downstream_of_holds rfl (holds?_of_input hcomponent hi hk)
      cases hc.symm.trans hc'
      refine ⟨c, List.mem_of_getElem? hc, rfl, ?_⟩
      rw [hdown]
    · cases h
  · rintro ⟨c, hc, rfl, rfl⟩
    obtain ⟨k, hk⟩ := List.mem_iff_getElem?.mp hc
    have hholds : g.holds? c.downstream = some ⟨k⟩ := (hg.holds_iff _ _).mpr ⟨c, hk, .inr rfl⟩
    obtain ⟨component, hcomponent⟩ := Option.isSome_iff_exists.mp
      (component?_isSome_of_port? (hg.downstream c hc).2)
    unfold holds? at hholds
    rw [port?_of_component hcomponent, (hg.downstream c hc).1] at hholds
    obtain ⟨input, hinput, hinputHolds⟩ := Option.bind_eq_some_iff.mp hholds
    rw [feedersOf_eq hcomponent]
    refine List.mem_filterMap.mpr ⟨input, List.mem_of_getElem? hinput, ?_⟩
    exact Option.bind_eq_some_iff.mpr ⟨⟨k⟩, hinputHolds, Option.map_eq_some_iff.mpr ⟨c, hk, rfl⟩⟩

theorem Coherent.feeds_of_feeder {g : Graph W α} (hg : g.Coherent) {id : ComponentId}
    {port : PortRef} (h : port ∈ g.feedersOf id) : g.Feeds port.component id := by
  obtain ⟨c, hc, rfl, hdown⟩ := hg.mem_feedersOf.mp h
  exact ⟨c, hc, rfl, hdown⟩

theorem mem_feedersOf_of_callee {g : Graph W α} {port callee : PortRef}
    (h : callee ∈ g.callees port) : callee ∈ g.feedersOf port.component := by
  unfold callees at h
  split at h
  · exact h
  · cases h

theorem Coherent.feeds_of_callee {g : Graph W α} (hg : g.Coherent) {port callee : PortRef}
    (h : callee ∈ g.callees port) : g.Feeds callee.component port.component :=
  hg.feeds_of_feeder (mem_feedersOf_of_callee h)

/-- A walk has come to a port through the components above it. -/
structure CameThrough (g : Graph W α) (port : PortRef) (above : List ComponentId) : Prop where
  component : (g.component? port.component).isSome
  nodup : above.Nodup
  subset : above ⊆ g.ids
  path : ∀ id ∈ above, Relation.TransGen g.Feeds port.component id

namespace CameThrough

variable {g : Graph W α} {port callee : PortRef} {above : List ComponentId}

theorem nodup_cons (h : g.CameThrough port above) (hacyclic : g.Acyclic) :
    (port.component :: above).Nodup := by
  refine List.nodup_cons.mpr ⟨?_, h.nodup⟩
  intro hmem
  exact hacyclic _ (h.path _ hmem)

theorem cons_subset (h : g.CameThrough port above) : port.component :: above ⊆ g.ids :=
  List.cons_subset.mpr ⟨mem_ids.mpr h.component, h.subset⟩

theorem length_lt (h : g.CameThrough port above) (hacyclic : g.Acyclic) :
    above.length < g.componentCount := by
  have hle := (List.subperm_of_subset (h.nodup_cons hacyclic) h.cons_subset).length_le
  rw [List.length_cons, length_ids] at hle
  exact hle

theorem step (h : g.CameThrough port above) (hg : g.Coherent) (hacyclic : g.Acyclic)
    (hcallee : callee ∈ g.callees port) : g.CameThrough callee (port.component :: above) := by
  have hfeeds := hg.feeds_of_callee hcallee
  refine ⟨(hg.component_of_feeds hfeeds).1, h.nodup_cons hacyclic, h.cons_subset, ?_⟩
  intro id hid
  rcases List.mem_cons.mp hid with rfl | hid
  · exact .single hfeeds
  · exact .head hfeeds (h.path id hid)

/-- The components above are all different, so a walk soon runs out of them. -/
theorem nestsWithin (h : g.CameThrough port above) (hg : g.Coherent) (hacyclic : g.Acyclic)
    {depth : Nat} (hdepth : g.componentCount ≤ above.length + depth) :
    g.NestsWithin depth port := by
  induction depth generalizing port above with
  | zero =>
    have hlt := h.length_lt hacyclic
    omega
  | succ depth ih =>
    intro callee hcallee
    apply ih (h.step hg hacyclic hcallee)
    rw [List.length_cons]
    omega

end CameThrough

theorem nestsWithin_componentCount {g : Graph W α} (hg : g.Coherent) (hacyclic : g.Acyclic)
    {port : PortRef} (hport : (g.component? port.component).isSome) :
    g.NestsWithin g.componentCount port := by
  have hstart : g.CameThrough port [] :=
    ⟨hport, List.nodup_nil, List.nil_subset _, fun _ hid => absurd hid List.not_mem_nil⟩
  exact hstart.nestsWithin hg hacyclic (Nat.le_add_left ..)

/-! ## Making iterators -/

theorem makeEach_congr {ι β : Type} {make make' : ι → Session W α → Made W α β} {items : List ι}
    (h : ∀ item ∈ items, ∀ session, make' item session = make item session)
    (session : Session W α) : makeEach make' items session = makeEach make items session := by
  induction items generalizing session with
  | nil => rfl
  | cons item rest ih =>
    have hrest := ih fun other hother => h other (List.mem_cons_of_mem _ hother)
    unfold makeEach
    simp only [h item List.mem_cons_self, hrest]

theorem exists_of_makeEach_error {ι β : Type} {make : ι → Session W α → Made W α β} {items : List ι}
    {session : Session W α} {e : GraphError} (h : (makeEach make items session).1 = .error e) :
    ∃ item ∈ items, ∃ before, (make item before).1 = .error e := by
  induction items generalizing session with
  | nil => cases h
  | cons item rest ih =>
    unfold makeEach at h
    split at h
    · next hmake =>
      cases h
      refine ⟨item, List.mem_cons_self, session, ?_⟩
      rw [hmake]
    · split at h
      · next hrest =>
        cases h
        obtain ⟨other, hother, before, hbefore⟩ := ih (by rw [hrest])
        exact ⟨other, List.mem_cons_of_mem _ hother, before, hbefore⟩
      · cases h

theorem iteratorWithin_eq {g : Graph W α} {depth depth' : Nat} {port : PortRef}
    (h : g.NestsWithin depth port) (hle : depth ≤ depth') (session : Session W α) :
    g.iteratorWithin depth' port session = g.iteratorWithin depth port session := by
  induction depth generalizing depth' port session with
  | zero => exact h.elim
  | succ depth ih =>
    obtain ⟨more, rfl⟩ : ∃ more, depth' = more + 1 := ⟨depth' - 1, by omega⟩
    unfold iteratorWithin walk
    split
    · rfl
    · next c hc =>
      split
      · rfl
      · next filter hrole =>
        have hmake : makeEach (g.iteratorWithin more) (g.feeders c) session =
            makeEach (g.iteratorWithin depth) (g.feeders c) session := by
          apply makeEach_congr
          intro callee hcallee before
          have hmem : callee ∈ g.callees port := by
            rw [callees_of_role hc, hrole]
            exact hcallee
          exact ih (h callee hmem) (by omega) before
        rw [hmake]
      · rfl

theorem iterator_eq_walk {g : Graph W α} {port : PortRef}
    (h : g.NestsWithin g.componentCount port) (session : Session W α) :
    g.iterator port session = g.walk g.iterator port session :=
  (iteratorWithin_eq h (Nat.le_succ _) session).symm

theorem askIterator_error {name : String} {port : PortRef} {upstream : List (Iterator W)}
    {act : Act W (Iterator W)} {session : Session W α} {e : GraphError}
    (h : (askIterator name port upstream act session).1 = .error e) :
    ∃ fault, e = .component name fault := by
  unfold askIterator at h
  split at h
  · cases h
    exact ⟨_, rfl⟩
  · cases h

theorem iteratorWithin_error {g : Graph W α} (hg : g.Coherent) {depth : Nat} {port : PortRef}
    (hport : (g.component? port.component).isSome) (hnests : g.NestsWithin depth port)
    {session : Session W α} {e : GraphError}
    (h : (g.iteratorWithin depth port session).1 = .error e) :
    ∃ name fault, e = .component name fault := by
  induction depth generalizing port session with
  | zero => exact hnests.elim
  | succ depth ih =>
    unfold iteratorWithin walk at h
    split at h
    · next hnone =>
      rw [hnone] at hport
      cases hport
    · next c hc =>
      split at h
      · obtain ⟨fault, rfl⟩ := askIterator_error h
        exact ⟨_, fault, rfl⟩
      · next filter hrole =>
        split at h
        · next hmake =>
          cases h
          obtain ⟨callee, hcallee, before, hbefore⟩ :=
            exists_of_makeEach_error (congrArg Prod.fst hmake)
          have hmem : callee ∈ g.callees port := by
            rw [callees_of_role hc, hrole]
            exact hcallee
          exact ih (hg.component_of_feeds (hg.feeds_of_callee hmem)).1 (hnests callee hmem) hbefore
        · obtain ⟨fault, rfl⟩ := askIterator_error h
          exact ⟨_, fault, rfl⟩
      · cases h
        exact ⟨_, _, rfl⟩

/-! ## Every step -/

theorem mem_feeders_of_sinkFeeder {g : Graph W α} {c : Component W α} {port : PortRef}
    (h : g.sinkFeeder c = .ok (some port)) : port ∈ g.feeders c := by
  unfold sinkFeeder at h
  split at h
  · cases h
  · exact List.mem_of_getLast? (Except.ok.inj h)

def OpenError (e : GraphError) : Prop :=
  (∃ name fault, e = .component name fault) ∨ ∃ name index, e = .unconnectedSink name index

theorem openSink_error {g : Graph W α} (hg : g.Coherent) (hacyclic : g.Acyclic)
    {id : ComponentId} (hid : (g.component? id).isSome) {session : Session W α} {e : GraphError}
    (h : (g.openSink id session).answer = .error e) : OpenError e := by
  unfold openSink at h
  split at h
  · next hnone =>
    rw [hnone] at hid
    cases hid
  · next c hc =>
    split at h
    · next hfeeder =>
      cases h
      unfold sinkFeeder at hfeeder
      split at hfeeder
      · cases hfeeder
        exact .inr ⟨_, _, rfl⟩
      · cases hfeeder
    · cases h
    · next port hfeeder =>
      split at h
      · next hiterator =>
        cases h
        have hmem : port ∈ g.feedersOf id := by
          rw [feedersOf_eq hc]
          exact mem_feeders_of_sinkFeeder hfeeder
        have hthere := (hg.component_of_feeds (hg.feeds_of_feeder hmem)).1
        exact .inl (iteratorWithin_error hg hthere (nestsWithin_componentCount hg hacyclic hthere)
          (congrArg Prod.fst hiterator))
      · cases h

theorem openSinks_error {g : Graph W α} (hg : g.Coherent) (hacyclic : g.Acyclic)
    {ids : List ComponentId} (hids : ∀ id ∈ ids, (g.component? id).isSome) {session : Session W α}
    {e : GraphError} (h : (g.openSinks ids session).answer = .error e) : OpenError e := by
  induction ids generalizing g session with
  | nil => cases h
  | cons id rest ih =>
    have hid := hids id List.mem_cons_self
    have hbare := bare_openSink g id session
    unfold openSinks at h
    split at h
    · next hone =>
      cases h
      exact openSink_error hg hacyclic hid (congrArg Reply.answer hone)
    · next hone =>
      rw [hone] at hbare
      refine ih (hg.of_bare_eq hbare) (hacyclic.of_bare_eq hbare) ?_ h
      intro other hother
      rw [mem_ids.symm, ← ids_bare, hbare, ids_bare]
      exact mem_ids.mpr (hids other (List.mem_cons_of_mem _ hother))

theorem Coherent.component_of_sink {g : Graph W α} (hg : g.Coherent) {id : ComponentId}
    (h : id ∈ g.sinks) : (g.component? id).isSome := by
  rw [hg.sinks] at h
  exact mem_ids.mp (List.mem_of_mem_filter h)

def IsCycleError {β : Type} (answer : Except GraphError β) : Prop :=
  ∃ upstream downstream, answer = .error (.cycleDetected upstream downstream)

/-- Why a step fails, but for the iterators of the sinks. -/
inductive StepError : GraphError → Prop where
  | noSink : StepError .noSink
  | unknownComponent (id : ComponentId) : StepError (.unknownComponent id)
  | unconnectedSink (name : String) (index : Nat) : StepError (.unconnectedSink name index)
  | sink (name : String) (fault : Fault) : StepError (.sink name fault)
  | faulted : StepError .faulted

section

variable {g : Graph W α} {session : Session W α} {e : GraphError}

theorem setUpSink_error {id : ComponentId} (h : (g.setUpSink id session).1 = .error e) :
    StepError e := by
  unfold setUpSink at h
  split at h
  · split at h
    · cases h
      exact .sink _ _
    · cases h
  · cases h

theorem configure_error (h : (g.configure session).answer = .error e) :
    StepError e ∨ (g.openSinks g.sinks session).answer = .error e := by
  unfold configure at h
  split at h
  · cases h
    exact .inl .noSink
  · split at h
    · next hopen =>
      cases h
      exact .inr (congrArg Reply.answer hopen)
    · split at h
      · next hsetup =>
        cases h
        obtain ⟨id, -, before, hbefore⟩ := exists_of_makeEach_error (congrArg Prod.fst hsetup)
        exact .inl (setUpSink_error hbefore)
      · cases h

theorem settle_ne_error {otherwise : Status} : (g.settle otherwise session).answer ≠ .error e := by
  unfold settle
  split <;> exact nofun

theorem consume_error {id : ComponentId} {name : String} {sink : Sink W α} {upstream : Iterator W}
    (h : (g.consume id name sink upstream session).answer = .error e) : StepError e := by
  unfold consume at h
  split at h
  · cases h
    exact .sink _ _
  · cases h
  · cases h
  · exact absurd h settle_ne_error

theorem feedWithin_error {turns : Nat} (h : (g.feedWithin turns session).answer = .error e) :
    StepError e := by
  induction turns generalizing g with
  | zero => exact absurd h settle_ne_error
  | succ turns ih =>
    unfold feedWithin at h
    split at h
    · cases h
      exact .noSink
    · split at h
      · cases h
        exact .unknownComponent _
      · split at h
        · exact consume_error h
        · cases h
          exact .unconnectedSink _ _
        · exact ih h

theorem conclude_answer (reply : Reply W α Status) :
    (conclude reply).answer = reply.answer := by
  unfold conclude
  split <;> rfl

theorem run_error (h : (g.run session).answer = .error e) :
    StepError e ∨ (g.openSinks g.sinks session).answer = .error e := by
  unfold run at h
  split at h
  · cases h
  · cases h
    exact .inl .faulted
  · rw [conclude_answer] at h
    exact .inl (feedWithin_error h)
  · split at h
    · next hconfigure =>
      cases h
      exact configure_error (congrArg Reply.answer hconfigure)
    · rw [conclude_answer] at h
      exact .inl (feedWithin_error h)

end

theorem run_not_cycle {g : Graph W α} (hg : g.Coherent) (hacyclic : g.Acyclic)
    (session : Session W α) : ¬ IsCycleError (g.run session).answer := by
  rintro ⟨up, down, hcycle⟩
  rcases run_error hcycle with hstep | hopen
  · cases hstep
  · rcases openSinks_error hg hacyclic (fun _ => hg.component_of_sink) hopen with
      ⟨_, _, hother⟩ | ⟨_, _, hother⟩
    · cases hother
    · cases hother

/--
In every graph that is reached no path of connections returns to its start. So the walk from a port
that feeds a component comes to its end: it nests no deeper than the graph has components, it is
made as if it had no bound, and no step fails for want of one.
-/
theorem acyclic_of_reached {g : Graph W α} (h : g.Reached) :
    (∀ id, ¬ Relation.TransGen g.Feeds id id) ∧
      (∀ id port, port ∈ g.feedersOf id →
        g.NestsWithin g.componentCount port ∧
          ∀ session, g.iterator port session = g.walk g.iterator port session) ∧
      ∀ session, ¬ IsCycleError (g.run session).answer := by
  have hg := h.coherent
  have hacyclic := h.acyclic
  refine ⟨hacyclic, ?_, run_not_cycle hg hacyclic⟩
  intro id port hport
  have hthere := (hg.component_of_feeds (hg.feeds_of_feeder hport)).1
  have hnests := nestsWithin_componentCount hg hacyclic hthere
  exact ⟨hnests, iterator_eq_walk hnests⟩

theorem acyclic_tapAndCup :
    tapAndCup.Reached ∧ tapAndCup.feedersOf ⟨1⟩ = [tapOut] ∧
      (¬ Relation.TransGen tapAndCup.Feeds ⟨0⟩ ⟨0⟩) ∧
      tapAndCup.NestsWithin tapAndCup.componentCount tapOut ∧
      ¬ IsCycleError (tapAndCup.run ⟨.plain 1, .empty⟩).answer := by
  have hreached : tapAndCup.Reached := reachedFrom_carryOut ..
  have hfeeders : tapAndCup.feedersOf ⟨1⟩ = [tapOut] := by decide +kernel
  obtain ⟨hacyclic, hwalk, hrun⟩ := acyclic_of_reached hreached
  have hmem : tapOut ∈ tapAndCup.feedersOf ⟨1⟩ := by
    rw [hfeeders]
    exact List.mem_singleton.mpr rfl
  exact ⟨hreached, hfeeders, hacyclic ⟨0⟩, (hwalk ⟨1⟩ tapOut hmem).1, hrun ⟨.plain 1, .empty⟩⟩

end Graph

end TraceFlow
