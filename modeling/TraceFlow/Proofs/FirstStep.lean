import TraceFlow.Proofs.Making

/-!
# What the first step asks for

The first step makes the iterators of the sinks, one sink after the other. Then it sets the sinks
up, and one of them consumes. After an iterator was refused nothing is called any more.
-/

namespace TraceFlow.Graph

variable {W α : Type}

/-! ## The walks from the sinks -/

/-- What it comes to that iterators were asked for: the first refusal is the error. -/
def outcome (g : Graph W α) : Option (PortRef × Fault) → Except GraphError Unit
  | none => .ok ()
  | some (port, fault) => .error (.component (g.nameOf port.component) fault)

/-- The iterators of some sinks were made, one after the other, up to the first that was refused. A
sink reads what was made behind the port that feeds it. -/
structure Opened (g : Graph W α) (ids : List ComponentId) (session : Session W α)
    (reply : Reply W α Unit) (calls : List (Hook W)) (refusal : Option (PortRef × Fault)) :
    Prop where
  asking : g.Asking (g.demandOf ids) session reply.session calls refusal
  answer : reply.answer = g.outcome refusal
  bare : reply.graph.bare = g.bare
  reads : ∀ id ∈ ids, ∀ root ∈ g.feedersOf id, ∀ upstream, lastMade? calls root = some upstream →
    ∃ sink, reply.graph.sink? id = some (sink, .reading upstream)

section

variable {g g' : Graph W α} {id : ComponentId} {ids rest : List ComponentId} {root : PortRef}
  {session : Session W α} {calls calls' : List (Hook W)} {refusal : Option (PortRef × Fault)}

theorem feedersOf_of_bare_eq (h : g'.bare = g.bare) (id : ComponentId) :
    g'.feedersOf id = g.feedersOf id := by
  rw [← feedersOf_bare g', h, feedersOf_bare]

theorem Asking.of_bare_eq (h : g'.bare = g.bare) {orders : List PortRef} {last : Session W α}
    (hasking : g'.Asking orders session last calls refusal) :
    g.Asking orders session last calls refusal := by
  refine ⟨hasking.hooks, hasking.turn, fun before port upstream answer after hsplit => ?_⟩
  rw [← feedersOf_of_bare_eq h]
  exact hasking.handed _ _ _ _ _ hsplit

theorem Opened.of_bare_eq (h : g'.bare = g.bare) {reply : Reply W α Unit}
    (hopened : g'.Opened ids session reply calls refusal) :
    g.Opened ids session reply calls refusal where
  asking := by
    rw [← demandOf_bare, ← h, demandOf_bare]
    exact hopened.asking.of_bare_eq h
  answer := by
    rw [hopened.answer]
    unfold outcome
    simp only [nameOf_of_bare_eq h]
  bare := hopened.bare.trans h
  reads id hid root hroot := hopened.reads id hid root (feedersOf_of_bare_eq h id ▸ hroot)

theorem Coherent.input_of_sink (hg : g.Coherent) (hid : id ∈ g.sinks) {c : Component W α}
    (hc : g.component? id = some c) :
    ∃ input, c.inputs.ports = [input] ∧ input.index = 0 ∧
      g.holds? (id.input 0) = input.connection := by
  obtain ⟨input, hinput⟩ := hg.sole_input hid hc
  have hport : g.port? (id.input 0) = some input := by
    rw [port?_of_component hc]
    change c.inputs.ports[0]? = _
    rw [hinput]
    rfl
  refine ⟨input, hinput, (hg.port _ _ hport).2.1, ?_⟩
  unfold holds?
  rw [hport]
  rfl

theorem Coherent.root_of_sink (hg : g.Coherent) (hid : id ∈ g.sinks)
    (hconnected : (g.holds? (id.input 0)).isSome) :
    ∃ c root, g.component? id = some c ∧ g.feedersOf id = [root] ∧
      g.sinkFeeder c = .ok (some root) := by
  obtain ⟨c, hc⟩ := Option.isSome_iff_exists.mp (hg.component_of_sink hid)
  obtain ⟨input, hinput, -, hheld⟩ := hg.input_of_sink hid hc
  have hall : c.inputs.ports.find? (!·.isConnected) = none := by
    rw [hheld] at hconnected
    have hne := Option.isSome_iff_ne_none.mp hconnected
    rw [hinput]
    simp [Port.isConnected, hne]
  have hfeeder : g.sinkFeeder c = .ok (g.feeders c).getLast? := by
    unfold sinkFeeder
    rw [hall]
  obtain ⟨root, hroot⟩ := hg.feeder_of_sink hid hc hfeeder
  rw [hroot] at hfeeder
  have hmem := mem_feeders_of_sinkFeeder hfeeder
  have hlength := hg.length_feedersOf_sink hid
  rw [feedersOf_eq hc] at hlength ⊢
  refine ⟨c, root, hc, ?_, hfeeder⟩
  rcases hfeeders : g.feeders c with _ | ⟨only, _ | ⟨_, _⟩⟩
  · rw [hfeeders] at hmem
    cases hmem
  · rw [hfeeders] at hmem
    rw [List.mem_singleton.mp hmem]
  · rw [hfeeders] at hlength
    simp at hlength

theorem reads_of_root {reply : Reply W α Unit} (hroot : g.feedersOf id = [root])
    (h : ∀ upstream, lastMade? calls root = some upstream →
      ∃ sink, reply.graph.sink? id = some (sink, .reading upstream)) :
    ∀ other ∈ [id], ∀ port ∈ g.feedersOf other, ∀ upstream, lastMade? calls port = some upstream →
      ∃ sink, reply.graph.sink? other = some (sink, .reading upstream) := by
  intro other hother port hport
  cases List.mem_singleton.mp hother
  rw [hroot] at hport
  cases List.mem_singleton.mp hport
  exact h

theorem Coherent.opened_openSink (hg : g.Coherent) (hacyclic : g.Acyclic) (hid : id ∈ g.sinks)
    (hconnected : (g.holds? (id.input 0)).isSome) (session : Session W α) :
    ∃ calls refusal, g.Opened [id] session (g.openSink id session) calls refusal := by
  obtain ⟨c, root, hc, hroot, hfeeder⟩ := hg.root_of_sink hid hconnected
  have hmem : root ∈ g.feedersOf id := by
    rw [hroot]
    exact List.mem_singleton.mpr rfl
  have houtlet := hg.outlet_of_feeder hmem
  have hdemand : g.demandOf [id] = g.orders root := by
    unfold demandOf
    rw [List.flatMap_singleton, hroot, List.flatMap_singleton]
  have hbare := bare_openSink g id session
  have hwalk := yields_iteratorWithin hg hacyclic houtlet (hg.nests_of_feeder hacyclic hmem) session
  change g.Yields (g.orders root) session _ (g.iterator root session) at hwalk
  unfold openSink at hbare ⊢
  simp only [hc, hfeeder] at hbare ⊢
  rcases hmade : g.iterator root session with ⟨answer, after⟩
  rw [hmade] at hwalk hbare
  rw [← hdemand] at hwalk
  cases hwalk with
  | @made calls iterator _ h hlast =>
    refine ⟨calls, none, h, rfl, hbare, reads_of_root hroot fun upstream hupstream => ?_⟩
    cases hlast.symm.trans hupstream
    obtain ⟨sink, phase, hsink⟩ := sink_of_mem_sinks hg hid
    exact ⟨sink, sink?_setPhase_self hsink _⟩
  | @refused calls port fault _ h =>
    refine ⟨calls, some (port, fault), h, rfl, hbare, ?_⟩
    refine reads_of_root hroot fun upstream hupstream => ?_
    -- The walk ended before the iterator that the sink reads was made.
    have hturn := h.turn
    rw [hdemand, hg.orders_eq hacyclic houtlet] at hturn
    rw [hturn.lastMade?_of_refused (hg.notMem_orders_of_callee hacyclic houtlet) (by simp)]
      at hupstream
    cases hupstream

theorem sink?_openSink_of_ne (g : Graph W α) {id other : ComponentId} (h : other ≠ id)
    (session : Session W α) : (g.openSink id session).graph.sink? other = g.sink? other := by
  unfold openSink
  split
  · rfl
  · split
    · rfl
    · rfl
    · split
      · rfl
      · exact sink?_modify_of_ne g h _

theorem sink?_openSinks_of_notMem (g : Graph W α) (h : id ∉ ids) (session : Session W α) :
    (g.openSinks ids session).graph.sink? id = g.sink? id := by
  induction ids generalizing g session with
  | nil => rfl
  | cons other rest ih =>
    obtain ⟨hne, hrest⟩ := List.ne_and_not_mem_of_not_mem_cons h
    have hone := sink?_openSink_of_ne g hne session
    unfold openSinks
    split
    · next hreply => rw [hreply] at hone; exact hone
    · next hreply =>
      rw [hreply] at hone
      exact (ih _ hrest _).trans hone

theorem Opened.lastMade?_eq_none (hg : g.Coherent) (hacyclic : g.Acyclic) {reply : Reply W α Unit}
    (h : g.Opened ids session reply calls refusal) (hsink : g.kind? id = some .sink)
    (hid : id ∉ ids) (hroot : root ∈ g.feedersOf id) : lastMade? calls root = none := by
  apply h.asking.turn.lastMade?_of_notMem
  unfold demandOf
  simp only [List.mem_flatMap]
  rintro ⟨other, hother, root', hroot', hmem⟩
  have hne : id ≠ other := fun hsame => hid (hsame ▸ hother)
  exact hg.notMem_orders_of_sinks hacyclic hsink hne hroot hroot' hmem

theorem demandOf_cons (g : Graph W α) (id : ComponentId) (rest : List ComponentId) :
    g.demandOf (id :: rest) = g.demandOf [id] ++ g.demandOf rest := by
  unfold demandOf
  rw [List.flatMap_cons, List.flatMap_singleton]

theorem Opened.stop (hg : g.Coherent) (hacyclic : g.Acyclic) {reply : Reply W α Unit}
    (h : g.Opened [id] session reply calls refusal) (hrefusal : refusal ≠ none)
    (hrest : rest ⊆ g.sinks) (hnew : id ∉ rest) :
    g.Opened (id :: rest) session reply calls refusal where
  asking := by
    rw [demandOf_cons]
    exact h.asking.stop hrefusal _
  answer := h.answer
  bare := h.bare
  reads other hother root hroot upstream hupstream := by
    rcases List.mem_cons.mp hother with rfl | hother
    · exact h.reads other (List.mem_singleton.mpr rfl) root hroot upstream hupstream
    · rw [h.lastMade?_eq_none hg hacyclic (hg.kind_of_sink (hrest hother))
        (fun hsame => hnew (List.mem_singleton.mp hsame ▸ hother)) hroot] at hupstream
      cases hupstream

theorem Opened.trans (hg : g.Coherent) (hacyclic : g.Acyclic) {reply last : Reply W α Unit}
    (h : g.Opened [id] session reply calls none)
    (h' : g.Opened rest reply.session last calls' refusal) (hbare : last.graph.bare = g.bare)
    (hkept : last.graph.sink? id = reply.graph.sink? id) (hid : id ∈ g.sinks)
    (hrest : rest ⊆ g.sinks) (hnew : id ∉ rest) :
    g.Opened (id :: rest) session last (calls ++ calls') refusal where
  asking := by
    rw [demandOf_cons]
    exact h.asking.trans h'.asking
  answer := h'.answer
  bare := hbare
  reads other hother root hroot upstream hupstream := by
    rw [lastMade?_append] at hupstream
    rcases List.mem_cons.mp hother with rfl | hother
    · rw [h'.lastMade?_eq_none hg hacyclic (hg.kind_of_sink hid) hnew hroot, Option.none_or]
        at hupstream
      rw [hkept]
      exact h.reads other (List.mem_singleton.mpr rfl) root hroot upstream hupstream
    · rw [h.lastMade?_eq_none hg hacyclic (hg.kind_of_sink (hrest hother))
        (fun hsame => hnew (List.mem_singleton.mp hsame ▸ hother)) hroot,
        Option.or_none] at hupstream
      exact h'.reads other hother root hroot upstream hupstream

theorem Coherent.opened_openSinks (hg : g.Coherent) (hacyclic : g.Acyclic) (hids : ids ⊆ g.sinks)
    (hnodup : ids.Nodup) (hconnected : ∀ id ∈ ids, (g.holds? (id.input 0)).isSome)
    (session : Session W α) :
    ∃ calls refusal, g.Opened ids session (g.openSinks ids session) calls refusal := by
  induction ids generalizing g session with
  | nil => exact ⟨[], none, g.asking_nothing session, rfl, rfl, nofun⟩
  | cons id rest ih =>
    obtain ⟨hid, hrest⟩ := List.cons_subset.mp hids
    obtain ⟨hnew, hothers⟩ := List.nodup_cons.mp hnodup
    obtain ⟨hone, hmore⟩ := List.forall_mem_cons.mp hconnected
    obtain ⟨calls, refusal, hopened⟩ := hg.opened_openSink hacyclic hid hone session
    rcases hreply : g.openSink id session with ⟨answer, between, opened⟩
    rw [hreply] at hopened
    unfold openSinks
    rw [hreply]
    cases refusal with
    | some refused =>
      cases hopened.answer
      exact ⟨calls, _, hopened.stop hg hacyclic (by simp) hrest hnew⟩
    | none =>
      cases hopened.answer
      have hbare : between.bare = g.bare := hopened.bare
      have hlater : rest ⊆ between.sinks := by
        rw [← sinks_bare, hbare, sinks_bare]
        exact hrest
      have hheld (other : ComponentId) (hother : other ∈ rest) :
          (between.holds? (other.input 0)).isSome := by
        rw [← holds?_bare, hbare, holds?_bare]
        exact hmore other hother
      obtain ⟨calls', refusal, hopened'⟩ := ih (hg.of_bare_eq hbare) (hacyclic.of_bare_eq hbare)
        hlater hothers hheld opened
      have hlast := hopened'.of_bare_eq hbare
      exact ⟨calls ++ calls', refusal, hopened.trans hg hacyclic hlast hlast.bare
        (sink?_openSinks_of_notMem between hnew opened) hid hrest hnew⟩

end

/-! ## The first step -/

def Given (g : Graph W α) (id : ComponentId) (upstream : Iterator W) : Prop :=
  ∃ sink, g.sink? id = some (sink, .reading upstream) ∨ g.sink? id = some (sink, .ended)

/-- What the first step leaves, once the sinks are connected: `calls` for iterators first, and what
is called then. -/
structure FirstStep (g : Graph W α) (session : Session W α) (reply : Reply W α Status)
    (calls rest : List (Hook W)) (refusal : Option (PortRef × Fault)) : Prop where
  hooks : reply.session.journal.hooks = session.journal.hooks ++ (calls ++ rest)
  turn : InTurn g.demand calls refusal
  handed : g.Handed calls
  /-- Nothing is called after an iterator was refused. -/
  refused : ∀ port fault, refusal = some (port, fault) →
    rest = [] ∧ reply.answer = .error (.component (g.nameOf port.component) fault)
  /-- If none was refused there is one behind every port that feeds a sink. -/
  made : refusal = none → ∀ id ∈ g.sinks, ∀ root ∈ g.feedersOf id,
    ∃ upstream, lastMade? calls root = some upstream
  /-- A sink is given the iterator that was made behind the port that feeds it. -/
  given : ∀ id ∈ g.sinks, ∀ root ∈ g.feedersOf id, ∀ upstream,
    lastMade? calls root = some upstream → reply.graph.Given id upstream
  /-- Then sinks are set up, and one consumes from the iterator that it was given. -/
  later : ∀ hook ∈ rest, (∃ id answer, hook = .setUp id answer) ∨
    ∃ id ∈ g.sinks, ∃ upstream answer, hook = .consume id upstream answer ∧
      ∀ root ∈ g.feedersOf id, lastMade? calls root = some upstream

theorem FirstStep.requests {g : Graph W α} {session : Session W α} {reply : Reply W α Status}
    {calls rest : List (Hook W)} {refusal : Option (PortRef × Fault)}
    (h : g.FirstStep session reply calls rest refusal) :
    reply.session.requests = session.requests ++ calls.filterMap Hook.request? := by
  have hnone : rest.filterMap Hook.request? = [] := by
    rw [List.filterMap_eq_nil_iff]
    intro hook hhook
    rcases h.later hook hhook with ⟨id, answer, rfl⟩ | ⟨id, -, upstream, answer, rfl, -⟩
    · rfl
    · rfl
  unfold Session.requests
  rw [h.hooks, List.filterMap_append, List.filterMap_append, hnone, List.append_nil]

theorem hooks_setUpSink (g : Graph W α) (id : ComponentId) (session : Session W α) :
    ∃ setUps, (g.setUpSink id session).2.journal.hooks = session.journal.hooks ++ setUps ∧
      ∀ hook ∈ setUps, ∃ id answer, hook = .setUp id answer := by
  unfold setUpSink
  split
  · next sink _ _ =>
    have hhooks := session.hooks_ask sink.setUp (.setUp id)
    refine ⟨[.setUp id (session.ask sink.setUp (.setUp id)).1], ?_, ?_⟩
    · rw [← hhooks]
      split
      · next h => rw [h]
      · next h => rw [h]
    · intro hook hhook
      exact ⟨_, _, List.mem_singleton.mp hhook⟩
  · exact ⟨[], (List.append_nil _).symm, nofun⟩

theorem hooks_makeEach_setUpSink (g : Graph W α) (ids : List ComponentId) (session : Session W α) :
    ∃ setUps, (makeEach g.setUpSink ids session).2.journal.hooks =
        session.journal.hooks ++ setUps ∧
      ∀ hook ∈ setUps, ∃ id answer, hook = .setUp id answer := by
  induction ids generalizing session with
  | nil => exact ⟨[], (List.append_nil _).symm, nofun⟩
  | cons id rest ih =>
    obtain ⟨setUps, hhooks, hall⟩ := hooks_setUpSink g id session
    unfold makeEach
    rcases hmade : g.setUpSink id session with ⟨e | ⟨⟩, between⟩
    · rw [hmade] at hhooks
      exact ⟨setUps, hhooks, hall⟩
    · rw [hmade] at hhooks
      obtain ⟨more, hmore, hothers⟩ := ih between
      refine ⟨setUps ++ more, ?_, fun hook hhook => ?_⟩
      · rw [← List.append_assoc, ← hhooks, ← hmore]
        dsimp only
        split
        · next h => rw [h]
        · next h => rw [h]
      · exact (List.mem_append.mp hhook).elim (hall hook) (hothers hook)

section

variable {g opened : Graph W α} {id : ComponentId} {upstream : Iterator W}
  {session between after : Session W α} {calls : List (Hook W)}

theorem Given.consume (h : g.Given id upstream) (other : ComponentId) (name : String)
    (sink : Sink W α) (iterator : Iterator W) (session : Session W α) :
    (g.consume other name sink iterator session).graph.Given id upstream := by
  unfold Graph.consume
  split
  · exact h
  · exact h
  · exact h
  · have hended : (g.modify other (·.setPhase .ended)).Given id upstream := by
      obtain ⟨sink, hsink⟩ := h
      by_cases hid : id = other
      · subst hid
        exact ⟨sink, .inr (hsink.elim (sink?_setPhase_self · _) (sink?_setPhase_self · _))⟩
      · refine ⟨sink, ?_⟩
        rw [sink?_modify_of_ne g hid]
        exact hsink
    unfold settle
    split
    · exact hended
    · exact hended

theorem Given.feed (h : g.Given id upstream) (hunderway : g.Underway) (session : Session W α) :
    (g.feed session).graph.Given id upstream := by
  obtain ⟨places, _, _, _, _, _, -, -, -, hfeed⟩ := hunderway.feed_eq session
  have hpass : (g.pass (places + 1)).Given id upstream := h
  rw [hfeed]
  exact hpass.consume ..

theorem Given.conclude {reply : Reply W α Status} (h : reply.graph.Given id upstream) :
    (Graph.conclude reply).graph.Given id upstream := by
  unfold Graph.conclude
  split
  · exact h
  · exact h

theorem run_of_openSinks_error {e : GraphError} (hstate : g.state = .configuring)
    (hsinks : g.sinks ≠ []) (h : g.openSinks g.sinks session = ⟨.error e, opened, between⟩) :
    g.run session =
      ⟨.error e, { opened with state := .faulted }, between.log (.configurationFailed e)⟩ := by
  have hempty : g.sinks.isEmpty = false := List.isEmpty_eq_false_iff.mpr hsinks
  unfold run configure
  simp only [hstate, hempty, h, Bool.false_eq_true, if_false]

theorem configure_of_setUp_error {e : GraphError} (hsinks : g.sinks ≠ [])
    (h : g.openSinks g.sinks session = ⟨.ok (), opened, between⟩)
    (hmade : makeEach opened.setUpSink opened.sinks between = (.error e, after)) :
    g.configure session = ⟨.error e, opened, after⟩ := by
  have hempty : g.sinks.isEmpty = false := List.isEmpty_eq_false_iff.mpr hsinks
  unfold configure
  simp only [hempty, h, hmade, Bool.false_eq_true, if_false]

theorem configure_of_setUp_ok {made : List Unit} (hsinks : g.sinks ≠ [])
    (h : g.openSinks g.sinks session = ⟨.ok (), opened, between⟩)
    (hmade : makeEach opened.setUpSink opened.sinks between = (.ok made, after)) :
    g.configure session = ⟨.ok (), { opened with state := .running }, after.log
      (.running opened.components.length opened.connections.length opened.sinks.length)⟩ := by
  have hempty : g.sinks.isEmpty = false := List.isEmpty_eq_false_iff.mpr hsinks
  unfold configure
  simp only [hempty, h, hmade, Bool.false_eq_true, if_false]

theorem Opened.given {ids : List ComponentId} {reply : Reply W α Unit}
    {refusal : Option (PortRef × Fault)} (h : g.Opened ids session reply calls refusal) :
    ∀ id ∈ ids, ∀ root ∈ g.feedersOf id, ∀ upstream, lastMade? calls root = some upstream →
      reply.graph.Given id upstream :=
  fun id hid root hroot upstream hupstream =>
    (h.reads id hid root hroot upstream hupstream).imp fun _ => .inl

theorem Opened.made (hg : g.Coherent) (hacyclic : g.Acyclic) {reply : Reply W α Unit}
    (h : g.Opened g.sinks session reply calls none) :
    ∀ id ∈ g.sinks, ∀ root ∈ g.feedersOf id, ∃ upstream, lastMade? calls root = some upstream := by
  intro id hid root hroot
  exact h.asking.turn.exists_lastMade? rfl
    ((mem_demand hg hacyclic).mpr ⟨id, hid, root, hroot, .refl⟩)

theorem Opened.lastMade?_of_reading (hg : g.Coherent) (hacyclic : g.Acyclic)
    {reply : Reply W α Unit} (h : g.Opened g.sinks session reply calls none)
    (hid : id ∈ g.sinks) {sink : Sink W α}
    (hsink : reply.graph.sink? id = some (sink, .reading upstream)) {root : PortRef}
    (hroot : root ∈ g.feedersOf id) : lastMade? calls root = some upstream := by
  obtain ⟨iterator, hiterator⟩ := h.made hg hacyclic id hid root hroot
  obtain ⟨reader, hreader⟩ := h.reads id hid root hroot iterator hiterator
  cases hreader.symm.trans hsink
  exact hiterator

theorem Opened.firstStep_of_refused {refused : PortRef × Fault} (hstate : g.state = .configuring)
    (hsinks : g.sinks ≠ [])
    (h : g.Opened g.sinks session (g.openSinks g.sinks session) calls (some refused)) :
    g.FirstStep session (g.run session) calls [] (some refused) := by
  rcases hreply : g.openSinks g.sinks session with ⟨answer, opened, between⟩
  rw [hreply] at h
  cases h.answer
  rw [run_of_openSinks_error hstate hsinks hreply]
  exact
    { hooks := by
        rw [Session.hooks_log, List.append_nil]
        exact h.asking.hooks
      turn := h.asking.turn
      handed := h.asking.handed
      refused := by
        rintro port fault ⟨⟩
        exact ⟨rfl, rfl⟩
      made := nofun
      given := h.given
      later := nofun }

/-- All sinks were given their iterators: now they are set up, and one of them consumes. -/
theorem Opened.firstStep_of_made (hreached : g.Reached) (hstate : g.state = .configuring)
    (hsinks : g.sinks ≠ [])
    (h : g.Opened g.sinks session (g.openSinks g.sinks session) calls none) :
    ∃ rest, g.FirstStep session (g.run session) calls rest none := by
  have hg := hreached.coherent
  rcases hreply : g.openSinks g.sinks session with ⟨answer, opened, between⟩
  rw [hreply] at h
  cases h.answer
  obtain ⟨setUps, hhooks, hsetUps⟩ := hooks_makeEach_setUpSink opened opened.sinks between
  have hbetween : between.journal.hooks = session.journal.hooks ++ calls := h.asking.hooks
  rw [hbetween, List.append_assoc] at hhooks
  rcases hmade : makeEach opened.setUpSink opened.sinks between with ⟨e | made, after⟩
  · rw [hmade] at hhooks
    have hconfigure := configure_of_setUp_error hsinks hreply hmade
    have hrun : g.run session = ⟨.error e, { opened with state := .faulted },
        after.log (.configurationFailed e)⟩ := by
      unfold run
      simp only [hstate, hconfigure]
    rw [hrun]
    exact ⟨setUps,
      { hooks := (Session.hooks_log _ _).trans hhooks
        turn := h.asking.turn
        handed := h.asking.handed
        refused := nofun
        made := fun _ => h.made hg hreached.acyclic
        given := h.given
        later := fun hook hhook => .inl (hsetUps hook hhook) }⟩
  · rw [hmade] at hhooks
    have hready : g.Ready session { opened with state := .running } _ :=
      .configured hstate (configure_of_setUp_ok hsinks hreply hmade)
    obtain ⟨hrunning, hunderway, hrun⟩ := hready.underway hg hreached.phased
    obtain ⟨_, served, _, sink, iterator, answer, hturn⟩ := hunderway.tookTurn hrunning
      (after.log (.running opened.components.length opened.connections.length opened.sinks.length))
    rw [← hrun] at hturn
    have hserved : served ∈ g.sinks := by
      rw [← sinks_bare, ← h.bare, sinks_bare]
      exact List.mem_of_getElem? hturn.serves.turn.place
    have hsink : opened.sink? served = some (sink, .reading iterator) :=
      sink?_eq_some_iff.mpr ⟨_, hturn.serves.component, hturn.serves.role⟩
    refine ⟨setUps ++ [.consume served iterator answer], ?_⟩
    exact
      { hooks := by
          rw [hturn.hooks, Session.hooks_log, hhooks]
          simp only [List.append_assoc]
        turn := h.asking.turn
        handed := h.asking.handed
        refused := nofun
        made := fun _ => h.made hg hreached.acyclic
        given := fun id hid root hroot upstream hupstream => by
          have hgiven : { opened with state := .running }.Given id upstream :=
            h.given id hid root hroot upstream hupstream
          rw [hrun]
          exact (hgiven.feed hunderway _).conclude
        later := fun hook hhook => by
          rcases List.mem_append.mp hhook with hhook | hhook
          · exact .inl (hsetUps hook hhook)
          · cases List.mem_singleton.mp hhook
            exact .inr ⟨served, hserved, iterator, _, rfl, fun root hroot =>
              h.lastMade?_of_reading hg hreached.acyclic hserved hsink hroot⟩ }

end

theorem map_some_filterMap {β γ : Type} {f : β → Option γ} {p : β → Bool} {items : List β}
    (h : ∀ item ∈ items, (f item).isSome = p item) :
    (items.filterMap f).map some = (items.filter p).map f := by
  induction items with
  | nil => rfl
  | cons item rest ih =>
    obtain ⟨hitem, hrest⟩ := List.forall_mem_cons.mp h
    cases hf : f item with
    | none =>
      rw [hf] at hitem
      rw [List.filterMap_cons_none hf, List.filter_cons_of_neg (by simp [← hitem]), ih hrest]
    | some found =>
      rw [hf] at hitem
      rw [List.filterMap_cons_some hf, List.filter_cons_of_pos (by simp [← hitem]), List.map_cons,
        List.map_cons, ih hrest, hf]

theorem Coherent.map_feedersOf {g : Graph W α} (hg : g.Coherent) {id : ComponentId}
    {c : Component W α} (hc : g.component? id = some c) :
    (g.feedersOf id).map some =
      (c.inputs.ports.filter (·.isConnected)).map fun port => port.connection.bind g.origin? := by
  rw [feedersOf_eq hc]
  apply map_some_filterMap
  intro port hport
  unfold Port.isConnected
  cases hk : port.connection with
  | none => rfl
  | some k =>
    obtain ⟨i, hi⟩ := List.mem_iff_getElem?.mp hport
    obtain ⟨connection, hconnection, -⟩ := hg.downstream_of_holds rfl (holds?_of_input hc hi hk)
    unfold origin?
    rw [Option.bind_some, hconnection]
    rfl

/--
To make the iterator behind a port is to make those that feed its component, in the order of its
input ports, and then its own. The first step of a graph whose sinks are connected makes the
iterators behind the ports that feed the sinks in this way, one sink after the other, up to the
first that is refused. Every component and every sink is given the iterators that were made behind
the ports that feed it. If none is refused, the step has asked behind exactly those connected ports
that lead to a sink.
-/
theorem made_in_turn {g : Graph W α} (h : g.Reached) (hstate : g.state = .configuring)
    (hconnected : ∀ id ∈ g.sinks, (g.holds? (id.input 0)).isSome) (session : Session W α) :
    (∀ id c, g.component? id = some c → (g.feedersOf id).map some =
      (c.inputs.ports.filter (·.isConnected)).map fun port => port.connection.bind g.origin?) ∧
    (∀ port, g.Outlet port →
      g.orders port = (g.feedersOf port.component).flatMap g.orders ++ [port]) ∧
    (∀ id ∈ g.sinks, ∃ root, g.feedersOf id = [root]) ∧
    ∃ calls rest refusal, g.FirstStep session (g.run session) calls rest refusal ∧
      (refusal = none → ∀ port, port ∈ calls.filterMap Hook.request? ↔
        ∃ c ∈ g.connections, c.upstream = port ∧ g.LeadsToSink c) := by
  have hg := h.coherent
  have hacyclic := h.acyclic
  refine ⟨fun _ _ => hg.map_feedersOf, fun _ => hg.orders_eq hacyclic, fun id hid => ?_, ?_⟩
  · obtain ⟨c, root, -, hroot, -⟩ := hg.root_of_sink hid (hconnected id hid)
    exact ⟨root, hroot⟩
  by_cases hsinks : g.sinks = []
  · have hdemand : g.demand = [] := by
      unfold demand demandOf
      rw [hsinks]
      rfl
    have hrun : g.run session = ⟨.error .noSink, { g with state := .faulted },
        session.log (.configurationFailed .noSink)⟩ := by
      unfold run configure
      simp only [hstate, hsinks, List.isEmpty_nil, if_true]
    refine ⟨[], [], none, ?_, fun _ port => ?_⟩
    · rw [hrun]
      exact
        { hooks := (Session.hooks_log _ _).trans (List.append_nil _).symm
          turn := hdemand ▸ .done
          handed := g.handed_nil
          refused := nofun
          made := by simp [hsinks]
          given := by simp [hsinks]
          later := nofun }
    · rw [← mem_demand_iff hg hacyclic, hdemand]
      rfl
  obtain ⟨calls, refusal, hopened⟩ := hg.opened_openSinks hacyclic (List.Subset.refl _)
    hg.nodup_sinks hconnected session
  cases refusal with
  | some refused =>
    exact ⟨calls, [], _, hopened.firstStep_of_refused hstate hsinks, nofun⟩
  | none =>
    obtain ⟨rest, hstep⟩ := hopened.firstStep_of_made h hstate hsinks
    refine ⟨calls, rest, none, hstep, fun _ port => ?_⟩
    rw [hstep.turn.requests_eq rfl]
    exact mem_demand_iff hg hacyclic

theorem made_in_turn_teed :
    teed.Reached ∧ teed.state = .configuring ∧
      (∀ id ∈ teed.sinks, (teed.holds? (id.input 0)).isSome) ∧
      teed.orders ⟨⟨1⟩, .output, 1⟩ = [tapOut, ⟨⟨1⟩, .output, 1⟩] ∧
      ∃ calls rest refusal,
        teed.FirstStep ⟨.plain false, .empty⟩ (teed.run ⟨.plain false, .empty⟩) calls rest refusal ∧
        calls.filterMap Hook.request? = [tapOut, ⟨⟨1⟩, .output, 0⟩, tapOut] := by
  have hreached : teed.Reached := reachedFrom_carryOut ..
  have hstate : teed.state = .configuring := by decide +kernel
  have hconnected : ∀ id ∈ teed.sinks, (teed.holds? (id.input 0)).isSome := by decide +kernel
  have hfeeders : teed.feedersOf ⟨1⟩ = [tapOut] ∧ teed.feedersOf tapOut.component = [] := by
    decide +kernel
  have hrequests : (teed.run ⟨.plain false, .empty⟩).session.requests =
      [tapOut, ⟨⟨1⟩, .output, 0⟩, tapOut] := by
    decide +kernel
  obtain ⟨-, horders, -, calls, rest, refusal, hstep, -⟩ :=
    made_in_turn hreached hstate hconnected ⟨.plain false, .empty⟩
  refine ⟨hreached, hstate, hconnected, ?_, calls, rest, refusal, hstep, ?_⟩
  · rw [horders _ ⟨rfl, by decide +kernel⟩, hfeeders.1, List.flatMap_singleton,
      horders _ ⟨rfl, by decide +kernel⟩, hfeeders.2]
    rfl
  · exact hstep.requests.symm.trans hrequests

end TraceFlow.Graph
