import TraceFlow.Proofs.FirstStep

/-!
# When a sink is not connected

The first step looks at a sink when it comes to it, and only then. Where it fails for a sink that is
not connected, it has asked for the iterators of all sinks before this one; and where it fails for
one of these iterators, it has not come to the sink at all.
-/

namespace TraceFlow.Graph

variable {W α : Type}

/-- The first sink whose input port is not connected, and the sinks before it. -/
structure FirstUnconnected (g : Graph W α) (before : List ComponentId) (id : ComponentId) :
    Prop where
  place : ∃ after, g.sinks = before ++ id :: after
  connected : ∀ other ∈ before, (g.holds? (other.input 0)).isSome
  unconnected : g.holds? (id.input 0) = none

/-- What the first step leaves that cannot get beyond a sink. Nothing was called but components for
the iterators of the sinks before. -/
structure StopsAt (g : Graph W α) (before : List ComponentId) (id : ComponentId)
    (session : Session W α) (reply : Reply W α Status) (calls : List (Hook W))
    (refusal : Option (PortRef × Fault)) : Prop where
  asking : g.Asking (g.demandOf before) session reply.session calls refusal
  unconnected : refusal = none → reply.answer = .error (.unconnectedSink (g.nameOf id) 0)
  refused : ∀ port fault, refusal = some (port, fault) →
    reply.answer = .error (.component (g.nameOf port.component) fault)
  state : reply.graph.state = .faulted

section

variable {g : Graph W α} {before : List ComponentId} {id : ComponentId} {session : Session W α}
  {calls : List (Hook W)} {refusal : Option (PortRef × Fault)}

theorem exists_firstUnconnected (h : ∃ id ∈ g.sinks, g.holds? (id.input 0) = none) :
    ∃ before id, g.FirstUnconnected before id := by
  obtain ⟨id, hid, hnone⟩ := h
  have hfound : (g.sinks.find? fun id => (g.holds? (id.input 0)).isNone).isSome := by
    rw [List.find?_isSome]
    exact ⟨id, hid, Option.isNone_iff_eq_none.mpr hnone⟩
  obtain ⟨first, hfirst⟩ := Option.isSome_iff_exists.mp hfound
  obtain ⟨hunconnected, before, after, hsplit, hbefore⟩ := List.find?_eq_some_iff_append.mp hfirst
  refine ⟨before, first, ⟨after, hsplit⟩, fun other hother => ?_, ?_⟩
  · simpa using hbefore other hother
  · exact Option.isNone_iff_eq_none.mp hunconnected

theorem openSinks_append (g : Graph W α) (ids more : List ComponentId) (session : Session W α) :
    g.openSinks (ids ++ more) session =
      match g.openSinks ids session with
      | ⟨.error e, g, session⟩ => ⟨.error e, g, session⟩
      | ⟨.ok (), g, session⟩ => g.openSinks more session := by
  induction ids generalizing g session with
  | nil => rfl
  | cons id rest ih =>
    simp only [List.cons_append, openSinks]
    rcases g.openSink id session with ⟨e | ⟨⟩, between, opened⟩
    · rfl
    · exact ih between opened

theorem Coherent.openSink_of_unconnected (hg : g.Coherent) (hid : id ∈ g.sinks)
    (h : g.holds? (id.input 0) = none) (session : Session W α) :
    g.openSink id session = ⟨.error (.unconnectedSink (g.nameOf id) 0), g, session⟩ := by
  obtain ⟨c, hc⟩ := Option.isSome_iff_exists.mp (hg.component_of_sink hid)
  obtain ⟨input, hinput, hindex, hheld⟩ := hg.input_of_sink hid hc
  rw [h] at hheld
  have hfound : c.inputs.ports.find? (!·.isConnected) = some input := by
    rw [hinput]
    simp [Port.isConnected, ← hheld]
  unfold openSink sinkFeeder
  simp only [hc, hfound, hindex, nameOf_eq hc]

theorem FirstUnconnected.stopsAt (h : g.FirstUnconnected before id) (hreached : g.Reached)
    (hstate : g.state = .configuring) (session : Session W α) :
    ∃ calls refusal, g.StopsAt before id session (g.run session) calls refusal := by
  have hg := hreached.coherent
  obtain ⟨after, hsinks⟩ := h.place
  have hnodup := hg.nodup_sinks
  rw [hsinks] at hnodup
  have hbefore : before ⊆ g.sinks := by
    rw [hsinks]
    exact List.subset_append_left _ _
  have hid : id ∈ g.sinks := by
    rw [hsinks]
    exact List.mem_append_right _ List.mem_cons_self
  have hsome : g.sinks ≠ [] := List.ne_nil_of_mem hid
  obtain ⟨calls, refusal, hopened⟩ := hg.opened_openSinks hreached.acyclic hbefore
    (List.nodup_append.mp hnodup).1 h.connected session
  have hall := openSinks_append g before (id :: after) session
  rw [← hsinks] at hall
  rcases hreply : g.openSinks before session with ⟨answer, between, opened⟩
  rw [hreply] at hopened hall
  refine ⟨calls, refusal, ?_⟩
  cases refusal with
  | some refused =>
    cases hopened.answer
    rw [run_of_openSinks_error hstate hsome hall]
    exact
      { asking := ⟨(Session.hooks_log _ _).trans hopened.asking.hooks, hopened.asking.turn,
          hopened.asking.handed⟩
        unconnected := fun hnone => by cases hnone
        refused := by
          rintro port fault ⟨⟩
          rfl
        state := rfl }
  | none =>
    cases hopened.answer
    have hbare : between.bare = g.bare := hopened.bare
    have hthere : id ∈ between.sinks := by
      rw [← sinks_bare, hbare, sinks_bare]
      exact hid
    have hfree : between.holds? (id.input 0) = none := by
      rw [← holds?_bare, hbare, holds?_bare]
      exact h.unconnected
    have hone := (hg.of_bare_eq hbare).openSink_of_unconnected hthere hfree opened
    have hstop : g.openSinks g.sinks session =
        ⟨.error (.unconnectedSink (between.nameOf id) 0), between, opened⟩ := by
      rw [hall]
      unfold openSinks
      simp only [hone]
    rw [run_of_openSinks_error hstate hsome hstop, nameOf_of_bare_eq hbare]
    exact
      { asking := ⟨(Session.hooks_log _ _).trans hopened.asking.hooks, hopened.asking.turn,
          hopened.asking.handed⟩
        unconnected := fun _ => rfl
        refused := fun _ _ hsome => by cases hsome
        state := rfl }

theorem FirstUnconnected.demandOf_eq_nil_iff (h : g.FirstUnconnected before id) (hg : g.Coherent)
    (hacyclic : g.Acyclic) : g.demandOf before = [] ↔ before = [] := by
  constructor
  · intro hnone
    rw [List.eq_nil_iff_forall_not_mem]
    intro other hother
    obtain ⟨after, hsinks⟩ := h.place
    have hsink : other ∈ g.sinks := by
      rw [hsinks]
      exact List.mem_append_left _ hother
    obtain ⟨c, root, -, hroot, -⟩ := hg.root_of_sink hsink (h.connected other hother)
    have hmem : root ∈ g.feedersOf other := by
      rw [hroot]
      exact List.mem_singleton.mpr rfl
    have hdemanded : root ∈ g.demandOf before := by
      refine List.mem_flatMap.mpr ⟨other, hother, List.mem_flatMap.mpr ⟨root, hmem, ?_⟩⟩
      rw [hg.orders_eq hacyclic (hg.outlet_of_feeder hmem)]
      exact List.mem_append_right _ (List.mem_singleton.mpr rfl)
    rw [hnone] at hdemanded
    cases hdemanded
  · rintro rfl
    rfl

end

/--
Where a sink is not connected the first step fails, and it calls nothing but components for the
iterators of the sinks before the first such sink. It fails for want of the connection if these
could all be made, and else for the first that was refused. So it fails for want of the connection,
and has called nothing, exactly if the sink is the first of all.
-/
theorem unconnected_first_iff {g : Graph W α} (h : g.Reached) (hstate : g.state = .configuring)
    (hsome : ∃ id ∈ g.sinks, g.holds? (id.input 0) = none) (session : Session W α) :
    ∃ before id calls refusal, g.FirstUnconnected before id ∧
      g.StopsAt before id session (g.run session) calls refusal ∧
      ((g.run session).answer = .error (.unconnectedSink (g.nameOf id) 0) ∧
          (g.run session).session.journal.hooks = session.journal.hooks ↔
        g.sinks.head? = some id) := by
  have hg := h.coherent
  obtain ⟨before, id, hfirst⟩ := exists_firstUnconnected hsome
  obtain ⟨calls, refusal, hstops⟩ := hfirst.stopsAt h hstate session
  have hcalls : calls = [] ↔ before = [] :=
    hstops.asking.turn.calls_eq_nil_iff.trans (hfirst.demandOf_eq_nil_iff hg h.acyclic)
  obtain ⟨after, hsinks⟩ := hfirst.place
  refine ⟨before, id, calls, refusal, hfirst, hstops, ?_⟩
  constructor
  · rintro ⟨-, hsame⟩
    have hnone : calls = [] := by
      rw [hstops.asking.hooks] at hsame
      exact List.append_right_eq_self.mp hsame
    rw [hsinks, hcalls.mp hnone]
    rfl
  · intro hhead
    have hnone : before = [] := by
      cases before with
      | nil => rfl
      | cons other rest =>
        have hother : other = id := by
          rw [hsinks] at hhead
          exact Option.some.inj hhead
        have hconnected := hfirst.connected other List.mem_cons_self
        rw [hother, hfirst.unconnected] at hconnected
        cases hconnected
    have hturn := hstops.asking.turn
    rw [hnone] at hturn
    rw [hstops.asking.hooks, hcalls.mpr hnone, List.append_nil]
    refine ⟨hstops.unconnected ?_, rfl⟩
    cases hturn
    rfl

/-- Two sinks behind a source whose stream can be taken once; the second is not connected. -/
def lopsided : Graph Bool Unit :=
  empty.carryOut ⟨.plain false, .empty⟩
    [.addSource onceTap "tap" .empty .info, .addSink cup "left", .addSink cup "right",
      .connect tapOut cupIn]

theorem unconnected_first_lopsided :
    lopsided.Reached ∧ lopsided.state = .configuring ∧
      (∃ id ∈ lopsided.sinks, lopsided.holds? (id.input 0) = none) ∧
      ∃ before id calls refusal, lopsided.FirstUnconnected before id ∧
        lopsided.StopsAt before id ⟨.plain false, .empty⟩ (lopsided.run ⟨.plain false, .empty⟩)
          calls refusal := by
  have hreached : lopsided.Reached := reachedFrom_carryOut ..
  have hstate : lopsided.state = .configuring := by decide +kernel
  have hsome : ∃ id ∈ lopsided.sinks, lopsided.holds? (id.input 0) = none := by decide +kernel
  obtain ⟨before, id, calls, refusal, hfirst, hstops, -⟩ :=
    unconnected_first_iff hreached hstate hsome ⟨.plain false, .empty⟩
  exact ⟨hreached, hstate, hsome, before, id, calls, refusal, hfirst, hstops⟩

theorem lopsided_asks :
    lopsided.Reached ∧ lopsided.state = .configuring ∧
      (∃ id ∈ lopsided.sinks, lopsided.holds? (id.input 0) = none) ∧
      (lopsided.run ⟨.plain false, .empty⟩).session.requests = [tapOut] ∧
      (lopsided.run ⟨.plain false, .empty⟩).answer = .error (.unconnectedSink "right" 0) ∧
      (lopsided.run ⟨.plain true, .empty⟩).answer =
        .error (.component "tap" ⟨"no stream behind output port 0", []⟩) := by
  have hsome : ∃ id ∈ lopsided.sinks, lopsided.holds? (id.input 0) = none := by decide +kernel
  have hrequests : (lopsided.run ⟨.plain false, .empty⟩).session.requests = [tapOut] := by
    decide +kernel
  have hanswer : (lopsided.run ⟨.plain false, .empty⟩).answer =
      .error (.unconnectedSink "right" 0) := by
    decide +kernel
  have hrefused : (lopsided.run ⟨.plain true, .empty⟩).answer =
      .error (.component "tap" ⟨"no stream behind output port 0", []⟩) := by
    decide +kernel
  exact ⟨reachedFrom_carryOut .., by decide +kernel, hsome, hrequests, hanswer, hrefused⟩

end TraceFlow.Graph
