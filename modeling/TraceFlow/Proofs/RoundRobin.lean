import TraceFlow.Proofs.Protocol

/-!
# Every sink has its turn

A step feeds one sink, the first from the cursor on that has not ended. So between two turns of a
sink every other one that still reads has exactly one.
-/

namespace TraceFlow

variable {W α : Type}

theorem endedIn_of_calls {hooks feedings : List (Hook W)} {sinks : List ComponentId}
    (h : sinkCalls hooks = sinks.map .ready ++ feedings) : endedIn hooks = endedIn feedings := by
  have hnone : endedIn (sinks.map (Hook.ready (W := W))) = [] :=
    filterMap_map_of_none (fun _ => rfl) sinks
  rw [← endedIn_sinkCalls, h, endedIn_append, hnone, List.nil_append]

namespace Graph

theorem Turns.hasEnded_iff {g : Graph W α} {calls : List (Hook W)}
    (h : Turns g.sinks calls g.waiting) (hnodup : g.sinks.Nodup) {id : ComponentId}
    (hid : id ∈ g.sinks) : g.hasEnded id = true ↔ id ∈ endedIn calls := by
  have hmem : id ∈ g.waiting ↔ id ∈ g.sinks ∧ id ∉ endedIn calls := h.mem_iff hnodup
  rw [mem_waiting, ← Bool.not_eq_true] at hmem
  tauto

/-- Between two turns of a sink, each of the others that has not ended has one. -/
theorem Called.count_fedIn {sinks : List ComponentId} (hnodup : sinks.Nodup)
    {before between after : List (Hook W)} {id other : ComponentId} {first last : Iterator W}
    {answer answer' : Except Fault Status}
    (h : Called sinks (sinkCalls (before ++ .consume id first answer ::
      (between ++ .consume id last answer' :: after))))
    (hnot : id ∉ fedIn between) (hother : other ∈ sinks) (hne : other ≠ id) :
    (fedIn between).count other = if other ∈ endedIn before then 0 else 1 := by
  have hcalls : sinkCalls (before ++ .consume id first answer ::
      (between ++ .consume id last answer' :: after)) =
      sinkCalls before ++ .consume id first answer ::
        (sinkCalls between ++ .consume id last answer' :: sinkCalls after) := by
    rw [sinkCalls_append]
    unfold sinkCalls
    simp [Hook.sink?]
  rw [hcalls] at h
  obtain ⟨feedings, _, hbefore, hturns⟩ := h.of_consume
  obtain ⟨queue, hqueue, heq⟩ := hturns.fedIn_between hnodup (by rwa [fedIn_sinkCalls])
  -- The queue at the first of the two turns holds just those fed until the second.
  have hended : endedIn feedings = endedIn before := (endedIn_of_calls hbefore).symm
  rw [fedIn_sinkCalls] at heq
  have hmem : other ∈ fedIn between ↔ other ∉ endedIn before := by
    have hstill : other ∈ queue ↔ other ∈ sinks ∧ other ∉ endedIn feedings :=
      hqueue.mem_iff hnodup
    rw [heq, List.mem_cons, hended] at hstill
    tauto
  have hrest : (fedIn between).Nodup := (List.nodup_cons.mp (heq ▸ hqueue.nodup hnodup)).2
  rw [hrest.count]
  by_cases hover : other ∈ endedIn before
  · rw [if_pos hover, if_neg fun h => hmem.mp h hover]
  · rw [if_neg hover, if_pos (hmem.mpr hover)]

end Graph

namespace Past

theorem Orderly.ready_ended {past : Past W α} (h : past.Orderly) (hreached : past.graph.Reached)
    {scene : Scene W α} {ready : Graph W α} {opened : Session W α}
    (hready : past.graph.Ready ⟨scene, past.journal⟩ ready opened) :
    fedIn opened.journal.hooks = fedIn past.journal.hooks ∧
      endedIn opened.journal.hooks = endedIn past.journal.hooks := by
  cases hready with
  | running hstate => exact ⟨rfl, rfl⟩
  | configured hstate hconfigure =>
    have hcalls := Graph.calls_configure hreached.coherent ⟨scene, past.journal⟩
    rw [hconfigure] at hcalls
    rcases hcalls with ⟨-, hcalls⟩ | ⟨⟨e, he⟩, -⟩
    · have hnone : sinkCalls past.journal.hooks = [] := h.idle hstate
      have hsome : sinkCalls opened.journal.hooks = past.graph.sinks.map .ready := by
        rw [show sinkCalls opened.journal.hooks = sinkCalls past.journal.hooks ++ _ from hcalls,
          hnone, List.nil_append]
      rw [← fedIn_sinkCalls, ← fedIn_sinkCalls past.journal.hooks, ← endedIn_sinkCalls,
        ← endedIn_sinkCalls past.journal.hooks, hnone, hsome]
      exact ⟨filterMap_map_of_none (fun _ => rfl) _, filterMap_map_of_none (fun _ => rfl) _⟩
    · cases he

theorem Orderly.turned {past : Past W α} (h : past.Orderly) (hreached : past.graph.Reached)
    {scene : Scene W α} {ready : Graph W α} {opened : Session W α}
    (hready : past.graph.Ready ⟨scene, past.journal⟩ ready opened) :
    ∃ places id c sink upstream answer,
      ready.TookTurn opened (past.graph.run ⟨scene, past.journal⟩) places id c sink upstream
        answer ∧
      fedIn (past.step ⟨.run, scene⟩).journal.hooks = fedIn past.journal.hooks ++ [id] ∧
      ∀ other ∈ ready.sinks,
        (ready.hasEnded other = true ↔ other ∈ endedIn past.journal.hooks) ∧
        ((past.step ⟨.run, scene⟩).graph.hasEnded other = true ↔
          other ∈ endedIn (past.step ⟨.run, scene⟩).journal.hooks) := by
  obtain ⟨hstate, hunderway, hrun⟩ := hready.underway hreached.coherent hreached.phased
  obtain ⟨hfed, hended⟩ := h.ready_ended hreached hready
  obtain ⟨places, id, c, sink, upstream, answer, hturn⟩ := hunderway.tookTurn hstate opened
  obtain ⟨feedings, hcalls, hqueue, hlater, hmoved⟩ := h.moved hreached hready hturn
  have hbefore : endedIn feedings = endedIn past.journal.hooks := by
    rw [← hended]
    exact (endedIn_of_calls hcalls).symm
  have hafter := endedIn_of_calls hlater
  have hsame : ready.sinks = (Graph.conclude (ready.feed opened)).graph.sinks :=
    (Graph.sinks_of_bare_eq hturn.bare).symm
  have hnodup : ready.sinks.Nodup := hunderway.nodup
  rw [step_of_run hrun, hrun]
  refine ⟨places, id, c, sink, upstream, answer, hturn, ?_, ?_⟩
  · rw [hturn.hooks, fedIn_append, hfed]
    rfl
  · intro other hother
    rw [← hbefore, hafter]
    exact ⟨hqueue.hasEnded_iff hnodup hother,
      hmoved.hasEnded_iff (hsame ▸ hnodup) (hsame ▸ hother)⟩

/--
A step that gets past the configuration, in a graph that has neither ended nor faulted, feeds one
sink and passes the turn on, as `TookTurn` says; a sink has ended when it answered so. Between two
turns of a sink every other one is fed once, and not at all if it had ended.
-/
theorem round_robin (life : List (Deed W α)) (scene : Scene W α) :
    (∀ ready opened, (of life).graph.Ready ⟨scene, (of life).journal⟩ ready opened →
      ready.sinks = (of life).graph.sinks ∧ ready.cursor = (of life).graph.cursor ∧
      ∃ places id c sink upstream answer,
        ready.TookTurn opened ((of life).graph.run ⟨scene, (of life).journal⟩) places id c sink
          upstream answer ∧
        fedIn ((of life).step ⟨.run, scene⟩).journal.hooks =
          fedIn (of life).journal.hooks ++ [id] ∧
        ∀ other ∈ ready.sinks,
          (ready.hasEnded other = true ↔ other ∈ endedIn (of life).journal.hooks) ∧
          (((of life).step ⟨.run, scene⟩).graph.hasEnded other = true ↔
            other ∈ endedIn ((of life).step ⟨.run, scene⟩).journal.hooks)) ∧
    ∀ before between after id first last answer answer',
      (of life).journal.hooks = before ++ .consume id first answer ::
        (between ++ .consume id last answer' :: after) →
      id ∉ fedIn between → ∀ other ∈ (of life).graph.sinks, other ≠ id →
        (fedIn between).count other = if other ∈ endedIn before then 0 else 1 := by
  have horderly := orderly_of life
  have hreached := reached_of life
  constructor
  · intro ready opened hready
    obtain ⟨hsinks, -⟩ := horderly.ready hreached hready
    exact ⟨hsinks, hready.cursor, horderly.turned hreached hready⟩
  · intro before between after id first last answer answer' hhooks hnot other hother hne
    have hcalled := horderly.called
    unfold calls at hcalled
    rw [hhooks] at hcalled
    exact hcalled.count_fedIn (coherent_of life).nodup_sinks hnot hother hne

def sip : Sink Nat Unit where
  setUp := pure ()
  consume _ := return if (← get).1 = 0 then .ended else .again
  tidyUp := id

/-- Two sinks, each behind a source, and six steps; in the fourth of them a sink ends. -/
def sipped : List (Deed Nat Unit) :=
  [⟨.addSource Graph.tap "still" .empty .info, .plain 1⟩,
    ⟨.addSource Graph.tap "spring" .empty .info, .plain 1⟩,
    ⟨.addSink sip "left", .plain 1⟩, ⟨.addSink sip "right", .plain 1⟩,
    ⟨.connect Graph.tapOut ⟨⟨2⟩, .input, 0⟩, .plain 1⟩,
    ⟨.connect ⟨⟨1⟩, .output, 0⟩ ⟨⟨3⟩, .input, 0⟩, .plain 1⟩,
    ⟨.run, .plain 1⟩, ⟨.run, .plain 1⟩, ⟨.run, .plain 1⟩, ⟨.run, .plain 0⟩, ⟨.run, .plain 1⟩,
    ⟨.run, .plain 1⟩]

theorem exists_of_fedIn_eq_cons {calls : List (Hook W)} {id : ComponentId}
    {others : List ComponentId} (h : fedIn calls = id :: others) :
    ∃ before upstream answer after, calls = before ++ .consume id upstream answer :: after ∧
      fedIn before = [] ∧ fedIn after = others := by
  obtain ⟨before, call, after, rfl, hbefore, hcall, hafter⟩ := List.filterMap_eq_cons_iff.mp h
  have hnone : fedIn before = [] := List.filterMap_eq_nil_iff.mpr hbefore
  cases call <;> cases hcall
  exact ⟨before, _, _, after, rfl, hnone, hafter⟩

theorem round_robin_sipped :
    fedIn (of sipped).journal.hooks = [⟨2⟩, ⟨3⟩, ⟨2⟩, ⟨3⟩, ⟨2⟩, ⟨2⟩] ∧
      endedIn (of sipped).journal.hooks = [⟨3⟩] ∧
      (of sipped).graph.Ready ⟨.plain 1, (of sipped).journal⟩ (of sipped).graph
        ⟨.plain 1, (of sipped).journal⟩ ∧
      (∃ places id c sink upstream answer,
        (of sipped).graph.TookTurn ⟨.plain 1, (of sipped).journal⟩
          ((of sipped).graph.run ⟨.plain 1, (of sipped).journal⟩) places id c sink upstream
          answer) ∧
      ∃ before between after first last answer answer',
        (of sipped).journal.hooks = before ++ .consume ⟨2⟩ first answer ::
          (between ++ .consume ⟨2⟩ last answer' :: after) ∧
        fedIn between = [⟨3⟩] ∧
        (fedIn between).count ⟨3⟩ = if ⟨3⟩ ∈ endedIn before then 0 else 1 := by
  obtain ⟨hturns, hbetween⟩ := round_robin sipped (.plain 1)
  have hfed : fedIn (of sipped).journal.hooks = [⟨2⟩, ⟨3⟩, ⟨2⟩, ⟨3⟩, ⟨2⟩, ⟨2⟩] := by
    decide +kernel
  have hready : (of sipped).graph.Ready ⟨.plain 1, (of sipped).journal⟩ (of sipped).graph
      ⟨.plain 1, (of sipped).journal⟩ := .running (by decide +kernel)
  obtain ⟨-, -, places, id, c, sink, upstream, answer, hturn, -⟩ := hturns _ _ hready
  refine ⟨hfed, by decide +kernel, hready, ⟨places, id, c, sink, upstream, answer, hturn⟩, ?_⟩
  -- The first sink has the first turn and the third, and the second sink the one between.
  obtain ⟨before, first, answer, _, hhooks, -, hothers⟩ := exists_of_fedIn_eq_cons hfed
  obtain ⟨idle, other, middle, _, rfl, hidle, hothers⟩ := exists_of_fedIn_eq_cons hothers
  obtain ⟨pause, last, answer', after, rfl, hpause, -⟩ := exists_of_fedIn_eq_cons hothers
  rw [show idle ++ .consume ⟨3⟩ other middle :: (pause ++ .consume ⟨2⟩ last answer' :: after) =
    (idle ++ .consume ⟨3⟩ other middle :: pause) ++ .consume ⟨2⟩ last answer' :: after from
      (List.append_assoc idle (_ :: pause) _).symm] at hhooks
  have hone : fedIn (idle ++ .consume ⟨3⟩ other middle :: pause) = [⟨3⟩] := by
    rw [fedIn_append, hidle, fedIn_consume, hpause]
    rfl
  have hnot : ⟨2⟩ ∉ fedIn (idle ++ .consume ⟨3⟩ other middle :: pause) := by
    rw [hone]
    decide
  exact ⟨before, _, after, first, last, answer, answer', hhooks, hone,
    hbetween _ _ _ _ _ _ _ _ hhooks hnot ⟨3⟩ (by decide +kernel) (by decide)⟩

end Past

end TraceFlow
