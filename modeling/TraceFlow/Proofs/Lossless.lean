import TraceFlow.Proofs.Answers
import TraceFlow.Proofs.Slot
import TraceFlow.Proofs.Solo

/-!
# No batch is lost

The reader of batches yields what the iterator behind its sink answers: every batch, up to the first
error or the end. Each batch goes through the slot, which is empty again before the next one comes.
-/

namespace TraceFlow

variable {W : Type}

namespace Graph

/-- A running graph whose only sink is a collector and reads from the iterator. -/
structure Flowing (g : Graph W Slot) (sinkName : String) (upstream : Iterator W) : Prop where
  state : g.state = .running
  cursor : g.cursor = 0
  sink : ∃ id c, g.sinks = [id] ∧ g.component? id = some c ∧ c.name = sinkName ∧
    c.role = .sink (collector W) (.reading upstream)

def stepFor (sinkName : String) : Except Fault Next → Except GraphError (Status)
  | .ok answer => .ok answer.status
  | .error fault => .error (.sink sinkName fault)

theorem Flowing.run {g : Graph W Slot} {sinkName : String} {upstream : Iterator W}
    (h : g.Flowing sinkName upstream) (session : Session W Slot) :
    (g.run session).answer = stepFor sinkName (upstream.next.on session.world).1 ∧
      (g.run session).session.world = (upstream.next.on session.world).2 ∧
      (g.run session).session.shared =
        slotAfter session.shared (upstream.next.on session.world).1 ∧
      (isLast (upstream.next.on session.world).1 = false →
        (g.run session).graph.Flowing sinkName upstream) := by
  obtain ⟨id, c, hsinks, hc, hname, hrole⟩ := h.sink
  have hsolo : g.Solo id sinkName (collector W) (.reading upstream) :=
    ⟨hsinks, h.cursor, c, hc, hname, hrole⟩
  rcases hask : askSink id (collector W) upstream session with ⟨answer, asked⟩
  obtain ⟨later, closed, hrun, hclosed, hstate, hrunning⟩ := hsolo.run h.state hask
  have hconsume := collector_consume_on upstream session.world session.shared
  unfold askSink Session.ask at hask
  rw [hconsume] at hask
  cases hask
  rw [hrun]
  refine ⟨?_, congrArg Scene.world hclosed.scene, congrArg Scene.shared hclosed.scene,
    fun hlast => ?_⟩
  · rcases (upstream.next.on session.world).1 with _ | _ <;> rfl
  · have hgoes : later.state = .running := by
      rw [hstate]
      rcases hanswer : (upstream.next.on session.world).1 with fault | ⟨messages⟩ | _ | _
      · rw [hanswer] at hlast
        cases hlast
      · rfl
      · rfl
      · rw [hanswer] at hlast
        cases hlast
    have hlater := hrunning hgoes
    obtain ⟨c', hc', hname', hrole'⟩ := hlater.component
    exact ⟨hgoes, hlater.cursor, id, c', hlater.sinks, hc', hname', hrole'⟩

end Graph

/-! ## One call -/

def pulledFor (sinkName : String) : Except Fault Next → Pulled
  | .ok (.batch _) => .hasMessages
  | .ok .again => .waiting
  | .ok .ended => .endOfStream
  | .error fault => .failed (.execution (.sink sinkName fault))

theorem pull_of_settles {context : Context W Slot} {sinkName : String} {upstream : Iterator W}
    (h : context.graph.Flowing sinkName upstream) {session : Session W Slot}
    {answer : Except Fault Next} {last : W}
    (hsettles : upstream.Settles session.world answer last) :
    ∃ patience later closed,
      context.pull (patience + 1) session = (pulledFor sinkName answer, later, closed) ∧
      closed.world = last ∧ closed.shared = slotAfter session.shared answer ∧
      (isLast answer = false → later.graph.Flowing sinkName upstream) := by
  generalize hworld : session.world = world at hsettles
  induction hsettles generalizing context session with
  | now hnow =>
    subst hworld
    obtain ⟨hanswer, hclosed, hslot, hflowing⟩ := h.run session
    rcases hreply : context.graph.run session with ⟨reply, graph, closed⟩
    rw [hreply] at hanswer hclosed hslot hflowing
    refine ⟨0, { context with graph }, closed, ?_, hclosed, hslot, hflowing⟩
    rw [Context.pull, hreply]
    simp only at hanswer
    rw [hanswer]
    rcases hgot : (upstream.next.on session.world).1 with fault | ⟨messages⟩ | _ | _
    · rfl
    · rfl
    · exact absurd hgot hnow
    · rfl
  | later hagain _ ih =>
    subst hworld
    obtain ⟨hanswer, hclosed, hslot, hflowing⟩ := h.run session
    rcases hreply : context.graph.run session with ⟨reply, graph, closed⟩
    rw [hreply] at hanswer hclosed hslot hflowing
    rw [hagain] at hanswer hslot hflowing
    -- What lay in the slot lies there still.
    replace hslot : closed.shared = session.shared := hslot
    let stepped : Context W Slot := { context with graph }
    have hstepped : stepped.graph.Flowing sinkName upstream := hflowing rfl
    obtain ⟨patience, later, last, hpull, hrest⟩ := ih hstepped hclosed
    rw [hslot] at hrest
    refine ⟨patience + 1, later, last, ?_, hrest⟩
    rw [Context.pull, hreply]
    simp only at hanswer
    rw [hanswer]
    exact hpull

/-! ## The first call -/

namespace Context.Wired

variable {context : Context W Slot} {sinkName : String} {session between : Session W Slot}

theorem run_of_error (h : context.Wired (collector W) sinkName) {e : GraphError}
    (hiterator : context.graph.iterator (context.filter.output 0) session = (.error e, between)) :
    ∃ failed last, context.graph.run session = ⟨.error e, failed, last⟩ := by
  obtain ⟨failed, last, hrun, -, -⟩ :=
    Graph.run_of_configure_error h.state (h.configure_of_error hiterator)
  exact ⟨failed, last, hrun⟩

theorem run_of_ok (h : context.Wired (collector W) sinkName) {upstream : Iterator W}
    (hiterator : context.graph.iterator (context.filter.output 0) session =
      (.ok upstream, between)) :
    ∃ (ready : Graph W Slot) (opened : Session W Slot), ready.Flowing sinkName upstream ∧
      opened.toScene = between.toScene ∧ context.graph.run session = ready.run opened := by
  have hask : between.ask (collector W).setUp (.setUp context.sink) =
      (.ok (), (between.ask (collector W).setUp (.setUp context.sink)).2) := rfl
  obtain ⟨ready, closed, hconfigure, hclosed, hready⟩ := h.configure_of_ok hiterator hask
  obtain ⟨hstate, hsolo⟩ := hready rfl
  obtain ⟨c, hc, hname, hrole⟩ := hsolo.component
  exact ⟨ready, closed, ⟨hstate, hsolo.cursor, _, c, hsolo.sinks, hc, hname, hrole⟩,
    hclosed.scene, Graph.run_of_configure_ok h.state hconfigure hstate⟩

end Context.Wired

namespace Batches

theorem comes_of_settles {context : Context W Slot} {sinkName : String} {upstream : Iterator W}
    (h : context.graph.Flowing sinkName upstream) (slot : Slot) {session : Session W Unit}
    {answer : Except Fault Next} {last : W}
    (hsettles : upstream.Settles session.world answer last) :
    ∃ later closed,
      Comes next ⟨some context, slot⟩ session (drawnFor sinkName answer, later, closed) ∧
      ∀ messages, answer = .ok (.batch messages) → closed.world = last ∧
        ∃ context', later = ⟨some context', none⟩ ∧
          context'.graph.Flowing sinkName upstream := by
  have hshared : upstream.Settles (session.sharing slot).world answer last := hsettles
  obtain ⟨patience, context', closed, hpull, hclosed, hslot, hflowing⟩ :=
    pull_of_settles h hshared
  have hnext := next_some (patience + 1) context slot session
  have hcame := drawnFor_ne_waiting sinkName hsettles.answer_ne
  rw [draw, hpull] at hnext
  rcases answer with fault | ⟨messages⟩ | _ | _
  · exact ⟨_, _, comes_of_next hnext hcame, fun _ h => by cases h⟩
  · -- The batch has come into the slot, whatever lay there before.
    replace hslot : closed.shared = some messages := hslot
    simp only [pulledFor, hslot] at hnext
    exact ⟨_, _, comes_of_next hnext hcame, fun _ _ => ⟨hclosed, context', rfl, hflowing rfl⟩⟩
  · exact absurd rfl hsettles.answer_ne
  · exact ⟨_, _, comes_of_next hnext hcame, fun _ h => by cases h⟩

/-- A reader yields what is to be yielded for the answers of the iterator. -/
theorem reads_yielded {context : Context W Slot} {sinkName : String} {upstream : Iterator W}
    (h : context.graph.Flowing sinkName upstream) (slot : Slot) (session : Session W Unit)
    (count : Nat) :
    ∃ later last, Reads next ⟨some context, slot⟩ session
      (yielded sinkName (upstream.answers count session.world)) later last := by
  -- Some answers yield nothing, so one item can take more than one of them.
  induction count using Nat.strongRecOn generalizing context slot session with
  | ind count ih =>
    rcases upstream.yielded_answers_cases sinkName count session.world with
      hnone | ⟨answer, last, hsettles, ⟨-, hyielded⟩ | ⟨messages, left, rfl, hleft, hyielded⟩⟩
    · rw [hnone]
      exact ⟨_, _, .nil _ _⟩
    · obtain ⟨later, closed, hcomes, -⟩ := comes_of_settles h slot hsettles
      rw [hyielded]
      exact ⟨_, _, .cons hcomes (.nil _ _)⟩
    · obtain ⟨later, closed, hcomes, hbatch⟩ := comes_of_settles h slot hsettles
      obtain ⟨hclosed, context', rfl, hflowing⟩ := hbatch messages rfl
      obtain ⟨later, last, hreads⟩ := ih left hleft hflowing none closed
      rw [hyielded, ← hclosed]
      exact ⟨later, last, .cons hcomes hreads⟩

theorem comes_of_run_eq {context : Context W Slot} {ready : Graph W Slot} {slot : Slot}
    {session : Session W Unit} {opened : Session W Slot}
    (h : context.graph.run (session.sharing slot) = ready.run opened)
    {outcome : Drawn Batch × Batches W × Session W Unit}
    (hcomes : Comes next ⟨some { context with graph := ready }, opened.shared⟩
      (opened.sharing ()) outcome) :
    Comes next ⟨some context, slot⟩ session outcome := by
  obtain ⟨hcame, enough, hcomes⟩ := hcomes
  have hdraw (patience : Nat) : draw (patience + 1) context (session.sharing slot) =
      draw (patience + 1) { context with graph := ready } opened := by
    have hpull : context.pull (patience + 1) (session.sharing slot) =
        Context.pull (patience + 1) { context with graph := ready } opened := by
      rw [Context.pull, Context.pull, h]
    rw [draw, draw, hpull]
  have hnext : next (enough + 1) ⟨some context, slot⟩ session =
      next (enough + 1) ⟨some { context with graph := ready }, opened.shared⟩
        (opened.sharing ()) := by
    rw [next_some, next_some, hdraw]
    rfl
  exact comes_of_next (hnext.trans (hcomes (enough + 1) (Nat.le_succ _))) hcame

theorem comes_of_run_error {context : Context W Slot} {slot : Slot} {session : Session W Unit}
    {last : Session W Slot} {e : GraphError} {failed : Graph W Slot}
    (h : context.graph.run (session.sharing slot) = ⟨.error e, failed, last⟩) :
    ∃ later last, Comes next ⟨some context, slot⟩ session
      (.failed (.execution e), later, last) := by
  have hnext := next_some 1 context slot session
  rw [draw, Context.pull, h] at hnext
  exact ⟨_, _, comes_of_next hnext (by simp)⟩

/-- Asked any number of times, a reader yields items that another one, asked more often, yields
first, and if those end with the last, it is exhausted from then on. -/
theorem reads_take {batches later : Batches W} {session last : Session W Unit}
    {items : List (Drawn Batch)} (h : Reads next batches session items later last) (calls : Nat)
    (hcalls : calls ≤ items.length ∨ items.any Drawn.isFinal = true) :
    ∃ extra later last,
      Reads next batches session (items.take calls ++ List.replicate extra .exhausted) later last ∧
      (items.take calls).length + extra = calls ∧
      (extra = 0 ∨ items.any Drawn.isFinal = true) := by
  by_cases hle : calls ≤ items.length
  · rw [← List.take_append_drop calls items] at h
    obtain ⟨between, opened, hfirst, -⟩ := h.split
    refine ⟨0, between, opened, ?_, by simp [hle], .inl rfl⟩
    rw [List.replicate_zero, List.append_nil]
    exact hfirst
  · have hfinal := hcalls.resolve_left hle
    have hnone := context_of_reads h hfinal
    refine ⟨calls - items.length, later, last, ?_, ?_, .inr hfinal⟩
    · rw [List.take_of_length_le (by omega)]
      exact h.append (reads_exhausted hnone last _)
    · rw [List.take_of_length_le (by omega)]
      omega

/--
A reader that could be built yields what the iterator behind the filter answers, if that iterator
can be made: the batches as they are and in order, then the error with the name of the sink, or the
end. Every call yields something as long as the iterator does not answer for ever that there is
nothing yet. If the iterator cannot be made, the first call yields that error. Between any two calls
the slot is empty. After an error or the end the reader has no context any more, and asks nothing of
any component.
-/
theorem lossless {builder : Builder W} {session opened : Session W Unit} {reader : Batches W}
    (hbuild : ofBuilder builder session = (.ok reader, opened)) :
    ∃ context, reader.context = some context ∧
      (∀ upstream between,
        context.graph.iterator (context.filter.output 0) (opened.sharing reader.slot) =
          (.ok upstream, between) →
        (∀ count, ∃ later last, Reads next reader opened
          (yielded builder.config.sinkName (upstream.answers count between.world)) later last) ∧
        (∀ count items later last, Reads next reader opened items later last →
          items.length ≤
            (yielded builder.config.sinkName (upstream.answers count between.world)).length →
          items <+: yielded builder.config.sinkName (upstream.answers count between.world)) ∧
        (upstream.NeverStalls between.world → ∀ calls, ∃ count extra later last,
          Reads next reader opened
            ((yielded builder.config.sinkName (upstream.answers count between.world)).take calls ++
              List.replicate extra .exhausted) later last ∧
          ((yielded builder.config.sinkName
            (upstream.answers count between.world)).take calls).length + extra = calls ∧
          (extra = 0 ∨ (upstream.answers count between.world).any isLast = true))) ∧
      (∀ e between,
        context.graph.iterator (context.filter.output 0) (opened.sharing reader.slot) =
          (.error e, between) →
        ∃ later last, Reads next reader opened [.failed (.execution e)] later last) ∧
      ∀ items later last, Reads next reader opened items later last →
        later.slot = none ∧
        (items.any Drawn.isFinal = true →
          later.context = none ∧
          ∀ patience, later.next patience last = (.exhausted, later, last)) := by
  unfold ofBuilder at hbuild
  split at hbuild
  · next context readied hcontext =>
    cases hbuild
    have hwired := Builder.wired_of_build hcontext
    have htidy := tidy_of_build hcontext
    refine ⟨context, rfl, ?_, ?_, ?_⟩
    · intro upstream between hiterator
      obtain ⟨ready, started, hflowing, hscene, hrun⟩ := hwired.run_of_ok hiterator
      have hreads (count : Nat) : ∃ later last,
          Reads next ⟨some context, readied.shared⟩ (readied.sharing ())
            (yielded builder.config.sinkName (upstream.answers count between.world))
            later last := by
        let running : Context W Slot := { context with graph := ready }
        have hrunning : running.graph.Flowing builder.config.sinkName upstream := hflowing
        obtain ⟨later, last, hreads⟩ :=
          reads_yielded hrunning started.shared (started.sharing ()) count
        rw [← congrArg Scene.world hscene]
        exact hreads.of_comes fun _ => comes_of_run_eq hrun
      refine ⟨hreads, ?_, ?_⟩
      · intro count items later last hitems hlength
        obtain ⟨_, _, hcount⟩ := hreads count
        exact hitems.prefix_of_length_le hcount hlength
      · intro hstalls calls
        obtain ⟨count, hcalls⟩ := hstalls.exists_count builder.config.sinkName calls
        obtain ⟨_, _, hcount⟩ := hreads count
        rw [← any_isFinal_yielded builder.config.sinkName] at hcalls
        obtain ⟨extra, later, last, htaken, hlength, hover⟩ := reads_take hcount calls hcalls
        rw [any_isFinal_yielded] at hover
        exact ⟨count, extra, later, last, htaken, hlength, hover⟩
    · intro e between hiterator
      obtain ⟨failed, last, hrun⟩ := hwired.run_of_error hiterator
      obtain ⟨later, last, hcomes⟩ := comes_of_run_error hrun
      exact ⟨later, last, .cons hcomes (.nil _ _)⟩
    · intro items later last hitems
      refine ⟨(htidy.of_reads hitems).slot, fun hfinal => ?_⟩
      have hnone := context_of_reads hitems hfinal
      exact ⟨hnone, fun patience => next_of_none hnone patience last⟩
  · cases hbuild

/-- A filter whose iterator counts the world down. It answers with two batches, the last of them
empty, and fails then. -/
def drip : FilterClass Nat where
  name := "drip"
  description := none
  instantiate _ _ := pure
    { inputCount := fun _ => 1
      outputCount := fun _ => 1
      inputConnected := fun _ => id
      iterator := fun _ _ => pure
        { next := do
            let left ← get
            set (left - 1)
            match left with
            | 3 => return .batch [.inactivity 7]
            | 2 => return .again
            | 1 => return .batch []
            | _ => throw ⟨"dry", []⟩ } }

def dripping : Builder Nat where
  registry := ⟨fun _ => pure (some { name := "drops", sources := [Graph.tap], filters := [drip] })⟩
  locators := ["trace".toUTF8]
  config := { sourceClass := "tap", filterClass := "drip" }

def dripped : List (Drawn Batch) :=
  match ofBuilder dripping ⟨.plain 3, .empty⟩ with
  | (.ok ⟨some context, slot⟩, opened) =>
    match context.graph.iterator (context.filter.output 0) (opened.sharing slot) with
    | (.ok upstream, between) => yielded "simple sink" (upstream.answers 4 between.world)
    | _ => []
  | _ => []

theorem lossless_dripping :
    dripped.map Drawn.isFinal = [false, false, true] ∧
      ∃ reader opened, ofBuilder dripping ⟨.plain 3, .empty⟩ = (.ok reader, opened) ∧
        ∃ later last, Reads next reader opened dripped later last := by
  have hdripped : dripped.map Drawn.isFinal = [false, false, true] := by decide +kernel
  refine ⟨hdripped, ?_⟩
  unfold dripped at hdripped
  split at hdripped
  · next context slot opened hbuild =>
    split at hdripped
    · next upstream between hiterator =>
      have heq : dripped = yielded "simple sink" (upstream.answers 4 between.world) := by
        unfold dripped
        simp only [hbuild, hiterator]
      obtain ⟨_, hcontext, hlossless, -⟩ := lossless hbuild
      cases hcontext
      rw [heq]
      exact ⟨_, _, hbuild, (hlossless upstream between hiterator).1 4⟩
    · cases hdripped
  · cases hdripped

end Batches

end TraceFlow
