import TraceFlow.Proofs.Wiring

/-!
# Graphs with one sink

With one sink there are no turns to take: every step lets that sink consume until it has ended. The
first step makes the one iterator that the sink reads, and sets the sink up, before that.
-/

namespace TraceFlow

variable {W α β : Type}

namespace Session

/-- The same scene and the same calls; what was logged may differ. -/
structure Agrees (session other : Session W α) : Prop where
  scene : session.toScene = other.toScene
  hooks : session.journal.hooks = other.journal.hooks

namespace Agrees

variable {session other : Session W α}

theorem refl (session : Session W α) : session.Agrees session := ⟨rfl, rfl⟩

theorem trans {last : Session W α} (h : session.Agrees other) (h' : other.Agrees last) :
    session.Agrees last :=
  ⟨h.scene.trans h'.scene, h.hooks.trans h'.hooks⟩

theorem log (session : Session W α) (line : LogLine) : (session.log line).Agrees session :=
  ⟨rfl, session.hooks_log line⟩

theorem stir (h : session.Agrees other) (change : W × α → W × α) :
    (session.stir change).Agrees (other.stir change) := by
  refine ⟨?_, h.hooks⟩
  unfold Session.stir
  rw [h.scene]

theorem ask (h : session.Agrees other) (act : Act (W × α) β) (hook : Except Fault β → Hook W) :
    (session.ask act hook).1 = (other.ask act hook).1 ∧
      (session.ask act hook).2.Agrees (other.ask act hook).2 := by
  have hsame : (session.ask act hook).1 = (other.ask act hook).1 := by
    unfold Session.ask
    rw [h.scene]
  refine ⟨hsame, ?_, ?_⟩
  · unfold Session.ask
    rw [h.scene]
  · rw [hooks_ask, hooks_ask, h.hooks, hsame]

end Agrees

end Session

namespace Graph

/-! ## Steps -/

/-- The graph has one sink, of this name and in this phase. -/
structure Solo (g : Graph W α) (id : ComponentId) (name : String) (sink : Sink W α)
    (phase : SinkPhase W) : Prop where
  sinks : g.sinks = [id]
  cursor : g.cursor = 0
  component : ∃ c, g.component? id = some c ∧ c.name = name ∧ c.role = .sink sink phase

def stateAfter : Except Fault Status → State
  | .error _ => .faulted
  | .ok .ended => .ended
  | .ok _ => .running

def askSink (id : ComponentId) (sink : Sink W α) (upstream : Iterator W) (session : Session W α) :
    Except Fault Status × Session W α :=
  session.ask (sink.consume upstream) (.consume id upstream)

section

variable {g : Graph W α} {id : ComponentId} {name : String} {sink : Sink W α}
  {upstream : Iterator W}

theorem Solo.run_eq (h : g.Solo id name sink (.reading upstream)) (hstate : g.state = .running)
    (session : Session W α) :
    g.run session = conclude (g.advance.consume id name sink upstream session) := by
  obtain ⟨c, hc, hname, hrole⟩ := h.component
  have hfeed : g.feed session = g.advance.consume id name sink upstream session := by
    unfold feed feedWithin
    simp [h.sinks, h.cursor, hc, hrole, hname]
  unfold Graph.run
  rw [hstate, ← hfeed]

theorem Solo.advance {phase : SinkPhase W} (h : g.Solo id name sink phase) :
    g.advance.Solo id name sink phase where
  sinks := h.sinks
  cursor := by simp [Graph.advance, h.sinks, Nat.mod_one]
  component := h.component

theorem Solo.allEnded {phase : SinkPhase W} (h : g.Solo id name sink phase) :
    (g.modify id (·.setPhase .ended)).allEnded = true := by
  obtain ⟨c, hc, -, hrole⟩ := h.component
  have hsink : g.sink? id = some (sink, phase) := sink?_eq_some_iff.mpr ⟨c, hc, hrole⟩
  unfold Graph.allEnded
  rw [show (g.modify id (·.setPhase .ended)).sinks = [id] from h.sinks]
  simpa using hasEnded_iff.mpr ⟨_, sink?_setPhase_self hsink .ended⟩

/-- A step asks the sink once, and answers what the sink answered. -/
theorem Solo.run (h : g.Solo id name sink (.reading upstream)) (hstate : g.state = .running)
    {session asked : Session W α} {answer : Except Fault Status}
    (hask : askSink id sink upstream session = (answer, asked)) :
    ∃ later closed, g.run session = ⟨answer.mapError (.sink name), later, closed⟩ ∧
      closed.Agrees asked ∧ later.state = stateAfter answer ∧
      (later.state = .running → later.Solo id name sink (.reading upstream)) := by
  rw [h.run_eq hstate]
  unfold askSink at hask
  unfold consume
  rw [hask]
  rcases answer with fault | _ | _ | _
  · exact ⟨_, _, rfl, .log _ _, rfl, fun hrunning => by cases hrunning⟩
  · exact ⟨_, _, rfl, .log _ _, hstate, fun _ => ⟨h.sinks, h.advance.cursor, h.component⟩⟩
  · exact ⟨_, _, rfl, .log _ _, hstate, fun _ => ⟨h.sinks, h.advance.cursor, h.component⟩⟩
  · simp only [settle, h.advance.allEnded, if_true]
    refine ⟨_, _, rfl, ?_, rfl, fun hrunning => by cases hrunning⟩
    exact (Session.Agrees.log _ _).trans ((Session.Agrees.log _ _).trans (.log _ _))

theorem run_of_configure_error {session between : Session W α} {e : GraphError} {failed : Graph W α}
    (hstate : g.state = .configuring) (h : g.configure session = ⟨.error e, failed, between⟩) :
    ∃ later closed, g.run session = ⟨.error e, later, closed⟩ ∧ closed.Agrees between ∧
      later.state = .faulted := by
  unfold Graph.run
  simp only [hstate, h]
  exact ⟨_, _, rfl, .log _ _, rfl⟩

theorem run_of_configure_ok {session between : Session W α} {ready : Graph W α}
    (hstate : g.state = .configuring) (h : g.configure session = ⟨.ok (), ready, between⟩)
    (hready : ready.state = .running) : g.run session = ready.run between := by
  unfold Graph.run
  simp only [hstate, h, hready]

end

end Graph

/-! ## The first step -/

namespace Context.Wired

variable {context : Context W α} {sink : Sink W α} {name : String} {upstream : Iterator W}
  {session between asked : Session W α}

theorem configure_of_error (h : context.Wired sink name) {e : GraphError}
    (hiterator : context.graph.iterator (context.filter.output 0) session = (.error e, between)) :
    context.graph.configure session = ⟨.error e, context.graph, between⟩ := by
  obtain ⟨c, hc, -, -, hfeeder⟩ := h.component
  unfold Graph.configure Graph.openSinks Graph.openSink
  simp [h.sinks, hc, hfeeder, hiterator]

def opened (context : Context W α) (upstream : Iterator W) : Graph W α :=
  context.graph.modify context.sink (·.setPhase (.reading upstream))

theorem solo_opened (h : context.Wired sink name) (upstream : Iterator W) :
    (opened context upstream).Solo context.sink name sink (.reading upstream) where
  sinks := h.sinks
  cursor := h.reached.phased.configuring h.state
  component := by
    obtain ⟨c, hc, hname, hrole, -⟩ := h.component
    refine ⟨c.setPhase (.reading upstream), ?_, (Component.name_setPhase ..).trans hname, ?_⟩
    · rw [opened, Graph.component?_modify_self, hc, Option.map_some]
    · unfold Component.setPhase
      rw [hrole]

theorem openSinks_of_ok (h : context.Wired sink name)
    (hiterator : context.graph.iterator (context.filter.output 0) session =
      (.ok upstream, between)) :
    context.graph.openSinks context.graph.sinks session =
      ⟨.ok (), opened context upstream, between⟩ := by
  obtain ⟨c, hc, -, -, hfeeder⟩ := h.component
  rw [h.sinks]
  unfold Graph.openSinks Graph.openSink Graph.openSinks
  simp only [hc, hfeeder, hiterator]
  rfl

theorem configure_of_ok (h : context.Wired sink name)
    (hiterator : context.graph.iterator (context.filter.output 0) session =
      (.ok upstream, between))
    {answer : Except Fault Unit}
    (hask : between.ask sink.setUp (.setUp context.sink) = (answer, asked)) :
    ∃ ready closed, context.graph.configure session =
        ⟨answer.mapError (.sink name), ready, closed⟩ ∧ closed.Agrees asked ∧
      (answer = .ok () → ready.state = .running ∧
        ready.Solo context.sink name sink (.reading upstream)) := by
  have hsolo := h.solo_opened upstream
  obtain ⟨c, hc, hname, hrole⟩ := hsolo.component
  have hsetup : (opened context upstream).setUpSink context.sink between =
      (answer.mapError (.sink name), asked) := by
    obtain ⟨_, _, _, _, _, _⟩ := c
    cases hrole
    cases hname
    unfold Graph.setUpSink
    simp only [hc, hask]
    rcases answer with fault | ⟨⟩ <;> rfl
  unfold Graph.configure
  rw [h.openSinks_of_ok hiterator]
  simp only [h.sinks, hsolo.sinks, List.isEmpty_cons, makeEach, hsetup]
  rcases answer with fault | ⟨⟩
  · exact ⟨_, _, rfl, .refl _, fun hok => by cases hok⟩
  · exact ⟨_, _, rfl, .log _ _, fun _ => ⟨rfl, rfl, hsolo.cursor, hsolo.component⟩⟩

end Context.Wired

end TraceFlow
