import TraceFlow.Proofs.Phases
import TraceFlow.Proofs.Queue

/-!
# The life of a graph

A graph lives from command to command, and each of them meets a scene of its own. All the while the
journal is kept. What it tells of the sinks has one shape: at first none of them is called, then
they are set up in order, and then they take turns.
-/

namespace TraceFlow

variable {W α : Type}

/-! ## The calls of the sinks -/

def Hook.sink? : Hook W → Option ComponentId
  | .setUp sink _ => some sink
  | .consume sink _ _ => some sink
  | .tidyUp sink => some sink
  | _ => none

def Hook.ready (sink : ComponentId) : Hook W := .setUp sink (.ok ())

def sinkCalls (hooks : List (Hook W)) : List (Hook W) := hooks.filter (·.sink?.isSome)

@[simp] theorem sinkCalls_append (hooks more : List (Hook W)) :
    sinkCalls (hooks ++ more) = sinkCalls hooks ++ sinkCalls more := List.filter_append ..

namespace Session

def calls (session : Session W α) : List (Hook W) := sinkCalls session.journal.hooks

@[simp] theorem calls_log (session : Session W α) (line : LogLine) :
    (session.log line).calls = session.calls := by
  unfold calls
  rw [hooks_log]

theorem calls_tell_of_none (session : Session W α) (change : W × α → W × α) {hook : Hook W}
    (h : hook.sink? = none) : (session.tell change hook).calls = session.calls := by
  unfold calls
  rw [hooks_tell, sinkCalls_append]
  simp [sinkCalls, h]

theorem calls_ask_of_none {β : Type} (session : Session W α) (act : Act (W × α) β)
    (hook : Except Fault β → Hook W) (h : ∀ answer, (hook answer).sink? = none) :
    (session.ask act hook).2.calls = session.calls := by
  unfold calls
  rw [hooks_ask, sinkCalls_append]
  simp [sinkCalls, h]

end Session

namespace Graph

/-! ## Putting a graph together calls no sink -/

theorem unmoved_calls : Unmoved (Session.calls (W := W) (α := α)) where
  log := Session.calls_log
  instantiate session act _ _ _ := session.calls_ask_of_none act.beside _ fun _ => rfl
  connected session _ _ _ := session.calls_tell_of_none _ rfl

theorem calls_on (g : Graph W α) {command : Command W α} (hcommand : command ≠ .run)
    (session : Session W α) : (command.on g session).session.calls = session.calls :=
  unmoved_calls.on g hcommand session

/-! ## The first step sets the sinks up -/

theorem calls_openSinks (g : Graph W α) (ids : List ComponentId) (session : Session W α) :
    (g.openSinks ids session).session.calls = session.calls :=
  openSinks_session_keeps Session.calls
    (fun session act _ _ => session.calls_ask_of_none act _ fun _ => rfl) g ids session

/-- How the calls of the sinks stand before they tidy up: none was called, or one of them refused to
be set up and the others after it were not asked, or all were set up and then took turns. -/
inductive Called (sinks : List ComponentId) : List (Hook W) → Prop where
  | untouched : Called sinks []
  | refused {done rest : List ComponentId} {id : ComponentId} (fault : Fault)
      (h : sinks = done ++ id :: rest) :
      Called sinks (done.map .ready ++ [.setUp id (.error fault)])
  | fed {feedings : List (Hook W)} {queue : List ComponentId} (h : Turns sinks feedings queue) :
      Called sinks (sinks.map .ready ++ feedings)

theorem setUpSink_cases {g : Graph W α} {id : ComponentId} {sink : Sink W α} {phase : SinkPhase W}
    (h : g.sink? id = some (sink, phase)) (session : Session W α) :
    ((g.setUpSink id session).1 = .ok () ∧
      (g.setUpSink id session).2.calls = session.calls ++ [.ready id]) ∨
    ∃ e fault, (g.setUpSink id session).1 = .error e ∧
      (g.setUpSink id session).2.calls = session.calls ++ [.setUp id (.error fault)] := by
  obtain ⟨c, hc, hrole⟩ := sink?_eq_some_iff.mp h
  obtain ⟨_, _, _, _, _, _⟩ := c
  cases hrole
  have hhooks := session.hooks_ask sink.setUp (.setUp id)
  unfold setUpSink Session.calls
  simp only [hc]
  split
  · next fault _ hask =>
    rw [hask] at hhooks
    refine .inr ⟨_, fault, rfl, ?_⟩
    rw [hhooks, sinkCalls_append]
    rfl
  · next hask =>
    rw [hask] at hhooks
    refine .inl ⟨rfl, ?_⟩
    rw [hhooks, sinkCalls_append]
    rfl

theorem makeEach_setUpSink {g : Graph W α} {ids : List ComponentId}
    (h : ∀ id ∈ ids, ∃ sink phase, g.sink? id = some (sink, phase)) (session : Session W α) :
    ((∃ made, (makeEach g.setUpSink ids session).1 = .ok made) ∧
      (makeEach g.setUpSink ids session).2.calls = session.calls ++ ids.map .ready) ∨
    ∃ e done id rest fault, (makeEach g.setUpSink ids session).1 = .error e ∧
      ids = done ++ id :: rest ∧ (makeEach g.setUpSink ids session).2.calls =
        session.calls ++ (done.map .ready ++ [.setUp id (.error fault)]) := by
  induction ids generalizing session with
  | nil => exact .inl ⟨⟨_, rfl⟩, (List.append_nil _).symm⟩
  | cons id rest ih =>
    obtain ⟨sink, phase, hsink⟩ := h id List.mem_cons_self
    have hrest := ih fun other hother => h other (List.mem_cons_of_mem _ hother)
    unfold makeEach
    rcases setUpSink_cases hsink session with ⟨hone, hcalls⟩ | ⟨e, fault, hone, hcalls⟩
    · rcases hmade : g.setUpSink id session with ⟨answer, between⟩
      rw [hmade] at hone hcalls
      cases hone
      simp only at hcalls ⊢
      rcases hrest between with
        ⟨⟨made, hmake⟩, hlater⟩ | ⟨e, done, other, left, fault, hmake, hsplit, hlater⟩
      · rcases hothers : makeEach g.setUpSink rest between with ⟨answer, after⟩
        rw [hothers] at hmake hlater
        cases hmake
        refine .inl ⟨⟨_, rfl⟩, ?_⟩
        rw [hlater, hcalls, List.append_assoc]
        rfl
      · rcases hothers : makeEach g.setUpSink rest between with ⟨answer, after⟩
        rw [hothers] at hmake hlater
        cases hmake
        refine .inr ⟨e, id :: done, other, left, fault, rfl, by rw [hsplit]; rfl, ?_⟩
        rw [hlater, hcalls, List.append_assoc]
        rfl
    · rcases hmade : g.setUpSink id session with ⟨answer, between⟩
      rw [hmade] at hone hcalls
      cases hone
      exact .inr ⟨e, [], id, rest, fault, rfl, rfl, hcalls⟩

theorem sinks_of_bare_eq {g g' : Graph W α} (h : g'.bare = g.bare) : g'.sinks = g.sinks := by
  rw [← sinks_bare g', h, sinks_bare]

theorem calls_configure {g : Graph W α} (hg : g.Coherent) (session : Session W α) :
    ((g.configure session).answer = .ok () ∧
      (g.configure session).session.calls = session.calls ++ g.sinks.map .ready) ∨
    (∃ e, (g.configure session).answer = .error e) ∧
      ∃ calls, (g.configure session).session.calls = session.calls ++ calls ∧
        Called g.sinks calls := by
  have hbare := bare_openSinks g g.sinks session
  have hcalls := calls_openSinks g g.sinks session
  have huntouched (after : Session W α) (h : after.calls = session.calls) :
      ∃ calls, after.calls = session.calls ++ calls ∧ Called g.sinks calls :=
    ⟨[], h.trans (List.append_nil _).symm, .untouched⟩
  unfold configure
  split
  · exact .inr ⟨⟨_, rfl⟩, huntouched _ rfl⟩
  · split
    · next h =>
      rw [h] at hcalls
      exact .inr ⟨⟨_, rfl⟩, huntouched _ hcalls⟩
    · next opened between h =>
      rw [h] at hcalls hbare
      have hopened := hg.of_bare_eq hbare
      have hsinks := sinks_of_bare_eq hbare
      have hcases := makeEach_setUpSink (fun id hid => sink_of_mem_sinks hopened hid) between
      rw [hsinks, show between.calls = session.calls from hcalls] at hcases
      rw [hsinks]
      split
      · next hmake =>
        rw [hmake] at hcases
        rcases hcases with ⟨⟨made, hmade⟩, -⟩ | ⟨e, done, id, rest, fault, -, hsplit, hlater⟩
        · cases hmade
        · exact .inr ⟨⟨_, rfl⟩, _, hlater, .refused fault hsplit⟩
      · next hmake =>
        rw [hmake] at hcases
        rcases hcases with ⟨-, hlater⟩ | ⟨e, done, id, rest, fault, hmade, -⟩
        · exact .inl ⟨rfl, (Session.calls_log _ _).trans hlater⟩
        · cases hmade

end Graph

/-! ## A life -/

structure Deed (W α : Type) where
  command : Command W α
  scene : Scene W α

/-- A graph, and what was journalled since it was made. -/
structure Past (W α : Type) where
  graph : Graph W α := .empty
  journal : Journal W := .empty

namespace Past

def reply (past : Past W α) (deed : Deed W α) : Reply W α Answer :=
  deed.command.on past.graph ⟨deed.scene, past.journal⟩

def step (past : Past W α) (deed : Deed W α) : Past W α :=
  ⟨(past.reply deed).graph, (past.reply deed).session.journal⟩

/-- What the commands of a life make of the empty graph. -/
def of (life : List (Deed W α)) : Past W α := life.foldl step {}

def calls (past : Past W α) : List (Hook W) := sinkCalls past.journal.hooks

theorem of_append (life more : List (Deed W α)) : of (life ++ more) = more.foldl step (of life) :=
  List.foldl_append

@[simp] theorem of_concat (life : List (Deed W α)) (deed : Deed W α) :
    of (life ++ [deed]) = (of life).step deed := by
  rw [of_append]
  rfl

theorem reached_of (life : List (Deed W α)) : (of life).graph.Reached := by
  induction life using List.reverseRecOn with
  | nil => exact .refl
  | append_singleton life deed ih =>
    rw [of_concat]
    exact .step deed.command _ ih

theorem reachedFrom_foldl (past : Past W α) (life : List (Deed W α)) :
    past.graph.ReachedFrom (life.foldl step past).graph := by
  induction life generalizing past with
  | nil => exact .refl
  | cons deed rest ih => exact .trans (.step deed.command _ .refl) (ih (past.step deed))

/-- What the calls of the sinks have come to, by the state of the graph. -/
structure Orderly (past : Past W α) : Prop where
  idle : past.graph.state = .configuring → past.calls = []
  fed : past.graph.state = .running → ∃ feedings,
    past.calls = past.graph.sinks.map .ready ++ feedings ∧
      Graph.Turns past.graph.sinks feedings past.graph.waiting
  called : Graph.Called past.graph.sinks past.calls

/-- A step that feeds a sink finds all sinks set up, and the feedings so far account for the
queue. -/
theorem Orderly.ready {past : Past W α} (h : past.Orderly) (hreached : past.graph.Reached)
    {scene : Scene W α} {ready : Graph W α} {opened : Session W α}
    (hready : past.graph.Ready ⟨scene, past.journal⟩ ready opened) :
    ready.sinks = past.graph.sinks ∧ ∃ feedings, opened.calls = ready.sinks.map .ready ++ feedings ∧
      Graph.Turns ready.sinks feedings ready.waiting := by
  cases hready with
  | configured hstate hconfigure =>
    have hbare := past.graph.bare_configure ⟨scene, past.journal⟩
    have hcalls := Graph.calls_configure hreached.coherent ⟨scene, past.journal⟩
    have hcursor := hreached.phased.configuring hstate
    obtain ⟨-, -, hwaiting⟩ := Graph.underway_of_configure hreached.coherent hcursor hconfigure
    rw [hconfigure] at hbare hcalls
    have hsinks := Graph.sinks_of_bare_eq hbare
    refine ⟨hsinks, [], ?_, hwaiting ▸ .none _⟩
    rcases hcalls with ⟨-, hcalls⟩ | ⟨⟨e, he⟩, -⟩
    · have hnone : (⟨scene, past.journal⟩ : Session W α).calls = [] := h.idle hstate
      rw [hcalls, hnone, hsinks, List.append_nil]
      rfl
    · cases he
  | running hstate => exact ⟨rfl, h.fed hstate⟩

theorem step_of_reply {past : Past W α} {command : Command W α} {scene : Scene W α}
    {reply : Reply W α Answer}
    (h : command.on past.graph ⟨scene, past.journal⟩ = reply) :
    past.step ⟨command, scene⟩ = ⟨reply.graph, reply.session.journal⟩ := by
  rw [← h]
  rfl

theorem step_of_run {past : Past W α} {scene : Scene W α} {reply : Reply W α Status}
    (h : past.graph.run ⟨scene, past.journal⟩ = reply) :
    past.step ⟨.run, scene⟩ = ⟨reply.graph, reply.session.journal⟩ := by
  rw [← h]
  rfl

theorem Orderly.moved {past : Past W α} (h : past.Orderly) (hreached : past.graph.Reached)
    {scene : Scene W α} {ready : Graph W α} {opened : Session W α}
    (hready : past.graph.Ready ⟨scene, past.journal⟩ ready opened) {reply : Reply W α Status}
    {places : Nat} {id : ComponentId} {c : Component W α} {sink : Sink W α} {upstream : Iterator W}
    {answer : Except Fault Status}
    (hturn : ready.TookTurn opened reply places id c sink upstream answer) :
    ∃ feedings, opened.calls = ready.sinks.map .ready ++ feedings ∧
      Graph.Turns ready.sinks feedings ready.waiting ∧
      reply.session.calls = reply.graph.sinks.map .ready ++
        (feedings ++ [.consume id upstream answer]) ∧
      Graph.Turns reply.graph.sinks (feedings ++ [.consume id upstream answer])
        reply.graph.waiting := by
  obtain ⟨-, feedings, hcalls, hqueue⟩ := h.ready hreached hready
  have hsinks : reply.graph.sinks = ready.sinks := Graph.sinks_of_bare_eq hturn.bare
  refine ⟨feedings, hcalls, hqueue, ?_, ?_⟩
  · unfold Session.calls at hcalls ⊢
    rw [hturn.hooks, sinkCalls_append, hcalls, hsinks, List.append_assoc]
    rfl
  · rw [hsinks]
    exact hqueue.append hturn.queue

theorem Orderly.turn {past : Past W α} (h : past.Orderly) (hreached : past.graph.Reached)
    {scene : Scene W α} {ready : Graph W α} {opened : Session W α}
    (hready : past.graph.Ready ⟨scene, past.journal⟩ ready opened) :
    (past.step ⟨.run, scene⟩).Orderly := by
  obtain ⟨hstate, hunderway, hrun⟩ := hready.underway hreached.coherent hreached.phased
  obtain ⟨_, _, _, _, _, _, hturn⟩ := hunderway.tookTurn hstate opened
  obtain ⟨_, -, -, hcalls, hqueue⟩ := h.moved hreached hready hturn
  rw [step_of_run hrun]
  refine ⟨fun hconfiguring => ?_, fun _ => ⟨_, hcalls, hqueue⟩, ?_⟩
  · rcases hturn.state with ⟨-, hover⟩ | ⟨-, hover | ⟨hover, -⟩⟩
    all_goals
      rw [hover] at hconfiguring
      cases hconfiguring
  · have hcalled := Graph.Called.fed hqueue
    rw [← hcalls] at hcalled
    exact hcalled

theorem Orderly.failed {past : Past W α} (h : past.Orderly) (hreached : past.graph.Reached)
    (hstate : past.graph.state = .configuring) {scene : Scene W α} {e : GraphError}
    {failed : Graph W α} {between : Session W α}
    (hconfigure : past.graph.configure ⟨scene, past.journal⟩ = ⟨.error e, failed, between⟩) :
    Orderly ⟨{ failed with state := .faulted },
      (between.log (.configurationFailed e)).journal⟩ := by
  have hbare := past.graph.bare_configure ⟨scene, past.journal⟩
  have hcalls := Graph.calls_configure hreached.coherent ⟨scene, past.journal⟩
  rw [hconfigure] at hbare hcalls
  have hsinks : failed.sinks = past.graph.sinks := Graph.sinks_of_bare_eq hbare
  have hnone : (⟨scene, past.journal⟩ : Session W α).calls = [] := h.idle hstate
  rcases hcalls with ⟨hok, -⟩ | ⟨-, calls, hcalls, hcalled⟩
  · cases hok
  · rw [hnone, List.nil_append] at hcalls
    have hlater : (between.log (.configurationFailed e)).calls = calls :=
      (Session.calls_log _ _).trans hcalls
    refine ⟨fun hidle => (by cases hidle), fun hrunning => (by cases hrunning), ?_⟩
    unfold Past.calls
    unfold Session.calls at hlater
    rw [hlater]
    exact hsinks ▸ hcalled

theorem Orderly.asked {past : Past W α} (h : past.Orderly) {command : Command W α}
    (hcommand : command ≠ .run) (scene : Scene W α) : (past.step ⟨command, scene⟩).Orderly := by
  by_cases hstate : past.graph.state = .configuring
  · have hcalls : (past.step ⟨command, scene⟩).calls = [] :=
      (Graph.calls_on past.graph hcommand ⟨scene, past.journal⟩).trans (h.idle hstate)
    have hsame : (past.step ⟨command, scene⟩).graph.state = .configuring :=
      (Graph.course_on past.graph hcommand ⟨scene, past.journal⟩).2.trans hstate
    refine ⟨fun _ => hcalls, fun hrunning => ?_, hcalls ▸ .untouched⟩
    rw [hsame] at hrunning
    cases hrunning
  · rw [step_of_reply (Graph.on_of_started hstate hcommand ⟨scene, past.journal⟩)]
    exact h

theorem Orderly.step {past : Past W α} (h : past.Orderly) (hreached : past.graph.Reached)
    (deed : Deed W α) : (past.step deed).Orderly := by
  obtain ⟨command, scene⟩ := deed
  by_cases hcommand : command = .run
  · subst hcommand
    rcases past.graph.run_cases ⟨scene, past.journal⟩ with
      ⟨-, hrun⟩ | ⟨-, hrun⟩ | ⟨e, failed, between, hstate, hconfigure, hrun⟩ |
      ⟨ready, opened, hready⟩
    · rw [step_of_run hrun]
      exact h
    · rw [step_of_run hrun]
      exact h
    · rw [step_of_run hrun]
      exact h.failed hreached hstate hconfigure
    · exact h.turn hreached hready
  · exact h.asked hcommand scene

theorem orderly_of (life : List (Deed W α)) : (of life).Orderly := by
  induction life using List.reverseRecOn with
  | nil => exact ⟨fun _ => rfl, fun h => (by cases h), .untouched⟩
  | append_singleton life deed ih =>
    rw [of_concat]
    exact ih.step (reached_of life) deed

end Past

end TraceFlow
