import TraceFlow.Proofs.Turns

/-!
# What a step can do

A step of a graph does nothing, or it fails to configure the graph, or it feeds the sink whose turn
it is. So in every graph that is reached and runs, the sinks take turns.
-/

namespace TraceFlow

namespace Graph

variable {W α : Type}

/-! ## The first step -/

def Reading (g : Graph W α) (id : ComponentId) : Prop :=
  ∃ sink upstream, g.sink? id = some (sink, .reading upstream)

theorem Coherent.sole_input {g : Graph W α} (hg : g.Coherent) {id : ComponentId}
    (hid : id ∈ g.sinks) {c : Component W α} (hc : g.component? id = some c) :
    ∃ input, c.inputs.ports = [input] := by
  have hcount := (hg.sink_ports id (hg.kind_of_sink hid)).1
  unfold portCount table? at hcount
  rw [hc] at hcount
  exact List.length_eq_one_iff.mp (Except.ok.inj hcount)

theorem Coherent.feeder_of_sink {g : Graph W α} (hg : g.Coherent) {id : ComponentId}
    (hid : id ∈ g.sinks) {c : Component W α} (hc : g.component? id = some c)
    {feeder : Option PortRef} (h : g.sinkFeeder c = .ok feeder) : ∃ port, feeder = some port := by
  obtain ⟨input, hinput⟩ := hg.sole_input hid hc
  unfold sinkFeeder at h
  split at h
  · cases h
  · next hall =>
    rw [hinput] at hall
    have hconnected : input.connection ≠ none := by simpa [Port.isConnected] using hall
    obtain ⟨k, hk⟩ := Option.ne_none_iff_exists'.mp hconnected
    have hholds : g.holds? ⟨id, .input, 0⟩ = some k := holds?_of_input hc (by rw [hinput]; rfl) hk
    obtain ⟨connection, hconnection, -⟩ := hg.downstream_of_holds rfl hholds
    refine ⟨connection.upstream, ?_⟩
    rw [← Except.ok.inj h]
    simp [feeders, hinput, hk, origin?, hconnection]

theorem openSink_cases {g : Graph W α} (hg : g.Coherent) {id : ComponentId} (hid : id ∈ g.sinks)
    (session : Session W α) :
    (g.openSink id session).graph = g ∧ (∃ e, (g.openSink id session).answer = .error e) ∨
      ∃ upstream, (g.openSink id session).graph = g.modify id (·.setPhase (.reading upstream)) := by
  obtain ⟨c, hc⟩ := Option.isSome_iff_exists.mp (hg.component_of_sink hid)
  unfold openSink
  simp only [hc]
  split
  · exact .inl ⟨rfl, _, rfl⟩
  · next hfeeder =>
    obtain ⟨port, hport⟩ := hg.feeder_of_sink hid hc hfeeder
    cases hport
  · split
    · exact .inl ⟨rfl, _, rfl⟩
    · exact .inr ⟨_, rfl⟩

theorem sink_of_mem_sinks {g : Graph W α} (hg : g.Coherent) {id : ComponentId}
    (hid : id ∈ g.sinks) : ∃ sink phase, g.sink? id = some (sink, phase) := by
  have hkind := hg.kind_of_sink hid
  unfold kind? at hkind
  obtain ⟨c, hc, hsink⟩ := Option.map_eq_some_iff.mp hkind
  cases hrole : c.role with
  | sink sink phase => exact ⟨sink, phase, sink?_eq_some_iff.mpr ⟨c, hc, hrole⟩⟩
  | source => simp [Component.kind, hrole, Role.kind] at hsink
  | filter => simp [Component.kind, hrole, Role.kind] at hsink

theorem Reading.openSink {g : Graph W α} (hg : g.Coherent) {id other : ComponentId}
    (hid : id ∈ g.sinks) (h : g.Reading other) (session : Session W α) :
    (g.openSink id session).graph.Reading other := by
  rcases openSink_cases hg hid session with ⟨hgraph, -⟩ | ⟨upstream, hgraph⟩
  · rw [hgraph]
    exact h
  · rw [hgraph]
    obtain ⟨sink, before, hsink⟩ := h
    by_cases hother : other = id
    · subst hother
      exact ⟨sink, upstream, sink?_setPhase_self hsink _⟩
    · exact ⟨sink, before, (sink?_modify_of_ne g hother _).trans hsink⟩

theorem course_openSinks (g : Graph W α) (ids : List ComponentId) (session : Session W α) :
    (g.openSinks ids session).graph.cursor = g.cursor ∧
      (g.openSinks ids session).graph.state = g.state :=
  ⟨openSinks_keeps cursor (fun _ _ _ => rfl) g ids session,
    openSinks_keeps state (fun _ _ _ => rfl) g ids session⟩

theorem cursor_configure (g : Graph W α) (session : Session W α) :
    (g.configure session).graph.cursor = g.cursor :=
  configure_keeps cursor (fun _ _ _ => rfl) (fun _ _ => rfl) g session

theorem Reading.openSinks {g : Graph W α} (hg : g.Coherent) {ids : List ComponentId}
    (hids : ids ⊆ g.sinks) {other : ComponentId} (h : g.Reading other) (session : Session W α) :
    (g.openSinks ids session).graph.Reading other := by
  induction ids generalizing g session with
  | nil => exact h
  | cons id rest ih =>
    obtain ⟨hid, hrest⟩ := List.cons_subset.mp hids
    have hone := h.openSink hg hid session
    have hbare := bare_openSink g id session
    unfold Graph.openSinks
    split
    · next hreply => rw [hreply] at hone; exact hone
    · next hreply =>
      rw [hreply] at hone hbare
      refine ih (hg.of_bare_eq hbare) ?_ hone _
      rw [← sinks_bare, hbare, sinks_bare]
      exact hrest

theorem reading_of_openSinks {g : Graph W α} (hg : g.Coherent) {ids : List ComponentId}
    (hids : ids ⊆ g.sinks) {session : Session W α}
    (h : (g.openSinks ids session).answer = .ok ()) :
    ∀ id ∈ ids, (g.openSinks ids session).graph.Reading id := by
  -- A sink that reads goes on reading while the others are given their iterators.
  induction ids generalizing g session with
  | nil => exact fun _ hmem => absurd hmem List.not_mem_nil
  | cons id rest ih =>
    obtain ⟨hid, hrest⟩ := List.cons_subset.mp hids
    have hcases := openSink_cases hg hid session
    have hbare := bare_openSink g id session
    unfold Graph.openSinks at h ⊢
    split at h
    · cases h
    · next opened between hreply =>
      rw [hreply] at hcases hbare
      have hopened : opened.Coherent := hg.of_bare_eq hbare
      have hlater : rest ⊆ opened.sinks := by
        rw [← sinks_bare, hbare, sinks_bare]
        exact hrest
      have hone : opened.Reading id := by
        rcases hcases with ⟨-, e, he⟩ | ⟨upstream, rfl⟩
        · cases he
        · obtain ⟨sink, phase, hsink⟩ := sink_of_mem_sinks hg hid
          exact ⟨sink, upstream, sink?_setPhase_self hsink _⟩
      intro other hother
      rcases List.mem_cons.mp hother with rfl | hother
      · exact hone.openSinks hopened hlater between
      · exact ih hopened hlater h other hother

theorem Coherent.nodup_sinks {g : Graph W α} (hg : g.Coherent) : g.sinks.Nodup := by
  rw [hg.sinks]
  exact (nodup_ids g).filter _

theorem underway_of_reading {g : Graph W α} (hnodup : g.sinks.Nodup) (hsinks : g.sinks ≠ [])
    (hcursor : g.cursor = 0) (hreading : ∀ id ∈ g.sinks, g.Reading id) :
    g.Underway ∧ g.waiting = g.sinks := by
  have hlive (id : ComponentId) (hid : id ∈ g.sinks) : g.hasEnded id = false := by
    obtain ⟨sink, upstream, hsink⟩ := hreading id hid
    exact hasEnded_of_reading hsink
  have hwaiting : g.waiting = g.sinks := by
    unfold waiting
    rw [hcursor, List.rotate_zero, List.filter_eq_self]
    intro id hid
    rw [hlive id hid]
    rfl
  refine ⟨⟨hnodup, ?_, fun id hid => .inl (hreading id hid), ?_⟩, hwaiting⟩
  · rw [hcursor]
    exact List.length_pos_iff.mpr hsinks
  · rw [hwaiting]
    exact hsinks

theorem underway_of_configure {g ready : Graph W α} (hg : g.Coherent) (hcursor : g.cursor = 0)
    {session opened : Session W α} (h : g.configure session = ⟨.ok (), ready, opened⟩) :
    ready.state = .running ∧ ready.Underway ∧ ready.waiting = ready.sinks := by
  have hbare := bare_openSinks g g.sinks session
  have hcourse := course_openSinks g g.sinks session
  have hreading : (g.openSinks g.sinks session).answer = .ok () →
      ∀ id ∈ g.sinks, (g.openSinks g.sinks session).graph.Reading id :=
    reading_of_openSinks hg (List.Subset.refl _)
  unfold configure at h
  split at h
  · cases h
  · next hempty =>
    split at h
    · cases h
    · next reading between hreply =>
      rw [hreply] at hbare hcourse hreading
      split at h
      · cases h
      · cases h
        have hsinks : reading.sinks = g.sinks := by rw [← sinks_bare, hbare, sinks_bare]
        refine ⟨rfl, underway_of_reading ?_ ?_ (hcourse.1.trans hcursor) ?_⟩
        · rw [hsinks]
          exact hg.nodup_sinks
        · rw [hsinks]
          simpa using hempty
        · rw [hsinks]
          exact hreading rfl

/-! ## Every step -/

/-- The graph and the session in which a step feeds a sink: those after the configuration, if the
graph has not been configured yet. -/
inductive Ready (g : Graph W α) (session : Session W α) : Graph W α → Session W α → Prop where
  | configured {ready : Graph W α} {opened : Session W α} (hstate : g.state = .configuring)
      (h : g.configure session = ⟨.ok (), ready, opened⟩) : Ready g session ready opened
  | running (hstate : g.state = .running) : Ready g session g session

/-- What the state of a graph tells about its sinks. -/
structure Phased (g : Graph W α) : Prop where
  configuring : g.state = .configuring → g.cursor = 0
  running : g.state = .running → g.Underway

theorem Ready.underway {g ready : Graph W α} {session opened : Session W α} (hg : g.Coherent)
    (hphased : g.Phased) (h : g.Ready session ready opened) :
    ready.state = .running ∧ ready.Underway ∧ g.run session = conclude (ready.feed opened) := by
  cases h with
  | configured hstate h =>
    obtain ⟨hrunning, hunderway, -⟩ := underway_of_configure hg (hphased.configuring hstate) h
    refine ⟨hrunning, hunderway, ?_⟩
    unfold run
    simp only [hstate, h]
  | running hstate =>
    refine ⟨hstate, hphased.running hstate, ?_⟩
    unfold run
    simp only [hstate]

theorem Ready.cursor {g ready : Graph W α} {session opened : Session W α}
    (h : g.Ready session ready opened) : ready.cursor = g.cursor := by
  cases h with
  | configured _ h =>
    have hcursor := cursor_configure g session
    rw [h] at hcursor
    exact hcursor
  | running => rfl

/-- All that a step can do. -/
theorem run_cases (g : Graph W α) (session : Session W α) :
    (g.state = .ended ∧ g.run session = ⟨.ok .ended, g, session⟩) ∨
    (g.state = .faulted ∧ g.run session = ⟨.error .faulted, g, session⟩) ∨
    (∃ e failed between, g.state = .configuring ∧
      g.configure session = ⟨.error e, failed, between⟩ ∧
      g.run session = ⟨.error e, { failed with state := .faulted },
        between.log (.configurationFailed e)⟩) ∨
    ∃ ready opened, g.Ready session ready opened := by
  cases hstate : g.state with
  | ended => exact .inl ⟨rfl, by unfold run; simp only [hstate]⟩
  | faulted => exact .inr (.inl ⟨rfl, by unfold run; simp only [hstate]⟩)
  | running => exact .inr (.inr (.inr ⟨g, session, .running hstate⟩))
  | configuring =>
    rcases hreply : g.configure session with ⟨e | ⟨⟩, failed, between⟩
    · refine .inr (.inr (.inl ⟨e, failed, between, rfl, rfl, ?_⟩))
      unfold run
      simp only [hstate, hreply]
    · exact .inr (.inr (.inr ⟨failed, between, .configured hstate hreply⟩))

theorem phased_of_over {g : Graph W α} (h : g.state = .faulted ∨ g.state = .ended) : g.Phased where
  configuring hstate := by rcases h with h | h <;> rw [h] at hstate <;> cases hstate
  running hstate := by rcases h with h | h <;> rw [h] at hstate <;> cases hstate

theorem Phased.run {g : Graph W α} (hg : g.Coherent) (h : g.Phased) (session : Session W α) :
    (g.run session).graph.Phased := by
  rcases run_cases g session with
    ⟨-, hrun⟩ | ⟨-, hrun⟩ | ⟨e, failed, between, -, -, hrun⟩ | ⟨ready, opened, hready⟩
  · rw [hrun]
    exact h
  · rw [hrun]
    exact h
  · rw [hrun]
    exact phased_of_over (.inl rfl)
  · obtain ⟨hstate, hunderway, hrun⟩ := hready.underway hg h
    obtain ⟨_, _, _, _, _, _, hturn⟩ := hunderway.tookTurn hstate opened
    rw [hrun]
    rcases hturn.state with ⟨-, hlater⟩ | ⟨-, hlater | ⟨hlater, hgoing⟩⟩
    · exact phased_of_over (.inl hlater)
    · exact phased_of_over (.inr hlater)
    · refine ⟨fun hstate => ?_, fun _ => hgoing⟩
      rw [hlater] at hstate
      cases hstate

/-! ## Every command -/

theorem on_of_started {g : Graph W α} (h : g.state ≠ .configuring) {command : Command W α}
    (hcommand : command ≠ .run) (session : Session W α) :
    command.on g session = ⟨.error .alreadyRunning, g, session⟩ := by
  have hname (name : String) : g.checkName name = .error .alreadyRunning := by
    unfold checkName
    rw [if_pos h]
  cases command with
  | addSource cls name params level =>
    simp only [Command.on, Reply.map, addSource, hname, Except.map]
  | addFilter cls name params level =>
    simp only [Command.on, Reply.map, addFilter, hname, Except.map]
  | addSink sink name => simp only [Command.on, Reply.map, addSink, hname, Except.map]
  | connect upstream downstream =>
    have hcheck : g.checkConnection upstream downstream = .error .alreadyRunning := by
      unfold checkConnection
      simp [h, bind, Except.bind, throw, throwThe, MonadExceptOf.throw]
    simp only [Command.on, Reply.map, connect_of_refused hcheck, Except.map]
  | run => exact absurd rfl hcommand

theorem course_of_accepted {g g' : Graph W α} (h : g' = g ∨ ∃ c, g.Fresh c ∧ g' = g.accept c) :
    g'.cursor = g.cursor ∧ g'.state = g.state := by
  rcases h with rfl | ⟨c, -, rfl⟩
  · exact ⟨rfl, rfl⟩
  · exact ⟨rfl, rfl⟩

theorem course_on (g : Graph W α) {command : Command W α} (hcommand : command ≠ .run)
    (session : Session W α) :
    (command.on g session).graph.cursor = g.cursor ∧
      (command.on g session).graph.state = g.state := by
  cases command with
  | addSource cls name params level =>
    exact course_of_accepted (addSource_graph g cls name params level session)
  | addFilter cls name params level =>
    exact course_of_accepted (addFilter_graph g cls name params level session)
  | addSink sink name => exact course_of_accepted (addSink_graph g sink name session)
  | connect upstream downstream =>
    unfold Command.on Reply.map
    rcases connect_graph g upstream downstream session with
      hgraph | ⟨-, hgraph | ⟨-, count, hgraph⟩⟩
    all_goals
      rw [hgraph]
      exact ⟨rfl, rfl⟩
  | run => exact absurd rfl hcommand

theorem Phased.on {g : Graph W α} (hg : g.Coherent) (h : g.Phased) (command : Command W α)
    (session : Session W α) : (command.on g session).graph.Phased := by
  by_cases hrun : command = .run
  · subst hrun
    exact h.run hg session
  · by_cases hstate : g.state = .configuring
    · obtain ⟨hcursor, hsame⟩ := course_on g hrun session
      refine ⟨fun _ => hcursor.trans (h.configuring hstate), fun hrunning => ?_⟩
      rw [hsame, hstate] at hrunning
      cases hrunning
    · rw [on_of_started hstate hrun]
      exact h

theorem Reached.phased {g : Graph W α} (h : g.Reached) : g.Phased := by
  induction h with
  | refl => exact ⟨fun _ => rfl, fun hstate => by cases hstate⟩
  | step command session hbefore ih =>
    exact ih.on (Reached.coherent hbefore) command session

end Graph

end TraceFlow
