import TraceFlow.Messages
import TraceFlow.Proofs.Preparing
import TraceFlow.Proofs.Protocol
import TraceFlow.Proofs.Requests

/-!
# The sink of a context

A context that could be built has one sink, of the configured name, which reads the first output
port of the filter. Nothing has run yet.
-/

namespace TraceFlow

variable {W α : Type}

namespace Graph

/-- A graph that is still put together and has no sink so far. -/
structure Sinkless (g : Graph W α) : Prop where
  reached : g.Reached
  state : g.state = .configuring
  sinks : g.sinks = []

theorem sinkless_empty : (empty : Graph W α).Sinkless := ⟨.refl, rfl, rfl⟩

theorem Sinkless.on {g : Graph W α} (h : g.Sinkless) (command : Command W α)
    (hrun : command ≠ .run) (hsink : ∀ sink name, command ≠ .addSink sink name)
    (session : Session W α) : (command.on g session).graph.Sinkless where
  reached := .step command session h.reached
  state := (course_on g hrun session).2.trans h.state
  sinks := by
    rcases sinks_on g command session with ⟨sink, name, hcommand, -⟩ | ⟨hsame, -⟩
    · exact absurd hcommand (hsink sink name)
    · exact hsame.trans h.sinks

end Graph

namespace Builder

open Assembly (Keeps)

theorem keeps_addSource (config : Config) (cls : SourceClass W) (index : Nat) (locator : String) :
    Keeps (α := α) Graph.Sinkless (addSource config cls index locator) := by
  unfold addSource
  refine .bind (.perform _ fun g session hg => ?_) fun id => ?_
  · exact hg.on (.addSource cls _ _ _) (by simp) (by simp) session
  · refine .bind (.query _ _) fun ports => ?_
    split
    · exact .bind (.throw _) fun _ => .bind (.log _) fun _ => .pure _
    · exact .bind (.log _) fun _ => .pure _

theorem keeps_addSources (config : Config) (cls : SourceClass W) (index : Nat)
    (locators : List String) :
    Keeps (α := α) Graph.Sinkless (addSources config cls index locators) := by
  induction locators generalizing index with
  | nil => exact .pure _
  | cons locator rest ih =>
    unfold addSources
    exact .bind (keeps_addSource config cls index locator) fun _ => .bind (ih _) fun _ => .pure _

theorem keeps_addFilter (config : Config) (cls : FilterClass W) :
    Keeps (α := α) Graph.Sinkless (.perform (.ofCreation config.filterName)
      (·.addFilter cls config.filterName ∅ config.logLevel)) :=
  .perform _ fun _ session hg =>
    hg.on (.addFilter cls config.filterName ∅ config.logLevel) (by simp) (by simp) session

theorem keeps_wire (config : Config) (filter : ComponentId) (input : Nat)
    (outputs : List (String × PortRef)) :
    Keeps (α := α) (W := W) Graph.Sinkless (wire config filter input outputs) := by
  induction outputs generalizing input with
  | nil => exact .pure _
  | cons output rest ih =>
    obtain ⟨name, output⟩ := output
    unfold wire
    refine .bind (.perform _ fun g session hg => ?_) fun _ => ih _
    exact hg.on (.connect output _) (by simp) (by simp) session

end Builder

namespace Graph

/-! ## The sink and its connection -/

theorem Coherent.sinkFeeder_eq {g : Graph W α} (hg : g.Coherent) {id : ComponentId}
    (hid : id ∈ g.sinks) {c : Component W α} (hc : g.component? id = some c) {port : PortRef}
    (hport : port ∈ g.feedersOf id) : g.sinkFeeder c = .ok (some port) := by
  have hlength := hg.length_feedersOf_sink hid
  obtain ⟨input, hinput⟩ := hg.sole_input hid hc
  rw [feedersOf_eq hc] at hport hlength
  have hfeeders : g.feeders c = [port] := by
    obtain ⟨only, honly⟩ := List.length_eq_one_iff.mp
      (Nat.le_antisymm hlength (List.length_pos_of_mem hport))
    rw [honly] at hport ⊢
    rw [List.mem_singleton.mp hport]
  have hconnected : input.isConnected = true := by
    unfold feeders at hport
    rw [hinput] at hport
    obtain ⟨port', hport', hsome⟩ := List.mem_filterMap.mp hport
    cases List.mem_singleton.mp hport'
    obtain ⟨k, hk, -⟩ := Option.bind_eq_some_iff.mp hsome
    simp [Port.isConnected, hk]
  unfold sinkFeeder
  rw [hinput, hfeeders]
  simp [hconnected]

theorem Sinkless.joined {g sunk joined : Graph W α} (hg : g.Sinkless) {sink : Sink W α}
    {name : String} {id : ComponentId} {port : PortRef} {k : ConnectionId}
    {session last session' last' : Session W α}
    (hsink : g.addSink sink name session = ⟨.ok id, sunk, last⟩)
    (hconnect : sunk.connect port (id.input 0) session' = ⟨.ok k, joined, last'⟩) :
    joined.Reached ∧ joined.state = .configuring ∧ joined.sinks = [id] ∧
      ∃ c, joined.component? id = some c ∧ c.name = name ∧ c.role = .sink sink .idle ∧
        joined.sinkFeeder c = .ok (some port) := by
  obtain ⟨-, rfl, -, rfl⟩ := addSink_ok hsink
  have hc : (g.accept (.ofSink sink name)).component? g.nextId = some (.ofSink sink name) :=
    component?_place_self g _
  have hadd : ((Command.addSink sink name).on g session).graph = g.accept (.ofSink sink name) :=
    congrArg Reply.graph hsink
  have hjoin : ((Command.connect port (g.nextId.input 0)).on (g.accept (.ofSink sink name))
    session').graph = joined := congrArg Reply.graph hconnect
  have hjoined : joined.Reached := by
    rw [← hjoin, ← hadd]
    exact .step _ session' (.step _ session hg.reached)
  have hlink : joined = (g.accept (.ofSink sink name)).link port (g.nextId.input 0) := by
    rcases (connect_ok hconnect).2.2.2 with hlink | ⟨hfilter, -⟩
    · exact hlink
    · rw [show (g.accept (.ofSink sink name)).kind? (g.nextId.input 0).component = some .sink from
        kind?_place_self g _] at hfilter
      cases hfilter
  obtain ⟨c', hc', halike⟩ := component?_link_alike _ port (g.nextId.input 0) hc
  have hids : joined.sinks = [g.nextId] := by
    rw [hlink]
    exact congrArg (· ++ [g.nextId]) hg.sinks
  rw [← hlink] at hc'
  refine ⟨hjoined, hlink ▸ hg.state, hids, c', hc', halike.name, halike.role, ?_⟩
  refine hjoined.coherent.sinkFeeder_eq (by rw [hids]; exact List.mem_singleton.mpr rfl) hc' ?_
  refine hjoined.coherent.mem_feedersOf.mpr
    ⟨⟨⟨g.connections.length⟩, port, g.nextId.input 0⟩, ?_, rfl, rfl⟩
  rw [hlink, connections_link]
  exact List.mem_append_right _ (List.mem_singleton.mpr rfl)

end Graph

/-! ## The whole context -/

/-- A context that has just been built around a sink. -/
structure Context.Wired (context : Context W α) (sink : Sink W α) (name : String) : Prop where
  reached : context.graph.Reached
  state : context.graph.state = .configuring
  sinks : context.graph.sinks = [context.sink]
  component : ∃ c, context.graph.component? context.sink = some c ∧ c.name = name ∧
    c.role = .sink sink .idle ∧
    context.graph.sinkFeeder c = .ok (some (context.filter.output 0))

namespace Builder

theorem wired_of_assemble {builder : Builder W} {locators : List String} {sink : Sink W α}
    {g later : Graph W α} {session last : Session W α} {context : Context W α} (hg : g.Sinkless)
    (h : (builder.assemble locators sink).on g session = (.ok context, later, last)) :
    context.Wired sink builder.config.sinkName := by
  rw [assemble_eq_classes] at h
  -- The graph stays without sinks until the one sink is added, and is not run.
  obtain ⟨classes, _, _, hwork, h⟩ := Assembly.ok_bind h
  replace hg := (keeps_classes _ _).of_ok hwork hg
  obtain ⟨sources, _, _, hwork, h⟩ := Assembly.ok_bind h
  replace hg := (keeps_addSources _ _ _ _).of_ok hwork hg
  obtain ⟨filter, filtered, _, hwork, h⟩ := Assembly.ok_bind h
  replace hg := (keeps_addFilter _ _).of_ok hwork hg
  obtain ⟨_, _, _, hwork, h⟩ := Assembly.ok_bind h
  replace hg := (keeps_wire _ _ _ _).of_ok hwork hg
  obtain ⟨id, sunk, _, hwork, h⟩ := Assembly.ok_bind h
  have hsink := Assembly.ok_perform hwork
  obtain ⟨_, joined, _, hwork, h⟩ := Assembly.ok_bind h
  have hconnect := Assembly.ok_perform hwork
  obtain ⟨_, _, _, hwork, h⟩ := Assembly.ok_bind h
  cases hwork
  obtain ⟨_, _, _, hwork, h⟩ := Assembly.ok_bind h
  cases hwork
  cases h
  obtain ⟨hreached, hstate, hsinks, hcomponent⟩ := hg.joined hsink hconnect
  exact ⟨hreached, hstate, hsinks, hcomponent⟩

theorem wired_of_build {builder : Builder W} {sink : Sink W α} {session opened : Session W α}
    {context : Context W α} (h : builder.build sink session = (.ok context, opened)) :
    context.Wired sink builder.config.sinkName := by
  obtain ⟨texts, later, -, hwork⟩ := build_ok h
  exact wired_of_assemble Graph.sinkless_empty hwork

end Builder

end TraceFlow
