import TraceFlow.Proofs.Life

/-!
# What sinks can rely on

A sink that a graph accepted is set up at most once, consumes only after all sinks were set up and
only until it ends, and tidies up once, when the graph is closed. A sink that was refused is never
called.
-/

namespace TraceFlow

variable {W α : Type}

namespace Graph

/-! ## Closing a graph -/

theorem hooks_tidyUpAt (session : Session W α) (c : Component W α) (id : ComponentId) :
    (tidyUpAt session c id).journal.hooks =
      session.journal.hooks ++ if c.kind = .sink then [.tidyUp id] else [] := by
  unfold tidyUpAt Component.kind
  cases c.role <;> simp [Role.kind]

def sinkPlaces (components : List (Component W α)) : List Nat :=
  (List.range components.length).filter fun i =>
    components[i]?.map Component.kind = some .sink

theorem sinkPlaces_concat (components : List (Component W α)) (c : Component W α) :
    sinkPlaces (components ++ [c]) =
      sinkPlaces components ++ if c.kind = .sink then [components.length] else [] := by
  have hbefore : (List.range components.length).filter (fun i =>
      (components ++ [c])[i]?.map Component.kind = some .sink) = sinkPlaces components := by
    apply List.filter_congr
    intro i hi
    rw [List.getElem?_append_left (List.mem_range.mp hi)]
  unfold sinkPlaces at hbefore ⊢
  rw [List.length_append, List.length_singleton, List.range_succ, List.filter_append, hbefore]
  by_cases hc : c.kind = .sink <;> simp [hc]

theorem hooks_foldl_tidyUpAt (components : List (Component W α)) (session : Session W α) :
    (components.zipIdx.foldl (fun session (c, i) => tidyUpAt session c ⟨i⟩)
        session).journal.hooks =
      session.journal.hooks ++ (sinkPlaces components).map fun i => .tidyUp ⟨i⟩ := by
  induction components using List.reverseRecOn with
  | nil => simp [sinkPlaces]
  | append_singleton components c ih =>
    rw [List.zipIdx_append, List.foldl_append, sinkPlaces_concat, List.map_append,
      ← List.append_assoc, ← ih]
    simp only [List.zipIdx_singleton, List.foldl_cons, List.foldl_nil, Nat.zero_add]
    rw [hooks_tidyUpAt]
    split <;> rfl

theorem Coherent.sinks_eq {g : Graph W α} (hg : g.Coherent) :
    g.sinks = (sinkPlaces g.components).map .mk := by
  rw [hg.sinks]
  unfold ids sinkPlaces
  rw [List.filter_map]
  rfl

theorem hooks_close {g : Graph W α} (hg : g.Coherent) (session : Session W α) :
    (g.close session).journal.hooks = session.journal.hooks ++ g.sinks.map .tidyUp := by
  have hfirst : (if g.state = .running then session.log (.tornDown g.steps)
      else session).journal.hooks = session.journal.hooks := by
    split
    · exact session.hooks_log _
    · rfl
  unfold close
  dsimp only
  rw [Session.hooks_log, hooks_foldl_tidyUpAt, hfirst, hg.sinks_eq, List.map_map]
  rfl

/-! ## Which sinks there are -/

theorem addSink_cases (g : Graph W α) (sink : Sink W α) (name : String) (session : Session W α) :
    (∃ e, g.addSink sink name session = ⟨.error e, g, session⟩) ∨
      (g.addSink sink name session).answer = .ok g.nextId ∧
        (g.addSink sink name session).graph.sinks = g.sinks ++ [g.nextId] ∧
        ∃ c, (g.addSink sink name session).graph.component? g.nextId = some c ∧ c.name = name ∧
          c.role = .sink sink .idle := by
  unfold addSink
  split
  · exact .inl ⟨_, rfl⟩
  · split
    · exact .inl ⟨_, rfl⟩
    · split
      · exact .inl ⟨_, rfl⟩
      · unfold push
        split
        · exact .inl ⟨_, rfl⟩
        · exact .inr ⟨rfl, rfl, _, component?_place_self g _, rfl, rfl⟩

theorem sinks_push (g : Graph W α) (c : Component W α) (session : Session W α) :
    (g.push c session).graph.sinks = g.sinks := by
  rcases push_graph g c session with h | h
  · rw [h]
  · rw [h]
    rfl

theorem sinks_on (g : Graph W α) (command : Command W α) (session : Session W α) :
    (∃ sink name, command = .addSink sink name ∧
      (command.on g session).answer = .ok (.component g.nextId) ∧
      (command.on g session).graph.sinks = g.sinks ++ [g.nextId]) ∨
    (command.on g session).graph.sinks = g.sinks ∧
      ∀ sink name id, command = .addSink sink name →
        (command.on g session).answer ≠ .ok (.component id) := by
  cases command with
  | addSource cls name params level =>
    refine .inr ⟨?_, fun _ _ _ h => by cases h⟩
    change (g.addSource cls name params level session).graph.sinks = g.sinks
    unfold addSource
    split
    · rfl
    · split
      · rfl
      · split
        · rfl
        · exact sinks_push ..
  | addFilter cls name params level =>
    refine .inr ⟨?_, fun _ _ _ h => by cases h⟩
    change (g.addFilter cls name params level session).graph.sinks = g.sinks
    unfold addFilter
    split
    · rfl
    · split
      · rfl
      · split
        · rfl
        · split
          · rfl
          · exact sinks_push ..
  | addSink sink name =>
    rcases addSink_cases g sink name session with ⟨e, h⟩ | ⟨hanswer, hsinks, -⟩
    · refine .inr ⟨by simp only [Command.on, h, Reply.map], fun _ _ _ _ => ?_⟩
      simp [Command.on, h, Reply.map, Except.map]
    · refine .inl ⟨sink, name, rfl, ?_, hsinks⟩
      simp only [Command.on, Reply.map, hanswer, Except.map]
  | connect upstream downstream =>
    refine .inr ⟨?_, fun _ _ _ h => by cases h⟩
    exact connect_keeps sinks (fun _ _ _ => rfl) (fun _ _ _ => rfl) g upstream downstream session
  | run => exact .inr ⟨sinks_of_bare_eq (bare_run g session), fun _ _ _ h => by cases h⟩

theorem Extends.sink? {g g' : Graph W α} (h : g.Extends g') {id : ComponentId} {sink : Sink W α}
    {phase : SinkPhase W} (hsink : g.sink? id = some (sink, phase)) :
    ∃ later, g'.sink? id = some (sink, later) := by
  obtain ⟨c, hc, hrole⟩ := sink?_eq_some_iff.mp hsink
  obtain ⟨c', hc', hgrows⟩ := h.component id c hc
  have hsame := hgrows.role
  unfold Component.setPhase at hsame
  rw [hrole] at hsame
  cases hrole' : c'.role with
  | sink sink' later =>
    simp only [hrole'] at hsame
    cases hsame
    exact ⟨later, sink?_eq_some_iff.mpr ⟨c', hc', hrole'⟩⟩
  | source source => simp [hrole'] at hsame
  | filter filter => simp [hrole'] at hsame

end Graph

/-! ## The calls of one sink -/

/-- All calls of one sink, from first to last: it is set up, consumes and tidies up. It does not
consume if it refused to be set up, and only tidies up if it was not asked to. -/
inductive Served (sink : ComponentId) : List (Hook W) → Prop where
  | idle : Served sink [.tidyUp sink]
  | refused (fault : Fault) : Served sink [.setUp sink (.error fault), .tidyUp sink]
  | fed {feedings : List (Hook W)}
      (h : ∀ hook ∈ feedings, ∃ upstream answer, hook = .consume sink upstream answer) :
      Served sink (.ready sink :: (feedings ++ [.tidyUp sink]))

/-- What the sinks of a graph can rely on, once it has been closed. -/
structure Protocol (sinks : List ComponentId) (hooks : List (Hook W)) : Prop where
  served : ∀ id ∈ sinks, Served id (hooks.filter (·.sink? = some id))
  known : ∀ hook ∈ hooks, ∀ id, hook.sink? = some id → id ∈ sinks
  ready : ∀ before after id upstream answer,
    hooks = before ++ .consume id upstream answer :: after → ∀ other ∈ sinks, .ready other ∈ before
  ended : ∀ before after id upstream,
    hooks = before ++ .consume id upstream (.ok .ended) :: after → id ∉ fedIn after
  tidied : ∃ earlier, hooks = earlier ++ sinks.map .tidyUp ∧ ∀ id, .tidyUp id ∉ earlier

/-! ## Calls in order -/

theorem split_right {β : Type} {first last before after : List β} {item : β}
    (h : first ++ last = before ++ item :: after) (hitem : item ∉ first) :
    ∃ between, before = first ++ between ∧ last = between ++ item :: after := by
  rcases List.append_eq_append_iff.mp h with ⟨between, hbefore, hlast⟩ | ⟨between, hfirst, hrest⟩
  · exact ⟨between, hbefore, hlast⟩
  · cases between with
    | nil => exact ⟨[], by rw [hfirst]; simp, hrest.symm⟩
    | cons other between =>
      -- The item would stand in the first list.
      cases hrest
      exact absurd (by rw [hfirst]; simp) hitem

theorem split_left {β : Type} {first last before after : List β} {item : β}
    (h : first ++ last = before ++ item :: after) (hitem : item ∉ last) :
    ∃ between, first = before ++ item :: between ∧ after = between ++ last := by
  rcases List.append_eq_append_iff.mp h with ⟨between, -, hlast⟩ | ⟨between, hfirst, hrest⟩
  · exact absurd (by rw [hlast]; simp) hitem
  · cases between with
    | nil => exact absurd (by rw [show last = _ from hrest.symm]; simp) hitem
    | cons other between =>
      cases hrest
      exact ⟨between, hfirst, rfl⟩

theorem filter_map_sink (call : ComponentId → Hook W) (hcall : ∀ id, (call id).sink? = some id)
    {sinks : List ComponentId} (h : sinks.Nodup) (id : ComponentId) :
    (sinks.map call).filter (·.sink? = some id) = if id ∈ sinks then [call id] else [] := by
  have hfilter : sinks.filter ((fun hook => decide (hook.sink? = some id)) ∘ call) =
      sinks.filter (· = id) := by
    apply List.filter_congr
    intro other _
    simp [hcall]
  rw [List.filter_map, hfilter, List.filter_eq, h.count]
  split <;> rfl

theorem filter_sinkCalls (hooks : List (Hook W)) (id : ComponentId) :
    (sinkCalls hooks).filter (·.sink? = some id) = hooks.filter (·.sink? = some id) := by
  unfold sinkCalls
  rw [List.filter_filter]
  apply List.filter_congr
  intro hook _
  cases h : hook.sink? <;> simp

theorem filterMap_sinkCalls {β : Type} {about : Hook W → Option β}
    (h : ∀ hook, hook.sink? = none → about hook = none) (hooks : List (Hook W)) :
    (sinkCalls hooks).filterMap about = hooks.filterMap about := by
  unfold sinkCalls
  rw [List.filterMap_filter]
  apply List.filterMap_congr
  intro hook _
  cases hsink : hook.sink? with
  | none => simp [h hook hsink]
  | some id => simp

theorem fedIn_sinkCalls (hooks : List (Hook W)) : fedIn (sinkCalls hooks) = fedIn hooks := by
  refine filterMap_sinkCalls (fun hook h => ?_) hooks
  cases hook <;> first | rfl | cases h

theorem endedIn_sinkCalls (hooks : List (Hook W)) : endedIn (sinkCalls hooks) = endedIn hooks := by
  refine filterMap_sinkCalls (fun hook h => ?_) hooks
  cases hook <;> first | rfl | cases h

theorem filterMap_map_of_none {β : Type} {about : Hook W → Option β} {call : ComponentId → Hook W}
    (h : ∀ id, about (call id) = none) (sinks : List ComponentId) :
    (sinks.map call).filterMap about = [] := by
  rw [List.filterMap_map, List.filterMap_eq_nil_iff]
  exact fun id _ => h id

theorem consume_notMem_map {call : ComponentId → Hook W} (hcall : ∀ id, (call id).fed? = none)
    {id : ComponentId} {upstream : Iterator W} {answer : Except Fault Status}
    (sinks : List ComponentId) : .consume id upstream answer ∉ sinks.map call := by
  intro hmem
  obtain ⟨other, -, h⟩ := List.mem_map.mp hmem
  have hnone := hcall other
  rw [h] at hnone
  cases hnone

namespace Graph.Called

variable {sinks : List ComponentId} {calls : List (Hook W)}

theorem cases_of_mem (h : Called sinks calls) {hook : Hook W} (hmem : hook ∈ calls) :
    ∃ id ∈ sinks, (∃ answer, hook = .setUp id answer) ∨
      ∃ upstream answer, hook = .consume id upstream answer := by
  cases h with
  | untouched => cases hmem
  | refused fault h =>
    rcases List.mem_append.mp hmem with hready | hlast
    · obtain ⟨id, hid, rfl⟩ := List.mem_map.mp hready
      exact ⟨id, h ▸ List.mem_append_left _ hid, .inl ⟨_, rfl⟩⟩
    · cases List.mem_singleton.mp hlast
      exact ⟨_, h ▸ List.mem_append_right _ List.mem_cons_self, .inl ⟨_, rfl⟩⟩
  | fed hturns =>
    rcases List.mem_append.mp hmem with hready | hfed
    · obtain ⟨id, hid, rfl⟩ := List.mem_map.mp hready
      exact ⟨id, hid, .inl ⟨_, rfl⟩⟩
    · obtain ⟨id, hid, hconsume⟩ := hturns.consume_of_mem hfed
      exact ⟨id, hid, .inr hconsume⟩

theorem of_consume {before after : List (Hook W)} {id : ComponentId} {upstream : Iterator W}
    {answer : Except Fault Status}
    (h : Called sinks (before ++ .consume id upstream answer :: after)) :
    ∃ feedings queue, before = sinks.map .ready ++ feedings ∧
      Turns sinks (feedings ++ .consume id upstream answer :: after) queue := by
  generalize hcalls : before ++ .consume id upstream answer :: after = calls at h
  have hmem : .consume id upstream answer ∈ calls := by
    rw [← hcalls]
    simp
  cases h with
  | untouched => cases hmem
  | @refused done _ _ fault h =>
    rcases List.mem_append.mp hmem with hready | hlast
    · exact absurd hready (consume_notMem_map (fun _ => rfl) done)
    · cases List.mem_singleton.mp hlast
  | fed hturns =>
    obtain ⟨feedings, hbefore, hfeedings⟩ := split_right hcalls.symm
      (consume_notMem_map (fun _ => rfl) sinks)
    exact ⟨feedings, _, hbefore, hfeedings ▸ hturns⟩

theorem served (h : Called sinks calls) (hnodup : sinks.Nodup) {id : ComponentId}
    (hid : id ∈ sinks) : Served id (calls.filter (·.sink? = some id) ++ [.tidyUp id]) := by
  have hready (done : List ComponentId) (hdone : done.Nodup) :=
    filter_map_sink (W := W) .ready (fun _ => rfl) hdone id
  cases h with
  | untouched => exact .idle
  | @refused done rest last fault h =>
    subst h
    obtain ⟨hdone, -, hapart⟩ := List.nodup_append.mp hnodup
    rw [List.filter_append, hready done hdone]
    by_cases hlast : last = id
    · subst hlast
      have hnot : last ∉ done := fun hmem => hapart last hmem last List.mem_cons_self rfl
      rw [if_neg hnot]
      simpa [Hook.sink?] using Served.refused fault
    · have hnone : [Hook.setUp (W := W) last (.error fault)].filter (·.sink? = some id) = [] := by
        simp [Hook.sink?, hlast]
      rw [hnone]
      split
      · exact @Served.fed _ id [] fun _ hmem => absurd hmem List.not_mem_nil
      · exact .idle
  | @fed feedings _ hturns =>
    rw [List.filter_append, hready sinks hnodup, if_pos hid]
    refine .fed fun hook hhook => ?_
    obtain ⟨hmem, habout⟩ := List.mem_filter.mp hhook
    obtain ⟨other, -, upstream, answer, rfl⟩ := hturns.consume_of_mem hmem
    cases of_decide_eq_true habout
    exact ⟨upstream, answer, rfl⟩

end Graph.Called

theorem consume_before_tidyUp {hooks before after : List (Hook W)} {sinks : List ComponentId}
    {id : ComponentId} {upstream : Iterator W} {answer : Except Fault Status}
    (heq : hooks ++ sinks.map .tidyUp = before ++ .consume id upstream answer :: after) :
    ∃ between, sinkCalls hooks = sinkCalls before ++ .consume id upstream answer :: between ∧
      fedIn after = fedIn between := by
  obtain ⟨between, hhooks, hafter⟩ := split_left heq (consume_notMem_map (fun _ => rfl) sinks)
  have hnone : fedIn (sinks.map (Hook.tidyUp (W := W))) = [] :=
    filterMap_map_of_none (fun _ => rfl) sinks
  refine ⟨sinkCalls between, ?_, ?_⟩
  · rw [hhooks, sinkCalls_append]
    rfl
  · rw [hafter, fedIn_append, hnone, List.append_nil, fedIn_sinkCalls]

/-- Calls that begin as they should, and end with all sinks tidying up, keep the protocol. -/
theorem protocol_of_called {sinks : List ComponentId} {hooks : List (Hook W)}
    (hnodup : sinks.Nodup) (h : Graph.Called sinks (sinkCalls hooks)) :
    Protocol sinks (hooks ++ sinks.map .tidyUp) := by
  constructor
  · intro id hid
    rw [List.filter_append, ← filter_sinkCalls hooks,
      filter_map_sink .tidyUp (fun _ => rfl) hnodup, if_pos hid]
    exact h.served hnodup hid
  · intro hook hmem id hid
    rcases List.mem_append.mp hmem with hearlier | htidied
    · have hcall : hook ∈ sinkCalls hooks := List.mem_filter.mpr ⟨hearlier, by rw [hid]; rfl⟩
      obtain ⟨other, hother, ⟨_, rfl⟩ | ⟨_, _, rfl⟩⟩ := h.cases_of_mem hcall
      · cases hid
        exact hother
      · cases hid
        exact hother
    · obtain ⟨other, hother, rfl⟩ := List.mem_map.mp htidied
      cases hid
      exact hother
  · intro before after id upstream answer heq other hother
    obtain ⟨between, hcalls, -⟩ := consume_before_tidyUp heq
    rw [hcalls] at h
    obtain ⟨feedings, _, hbefore, -⟩ := h.of_consume
    have hready : .ready other ∈ sinkCalls before := by
      rw [hbefore]
      exact List.mem_append_left _ (List.mem_map_of_mem hother)
    exact List.mem_of_mem_filter hready
  · intro before after id upstream heq
    obtain ⟨between, hcalls, hfed⟩ := consume_before_tidyUp heq
    rw [hcalls] at h
    obtain ⟨feedings, _, -, hturns⟩ := h.of_consume
    rw [hfed]
    exact hturns.not_fed_of_ended hnodup
  · refine ⟨hooks, rfl, fun id hmem => ?_⟩
    obtain ⟨_, _, ⟨_, hcall⟩ | ⟨_, _, hcall⟩⟩ := h.cases_of_mem (List.mem_filter.mpr ⟨hmem, rfl⟩)
    · cases hcall
    · cases hcall

/-! ## Every life -/

namespace Past

theorem coherent_of (life : List (Deed W α)) : (of life).graph.Coherent :=
  (reached_of life).coherent

def closed (past : Past W α) (scene : Scene W α) : List (Hook W) :=
  (past.graph.close ⟨scene, past.journal⟩).journal.hooks

/-- In the course of a life the sink was accepted under the id. -/
def Accepted (life : List (Deed W α)) (id : ComponentId) (sink : Sink W α) : Prop :=
  ∃ before name scene after, life = before ++ ⟨.addSink sink name, scene⟩ :: after ∧
    ((of before).reply ⟨.addSink sink name, scene⟩).answer = .ok (.component id)

theorem Accepted.concat {life : List (Deed W α)} {id : ComponentId} {sink : Sink W α}
    (h : Accepted life id sink) (deed : Deed W α) : Accepted (life ++ [deed]) id sink := by
  obtain ⟨before, name, scene, after, rfl, hanswer⟩ := h
  exact ⟨before, name, scene, after ++ [deed], by simp, hanswer⟩

theorem exists_accepted {life : List (Deed W α)} {id : ComponentId}
    (h : id ∈ (of life).graph.sinks) : ∃ sink, Accepted life id sink := by
  induction life using List.reverseRecOn with
  | nil => cases h
  | append_singleton life deed ih =>
    rw [of_concat] at h
    obtain ⟨command, scene⟩ := deed
    rcases Graph.sinks_on (of life).graph command ⟨scene, (of life).journal⟩ with
      ⟨sink, name, rfl, hanswer, hsinks⟩ | ⟨hsinks, -⟩
    · rcases List.mem_append.mp (hsinks ▸ h : id ∈ (of life).graph.sinks ++ _) with hold | hnew
      · obtain ⟨sink', haccepted⟩ := ih hold
        exact ⟨sink', haccepted.concat _⟩
      · cases List.mem_singleton.mp hnew
        exact ⟨sink, life, name, scene, [], rfl, hanswer⟩
    · obtain ⟨sink, haccepted⟩ := ih (hsinks ▸ h : id ∈ (of life).graph.sinks)
      exact ⟨sink, haccepted.concat _⟩

theorem Accepted.sink? {life : List (Deed W α)} {id : ComponentId} {sink : Sink W α}
    (h : Accepted life id sink) :
    id ∈ (of life).graph.sinks ∧ ∃ phase, (of life).graph.sink? id = some (sink, phase) := by
  obtain ⟨before, name, scene, after, rfl, hanswer⟩ := h
  have hext : ((of before).step ⟨.addSink sink name, scene⟩).graph.Extends
      (of (before ++ ⟨.addSink sink name, scene⟩ :: after)).graph := by
    rw [of_append]
    exact (reachedFrom_foldl _ after).extends
  rcases Graph.addSink_cases (of before).graph sink name ⟨scene, (of before).journal⟩ with
    ⟨e, hrefused⟩ | ⟨haccepted, hsinks, c, hc, -, hrole⟩
  · simp [reply, Command.on, Reply.map, hrefused, Except.map] at hanswer
  · simp only [reply, Command.on, Reply.map, haccepted, Except.map] at hanswer
    cases hanswer
    refine ⟨hext.sinks.subset ?_, hext.sink? (Graph.sink?_eq_some_iff.mpr ⟨c, hc, hrole⟩)⟩
    rw [show ((of before).step ⟨.addSink sink name, scene⟩).graph.sinks = _ from hsinks]
    simp

theorem accepted_iff {life : List (Deed W α)} {id : ComponentId} {sink : Sink W α} :
    Accepted life id sink ↔
      id ∈ (of life).graph.sinks ∧ ∃ phase, (of life).graph.sink? id = some (sink, phase) := by
  constructor
  · exact Accepted.sink?
  · rintro ⟨hid, phase, hsink⟩
    obtain ⟨sink', haccepted⟩ := exists_accepted hid
    obtain ⟨-, phase', hsink'⟩ := haccepted.sink?
    cases hsink.symm.trans hsink'
    exact haccepted

/-- A sink that was refused has left no trace at all. -/
theorem of_refused {before after : List (Deed W α)} {sink : Sink W α} {name : String}
    {scene : Scene W α} {e : GraphError}
    (h : ((of before).reply ⟨.addSink sink name, scene⟩).answer = .error e) :
    (of before).reply ⟨.addSink sink name, scene⟩ =
        ⟨.error e, (of before).graph, ⟨scene, (of before).journal⟩⟩ ∧
      of (before ++ ⟨.addSink sink name, scene⟩ :: after) = of (before ++ after) := by
  have hreply : (of before).reply ⟨.addSink sink name, scene⟩ =
      ⟨.error e, (of before).graph, ⟨scene, (of before).journal⟩⟩ := by
    rcases Graph.addSink_cases (of before).graph sink name ⟨scene, (of before).journal⟩ with
      ⟨e', hrefused⟩ | ⟨haccepted, -⟩
    · simp only [reply, Command.on, Reply.map, hrefused, Except.map] at h ⊢
      cases h
      rfl
    · simp [reply, Command.on, Reply.map, haccepted, Except.map] at h
  refine ⟨hreply, ?_⟩
  rw [of_append, of_append, List.foldl_cons, step_of_reply hreply]

theorem step_of_faulted {past : Past W α} (h : past.graph.state = .faulted) (deed : Deed W α) :
    past.step deed = past := by
  obtain ⟨command, scene⟩ := deed
  by_cases hcommand : command = .run
  · subst hcommand
    have hrun : past.graph.run ⟨scene, past.journal⟩ =
        ⟨.error .faulted, past.graph, ⟨scene, past.journal⟩⟩ := by
      unfold Graph.run
      simp only [h]
    rw [step_of_run hrun]
  · have hstate : past.graph.state ≠ .configuring := by
      rw [h]
      decide
    rw [step_of_reply (Graph.on_of_started hstate hcommand ⟨scene, past.journal⟩)]

theorem faulted_of_error {past : Past W α} (hreached : past.graph.Reached) {scene : Scene W α}
    {e : GraphError} (h : (past.reply ⟨.run, scene⟩).answer = .error e) :
    (past.step ⟨.run, scene⟩).graph.state = .faulted := by
  have hanswer {answer : Status}
      (hok : (past.graph.run ⟨scene, past.journal⟩).answer = .ok answer) : False := by
    simp [reply, Command.on, Reply.map, hok, Except.map] at h
  rcases past.graph.run_cases ⟨scene, past.journal⟩ with
    ⟨-, hrun⟩ | ⟨hstate, hrun⟩ | ⟨e', failed, between, -, -, hrun⟩ | ⟨ready, opened, hready⟩
  · exact (hanswer (by rw [hrun])).elim
  · rw [step_of_run hrun]
    exact hstate
  · rw [step_of_run hrun]
  · obtain ⟨hrunning, hunderway, hrun⟩ := hready.underway hreached.coherent hreached.phased
    obtain ⟨_, _, _, _, _, _, hturn⟩ := hunderway.tookTurn hrunning opened
    rcases hturn.state with ⟨-, hfaulted⟩ | ⟨⟨status, hok⟩, -⟩
    · rw [step_of_run hrun]
      exact hfaulted
    · exact (hanswer (by rw [hrun]; exact hok)).elim

theorem of_failed {before after : List (Deed W α)} {scene : Scene W α} {e : GraphError}
    (h : ((of before).reply ⟨.run, scene⟩).answer = .error e) :
    of (before ++ ⟨.run, scene⟩ :: after) = of (before ++ [⟨.run, scene⟩]) := by
  have hfaulted := faulted_of_error (reached_of before) h
  rw [of_append, of_concat, List.foldl_cons]
  -- All that matters of the past is that its graph is faulted.
  clear h
  generalize (of before).step ⟨.run, scene⟩ = past at hfaulted
  induction after with
  | nil => rfl
  | cons deed rest ih => rw [List.foldl_cons, step_of_faulted hfaulted, ih]

theorem closed_eq (life : List (Deed W α)) (scene : Scene W α) :
    (of life).closed scene =
      (of life).journal.hooks ++ (of life).graph.sinks.map .tidyUp :=
  Graph.hooks_close (coherent_of life) _

/--
Whatever is asked of a graph, and whatever its components do, its sinks are called in order: each as
`Served` says, and all as `Protocol` says. They are the sinks that were accepted, in the order of
the components. A refused sink leaves no trace, and a step that failed is followed by no call but
those to tidy up.
-/
theorem protocol_closed (life : List (Deed W α)) (scene : Scene W α) :
    Protocol (of life).graph.sinks ((of life).closed scene) ∧
      (of life).graph.sinks =
        (of life).graph.ids.filter ((of life).graph.kind? · = some .sink) ∧
      (∀ id sink, Accepted life id sink ↔
        id ∈ (of life).graph.sinks ∧ ∃ phase, (of life).graph.sink? id = some (sink, phase)) ∧
      (∀ before sink name met after e, life = before ++ ⟨.addSink sink name, met⟩ :: after →
        ((of before).reply ⟨.addSink sink name, met⟩).answer = .error e →
        (of before).reply ⟨.addSink sink name, met⟩ =
            ⟨.error e, (of before).graph, ⟨met, (of before).journal⟩⟩ ∧
          of life = of (before ++ after)) ∧
      ∀ before met after e, life = before ++ ⟨.run, met⟩ :: after →
        ((of before).reply ⟨.run, met⟩).answer = .error e →
        (of life).closed scene =
          (of (before ++ [⟨.run, met⟩])).journal.hooks ++ (of life).graph.sinks.map .tidyUp := by
  have hg := coherent_of life
  refine ⟨?_, hg.sinks, fun id sink => accepted_iff, ?_, ?_⟩
  · rw [closed_eq]
    exact protocol_of_called hg.nodup_sinks (orderly_of life).called
  · rintro before sink name met after e rfl h
    exact of_refused h
  · rintro before met after e rfl h
    rw [closed_eq, of_failed h]

end Past

end TraceFlow
