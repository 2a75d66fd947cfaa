import Mathlib.Logic.Relation
import TraceFlow.Proofs.Connect
import TraceFlow.Proofs.Frame

/-!
# What a command can change

A command changes a graph in four ways only: sinks move on, a fresh component is accepted, two
joinable ports are joined, the input ports of a filter grow. What each of these keeps, every past of
a graph has kept.
-/

namespace TraceFlow

namespace Graph

variable {W α : Type}

/-! ## The changes -/

/-- The graph with one component more, on the list of sinks if it is one. -/
def accept (g : Graph W α) (c : Component W α) : Graph W α :=
  { g.place c with sinks := if c.kind = .sink then g.sinks ++ [g.nextId] else g.sinks }

/-- A component that may be accepted: its name is free and none of its ports is connected. -/
structure Fresh (g : Graph W α) (c : Component W α) : Prop where
  state : g.state = .configuring
  name : g.find? c.name = none
  inputs : c.inputs = .ofCount .input c.inputs.size
  outputs : c.outputs = .ofCount .output c.outputs.size
  source : c.kind = .source → c.inputs.size = 0
  sink : c.kind = .sink → c.inputs.size = 1 ∧ c.outputs.size = 0

/-- One change of a graph. -/
inductive Change (g : Graph W α) : Graph W α → Prop where
  | phases {g' : Graph W α} (h : g'.bare = g.bare) : Change g g'
  | accept {c : Component W α} (h : g.Fresh c) : Change g (g.accept c)
  | link {upstream downstream : PortRef} (h : g.Joinable upstream downstream) :
      Change g (g.link upstream downstream)
  | grow {id : ComponentId} (h : g.kind? id = some .filter) (count : Nat) :
      Change g (g.growInputs id count)

abbrev Changes : Graph W α → Graph W α → Prop := Relation.ReflTransGen Change

/-! ## Components -/

theorem checkName_eq_ok_iff {g : Graph W α} {name : String} :
    g.checkName name = .ok () ↔ g.state = .configuring ∧ g.find? name = none := by
  unfold checkName
  by_cases hs : g.state = .configuring
  · cases hf : g.find? name <;> simp [hs]
  · simp [hs]

theorem push_graph (g : Graph W α) (c : Component W α) (session : Session W α) :
    (g.push c session).graph = g ∨ (g.push c session).graph = g.place c := by
  unfold push
  split
  · exact .inl rfl
  · exact .inr rfl

theorem addSource_graph (g : Graph W α) (cls : SourceClass W) (name : String) (params : Params)
    (level : LogLevel) (session : Session W α) :
    (g.addSource cls name params level session).graph = g ∨
      ∃ c, g.Fresh c ∧ (g.addSource cls name params level session).graph = g.accept c := by
  unfold addSource
  split
  · exact .inl rfl
  · next hname =>
    obtain ⟨hstate, hfree⟩ := checkName_eq_ok_iff.mp hname
    split
    · exact .inl rfl
    · split
      · exact .inl rfl
      · next houtputs =>
        cases (Memory.makePorts_eq_ok_iff.mp houtputs).2
        refine (push_graph ..).imp_right fun hplaced =>
          ⟨_, ⟨hstate, hfree, ?_, ?_, ?_, ?_⟩, hplaced⟩
        · rfl
        · simp
        · intro _
          rfl
        · intro h
          cases h

theorem addFilter_graph (g : Graph W α) (cls : FilterClass W) (name : String) (params : Params)
    (level : LogLevel) (session : Session W α) :
    (g.addFilter cls name params level session).graph = g ∨
      ∃ c, g.Fresh c ∧ (g.addFilter cls name params level session).graph = g.accept c := by
  unfold addFilter
  split
  · exact .inl rfl
  · next hname =>
    obtain ⟨hstate, hfree⟩ := checkName_eq_ok_iff.mp hname
    split
    · exact .inl rfl
    · split
      · exact .inl rfl
      · next hinputs =>
        split
        · exact .inl rfl
        · next houtputs =>
          cases (Memory.makePorts_eq_ok_iff.mp hinputs).2
          cases (Memory.makePorts_eq_ok_iff.mp houtputs).2
          refine (push_graph ..).imp_right fun hplaced =>
            ⟨_, ⟨hstate, hfree, ?_, ?_, ?_, ?_⟩, hplaced⟩
          · simp
          · simp
          · intro h
            cases h
          · intro h
            cases h

theorem addSink_graph (g : Graph W α) (sink : Sink W α) (name : String) (session : Session W α) :
    (g.addSink sink name session).graph = g ∨
      ∃ c, g.Fresh c ∧ (g.addSink sink name session).graph = g.accept c := by
  unfold addSink
  split
  · exact .inl rfl
  · next hname =>
    obtain ⟨hstate, hfree⟩ := checkName_eq_ok_iff.mp hname
    split
    · exact .inl rfl
    · split
      · exact .inl rfl
      · next hinputs =>
        cases (Memory.makePorts_eq_ok_iff.mp hinputs).2
        unfold push
        split
        · exact .inl rfl
        · refine .inr ⟨_, ⟨hstate, hfree, ?_, ?_, ?_, ?_⟩, rfl⟩
          · rfl
          · rfl
          · intro h
            cases h
          · intro _
            exact ⟨rfl, rfl⟩

theorem changes_of_accepted {g g' : Graph W α} (h : g' = g ∨ ∃ c, g.Fresh c ∧ g' = g.accept c) :
    g.Changes g' := by
  rcases h with rfl | ⟨c, hfresh, rfl⟩
  · exact .refl
  · exact .single (.accept hfresh)

/-! ## Commands -/

theorem changes_connect (g : Graph W α) (upstream downstream : PortRef) (session : Session W α) :
    g.Changes (g.connect upstream downstream session).graph := by
  rcases connect_graph g upstream downstream session with
    hgraph | ⟨h, hgraph | ⟨hkind, count, hgraph⟩⟩
  · rw [hgraph]
  · rw [hgraph]
    exact .single (.link h)
  · have hlink : g.Changes (g.link upstream downstream) := .single (.link h)
    rw [hgraph]
    refine hlink.tail (.grow ?_ count)
    rw [kind?_link]
    exact hkind

theorem changes_on (g : Graph W α) (command : Command W α) (session : Session W α) :
    g.Changes (command.on g session).graph := by
  cases command with
  | addSource cls name params level =>
    exact changes_of_accepted (addSource_graph g cls name params level session)
  | addFilter cls name params level =>
    exact changes_of_accepted (addFilter_graph g cls name params level session)
  | addSink sink name => exact changes_of_accepted (addSink_graph g sink name session)
  | connect upstream downstream => exact changes_connect g upstream downstream session
  | run => exact .single (.phases (bare_run g session))

theorem ReachedFrom.changes {start g : Graph W α} (h : ReachedFrom start g) : start.Changes g := by
  induction h with
  | refl => exact .refl
  | step command session _ ih => exact ih.trans (changes_on _ command session)

/-- What every change keeps holds of every graph that is reached. -/
theorem ReachedFrom.keeps {P : Graph W α → Prop} {start g : Graph W α} (h : ReachedFrom start g)
    (hstep : ∀ g g', Change g g' → P g → P g') (hstart : P start) : P g := by
  have hchanges := h.changes
  clear h
  induction hchanges with
  | refl => exact hstart
  | tail _ hlast ih => exact hstep _ _ hlast ih

end Graph

end TraceFlow
