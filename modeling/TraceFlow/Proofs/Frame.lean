import TraceFlow.Graph.Command
import TraceFlow.Proofs.Ports

/-!
# What running leaves as it was

A step moves sinks from phase to phase, and it changes the cursor, the state and the number of
steps. The graph without these, its bare graph, never changes.
-/

namespace TraceFlow

namespace Component

variable {W α : Type}

@[simp] theorem setPhase_setPhase (c : Component W α) (first last : SinkPhase W) :
    (c.setPhase first).setPhase last = c.setPhase last := by
  obtain ⟨_, _, _, _, _, role⟩ := c
  cases role <;> rfl

@[simp] theorem className_setPhase (c : Component W α) (phase : SinkPhase W) :
    (c.setPhase phase).className = c.className := by
  unfold setPhase
  split <;> rfl

@[simp] theorem level_setPhase (c : Component W α) (phase : SinkPhase W) :
    (c.setPhase phase).level = c.level := by
  unfold setPhase
  split <;> rfl

end Component

/-- The session once its caller has done something to the world and to what is shared. -/
def Session.stir {W α : Type} (session : Session W α) (change : W × α → W × α) : Session W α :=
  { session with
    world := (change (session.world, session.shared)).1
    shared := (change (session.world, session.shared)).2 }

theorem makeEach_keeps {W ι β γ : Type} {make : ι → Session W α → Made W α β}
    (kept : Session W α → γ) (h : ∀ item session, kept (make item session).2 = kept session)
    (items : List ι) (session : Session W α) :
    kept (makeEach make items session).2 = kept session := by
  induction items generalizing session with
  | nil => rfl
  | cons item rest ih =>
    have hone := h item session
    unfold makeEach
    split
    · next hmake => rw [hmake] at hone; exact hone
    · next made between hmake =>
      rw [hmake] at hone
      have hrest := ih between
      split
      · next hothers => rw [hothers] at hrest; exact hrest.trans hone
      · next hothers => rw [hothers] at hrest; exact hrest.trans hone

namespace Graph

variable {W α : Type}

/-- The graph as it was put together, with all sinks idle. -/
def bare (g : Graph W α) : Graph W α where
  components := g.components.map (·.setPhase .idle)
  connections := g.connections
  names := g.names
  sinks := g.sinks

@[simp] theorem connections_bare (g : Graph W α) : g.bare.connections = g.connections := rfl

@[simp] theorem sinks_bare (g : Graph W α) : g.bare.sinks = g.sinks := rfl

@[simp] theorem find?_bare (g : Graph W α) (name : String) : g.bare.find? name = g.find? name := rfl

theorem component?_bare (g : Graph W α) (id : ComponentId) :
    g.bare.component? id = (g.component? id).map (·.setPhase .idle) := by
  simp [component?, bare]

@[simp] theorem kind?_bare (g : Graph W α) (id : ComponentId) : g.bare.kind? id = g.kind? id := by
  unfold kind?
  rw [component?_bare]
  cases g.component? id <;> simp

@[simp] theorem name?_bare (g : Graph W α) (id : ComponentId) : g.bare.name? id = g.name? id := by
  unfold name?
  rw [component?_bare]
  cases g.component? id <;> simp

theorem nameOf_eq {g : Graph W α} {id : ComponentId} {c : Component W α}
    (hc : g.component? id = some c) : g.nameOf id = c.name := by
  unfold nameOf
  rw [hc]

theorem nameOf_of_bare_eq {g g' : Graph W α} (h : g'.bare = g.bare) (id : ComponentId) :
    g'.nameOf id = g.nameOf id := by
  have hname (g : Graph W α) : g.nameOf id = (g.name? id).getD "" := by
    unfold nameOf name?
    cases g.component? id <;> rfl
  rw [hname, hname, ← name?_bare g', h, name?_bare]

@[simp] theorem table?_bare (g : Graph W α) (id : ComponentId) (direction : Direction) :
    g.bare.table? id direction = g.table? id direction := by
  unfold table?
  rw [component?_bare]
  cases g.component? id <;> simp

@[simp] theorem port?_bare (g : Graph W α) (ref : PortRef) : g.bare.port? ref = g.port? ref := by
  unfold port?
  rw [table?_bare]

@[simp] theorem holds?_bare (g : Graph W α) (ref : PortRef) : g.bare.holds? ref = g.holds? ref := by
  unfold holds?
  rw [port?_bare]

@[simp] theorem portCount_bare (g : Graph W α) (id : ComponentId) (direction : Direction) :
    g.bare.portCount id direction = g.portCount id direction := by
  unfold portCount
  rw [table?_bare]

@[simp] theorem ids_bare (g : Graph W α) : g.bare.ids = g.ids := by
  simp [ids, bare]

@[simp] theorem componentCount_bare (g : Graph W α) : g.bare.componentCount = g.componentCount := by
  simp [componentCount, bare]

theorem bare_modify_setPhase (g : Graph W α) (id : ComponentId) (phase : SinkPhase W) :
    (g.modify id (·.setPhase phase)).bare = g.bare := by
  have h : (g.components.modify id.index (·.setPhase phase)).map (·.setPhase .idle) =
      g.components.map (·.setPhase .idle) := by
    apply List.ext_getElem?
    intro i
    rw [List.getElem?_map, List.getElem?_map, List.getElem?_modify]
    cases g.components[i]? with
    | none => rfl
    | some c => by_cases hi : id.index = i <;> simp [hi]
  unfold bare modify
  rw [h]

/-! ## What is kept

What tells nothing of the phases of the sinks is kept while they are given their iterators; what
tells nothing of the state either is kept by the whole first step, and what tells nothing of the
turns by every step. -/

section

variable {γ : Type} (kept : Graph W α → γ)

theorem openSink_keeps (hphase : ∀ g id phase, kept (g.modify id (·.setPhase phase)) = kept g)
    (g : Graph W α) (id : ComponentId) (session : Session W α) :
    kept (g.openSink id session).graph = kept g := by
  unfold openSink
  split
  · rfl
  · split
    · rfl
    · rfl
    · split
      · rfl
      · exact hphase g id _

theorem openSinks_keeps (hphase : ∀ g id phase, kept (g.modify id (·.setPhase phase)) = kept g)
    (g : Graph W α) (ids : List ComponentId) (session : Session W α) :
    kept (g.openSinks ids session).graph = kept g := by
  induction ids generalizing g session with
  | nil => rfl
  | cons id rest ih =>
    have hone := openSink_keeps kept hphase g id session
    unfold openSinks
    split
    · next h => rw [h] at hone; exact hone
    · next h =>
      rw [h] at hone
      rw [ih]
      exact hone

theorem configure_keeps (hphase : ∀ g id phase, kept (g.modify id (·.setPhase phase)) = kept g)
    (hstate : ∀ g state, kept { g with state } = kept g) (g : Graph W α) (session : Session W α) :
    kept (g.configure session).graph = kept g := by
  have hopen := openSinks_keeps kept hphase g g.sinks session
  unfold configure
  split
  · rfl
  · split
    · next h => rw [h] at hopen; exact hopen
    · next h =>
      rw [h] at hopen
      split
      · exact hopen
      · exact (hstate _ _).trans hopen

theorem settle_keeps (hstate : ∀ g state, kept { g with state } = kept g) (g : Graph W α)
    (otherwise : Status) (session : Session W α) :
    kept (g.settle otherwise session).graph = kept g := by
  unfold settle
  split
  · exact hstate g _
  · rfl

theorem consume_keeps (hphase : ∀ g id phase, kept (g.modify id (·.setPhase phase)) = kept g)
    (hstate : ∀ g state, kept { g with state } = kept g) (g : Graph W α) (id : ComponentId)
    (name : String) (sink : Sink W α) (upstream : Iterator W) (session : Session W α) :
    kept (g.consume id name sink upstream session).graph = kept g := by
  unfold consume
  split
  · rfl
  · rfl
  · rfl
  · exact (settle_keeps kept hstate ..).trans (hphase g id _)

theorem feedWithin_keeps (hphase : ∀ g id phase, kept (g.modify id (·.setPhase phase)) = kept g)
    (hstate : ∀ g state, kept { g with state } = kept g) (hadvance : ∀ g, kept g.advance = kept g)
    (g : Graph W α) (turns : Nat) (session : Session W α) :
    kept (g.feedWithin turns session).graph = kept g := by
  induction turns generalizing g with
  | zero => exact settle_keeps kept hstate g _ session
  | succ turns ih =>
    unfold feedWithin
    split
    · rfl
    · split
      · exact hadvance g
      · split
        · exact (consume_keeps kept hphase hstate ..).trans (hadvance g)
        · exact hadvance g
        · exact (ih _).trans (hadvance g)

end

/-! ## What making iterators keeps of a session -/

section

variable {γ : Type} (kept : Session W α → γ)

theorem askIterator_keeps
    (hask : ∀ session act port upstream,
      kept (session.ask act (.iterator port upstream)).2 = kept session)
    (name : String) (port : PortRef) (upstream : List (Iterator W)) (act : Act W (Iterator W))
    (session : Session W α) :
    kept (askIterator name port upstream act session).2 = kept session := by
  have hone := hask session act.beside port upstream
  unfold askIterator
  split
  · next h => rw [h] at hone; exact hone
  · next h => rw [h] at hone; exact hone

theorem iteratorWithin_keeps
    (hask : ∀ session act port upstream,
      kept (session.ask act (.iterator port upstream)).2 = kept session)
    (g : Graph W α) (depth : Nat) (port : PortRef) (session : Session W α) :
    kept (g.iteratorWithin depth port session).2 = kept session := by
  induction depth generalizing port session with
  | zero => rfl
  | succ depth ih =>
    unfold iteratorWithin walk
    split
    · rfl
    · next c hc =>
      split
      · exact askIterator_keeps kept hask ..
      · have hupstream := makeEach_keeps kept ih (g.feeders c) session
        split
        · next h => rw [h] at hupstream; exact hupstream
        · next h =>
          rw [h] at hupstream
          exact (askIterator_keeps kept hask ..).trans hupstream
      · rfl

theorem openSinks_session_keeps
    (hask : ∀ session act port upstream,
      kept (session.ask act (.iterator port upstream)).2 = kept session)
    (g : Graph W α) (ids : List ComponentId) (session : Session W α) :
    kept (g.openSinks ids session).session = kept session := by
  have hone (g : Graph W α) (id : ComponentId) (session : Session W α) :
      kept (g.openSink id session).session = kept session := by
    unfold openSink
    split
    · rfl
    · split
      · rfl
      · rfl
      · next port _ =>
        have hmade := iteratorWithin_keeps kept hask g g.componentCount port session
        unfold iterator
        split
        · next h => rw [h] at hmade; exact hmade
        · next h => rw [h] at hmade; exact hmade
  induction ids generalizing g session with
  | nil => rfl
  | cons id rest ih =>
    have hfirst := hone g id session
    unfold openSinks
    split
    · next h => rw [h] at hfirst; exact hfirst
    · next h =>
      rw [h] at hfirst
      exact (ih _ _).trans hfirst

end

/-! ## What putting a graph together keeps of a session -/

/-- Neither a line nor a call by which a graph is put together changes what is kept. -/
structure Unmoved {γ : Type} (kept : Session W α → γ) : Prop where
  log : ∀ session line, kept (session.log line) = kept session
  instantiate : ∀ {β : Type} (session : Session W α) (act : Act W β) className params level,
    kept (session.ask act.beside fun _ => .instantiate className params level).2 = kept session
  connected : ∀ session (change : W → W) filter port,
    kept (session.tell (Prod.map change id) (.inputConnected filter port)) = kept session

namespace Unmoved

variable {γ : Type} {kept : Session W α → γ}

theorem push (h : Unmoved kept) (g : Graph W α) (c : Component W α) (session : Session W α) :
    kept (g.push c session).session = kept session := by
  unfold Graph.push
  split
  · rfl
  · exact h.log _ _

theorem addSource (h : Unmoved kept) (g : Graph W α) (cls : SourceClass W) (name : String)
    (params : Params) (level : LogLevel) (session : Session W α) :
    kept (g.addSource cls name params level session).session = kept session := by
  have hask := h.instantiate session (cls.instantiate params level) cls.name params level
  unfold Graph.addSource
  split
  · rfl
  · split
    · next hasked => rw [hasked] at hask; exact hask
    · next hasked =>
      rw [hasked] at hask
      split
      · exact hask
      · exact (h.push ..).trans hask

theorem addFilter (h : Unmoved kept) (g : Graph W α) (cls : FilterClass W) (name : String)
    (params : Params) (level : LogLevel) (session : Session W α) :
    kept (g.addFilter cls name params level session).session = kept session := by
  have hask := h.instantiate session (cls.instantiate params level) cls.name params level
  unfold Graph.addFilter
  split
  · rfl
  · split
    · next hasked => rw [hasked] at hask; exact hask
    · next hasked =>
      rw [hasked] at hask
      split
      · exact hask
      · split
        · exact hask
        · exact (h.push ..).trans hask

theorem addSink (h : Unmoved kept) (g : Graph W α) (sink : Sink W α) (name : String)
    (session : Session W α) : kept (g.addSink sink name session).session = kept session := by
  unfold Graph.addSink
  split
  · rfl
  · split
    · rfl
    · split
      · rfl
      · next inputs _ =>
        have hpush := h.push g
          { name, className := none, level := default, inputs, outputs := .ofCount .output 0
            role := .sink sink .idle } session
        dsimp only
        split
        · next hpushed => rw [hpushed] at hpush; exact hpush
        · next hpushed => rw [hpushed] at hpush; exact hpush

theorem announce (h : Unmoved kept) (g : Graph W α) (port : PortRef) (session : Session W α) :
    kept (g.announce port session).2 = kept session := by
  unfold Graph.announce
  split
  · dsimp only
    split <;> exact h.connected ..
  · rfl

theorem connect (h : Unmoved kept) (g : Graph W α) (upstream downstream : PortRef)
    (session : Session W α) :
    kept (g.connect upstream downstream session).session = kept session := by
  have hannounce := h.announce (g.link upstream downstream) downstream session
  unfold Graph.connect
  split
  · rfl
  · split
    · rfl
    · dsimp only
      split
      · next hsaid => rw [hsaid] at hannounce; exact hannounce
      · next hsaid =>
        rw [hsaid] at hannounce
        exact (h.log _ _).trans hannounce

theorem on (h : Unmoved kept) (g : Graph W α) {command : Command W α} (hcommand : command ≠ .run)
    (session : Session W α) : kept (command.on g session).session = kept session := by
  cases command with
  | addSource cls name params level => exact h.addSource g cls name params level session
  | addFilter cls name params level => exact h.addFilter g cls name params level session
  | addSink sink name => exact h.addSink g sink name session
  | connect upstream downstream => exact h.connect g upstream downstream session
  | run => exact absurd rfl hcommand

end Unmoved

theorem unmoved_memory_shared :
    Unmoved fun session : Session W α => (session.memory, session.shared) where
  log _ _ := rfl
  instantiate _ _ _ _ _ := rfl
  connected _ _ _ _ := rfl

/-! ## The bare graph -/

theorem bare_openSink (g : Graph W α) (id : ComponentId) (session : Session W α) :
    (g.openSink id session).graph.bare = g.bare :=
  openSink_keeps bare bare_modify_setPhase g id session

theorem bare_openSinks (g : Graph W α) (ids : List ComponentId) (session : Session W α) :
    (g.openSinks ids session).graph.bare = g.bare :=
  openSinks_keeps bare bare_modify_setPhase g ids session

theorem bare_configure (g : Graph W α) (session : Session W α) :
    (g.configure session).graph.bare = g.bare :=
  configure_keeps bare bare_modify_setPhase (fun _ _ => rfl) g session

theorem bare_consume (g : Graph W α) (id : ComponentId) (name : String) (sink : Sink W α)
    (upstream : Iterator W) (session : Session W α) :
    (g.consume id name sink upstream session).graph.bare = g.bare :=
  consume_keeps bare bare_modify_setPhase (fun _ _ => rfl) ..

theorem bare_feedWithin (g : Graph W α) (turns : Nat) (session : Session W α) :
    (g.feedWithin turns session).graph.bare = g.bare :=
  feedWithin_keeps bare bare_modify_setPhase (fun _ _ => rfl) (fun _ => rfl) g turns session

theorem bare_conclude (reply : Reply W α Status) :
    (conclude reply).graph.bare = reply.graph.bare := by
  unfold conclude
  split <;> rfl

theorem bare_run (g : Graph W α) (session : Session W α) :
    (g.run session).graph.bare = g.bare := by
  have hconf := bare_configure g session
  unfold run
  split
  · rfl
  · rfl
  · rw [bare_conclude]
    exact bare_feedWithin ..
  · split
    · next h => rw [h] at hconf; exact hconf
    · next h =>
      rw [h] at hconf
      rw [bare_conclude]
      exact (bare_feedWithin ..).trans hconf

end Graph

end TraceFlow
