import TraceFlow.Proofs.Solo
import TraceFlow.Proofs.Topology

/-!
# A context as a pipeline

A pipeline is a straight line: iterators are made from the sources to the filter, the sink is set
up, and then it consumes until it has ended or something has failed. A context that could be built
does in every sequence of pulls exactly what the pipeline of its blueprint does.
-/

namespace TraceFlow

variable {W α : Type}

/-- Some sources, a filter and a sink. The sources are numbered from zero on, the filter comes after
them, and then the sink. -/
structure Pipeline (W α : Type) where
  sources : List (Fitted W)
  filterName : String
  filter : Filter W
  sinkName : String
  sink : Sink W α

inductive Stage (W : Type) where
  | fresh
  | reading (upstream : Iterator W)
  | ended
  | faulted

namespace Pipeline

def filterPort (pipeline : Pipeline W α) : PortRef :=
  ComponentId.output ⟨pipeline.sources.length⟩ 0

def sinkId (pipeline : Pipeline W α) : ComponentId := ⟨pipeline.sources.length + 1⟩

def createFor (outlet : Fitted W × PortRef) : Session W α → Made W α (Iterator W) :=
  Graph.askIterator outlet.1.name outlet.2 [] (outlet.1.source.iterator outlet.2.index)

/-- One iterator for each output port of the sources, in order, and from these the filter's. -/
def openUp (pipeline : Pipeline W α) (session : Session W α) : Made W α (Iterator W) :=
  match makeEach createFor (Fitted.outlets pipeline.sources) session with
  | (.error e, session) => (.error e, session)
  | (.ok upstream, session) =>
    Graph.askIterator pipeline.filterName pipeline.filterPort upstream
      (pipeline.filter.iterator 0 upstream) session

/-- The iterators first; only then is the sink set up. -/
def start (pipeline : Pipeline W α) (session : Session W α) : Made W α (Iterator W) :=
  match pipeline.openUp session with
  | (.error e, session) => (.error e, session)
  | (.ok upstream, session) =>
    match session.ask pipeline.sink.setUp (.setUp pipeline.sinkId) with
    | (.error fault, session) => (.error (.sink pipeline.sinkName fault), session)
    | (.ok (), session) => (.ok upstream, session)

/-- Lets the sink consume until it has something to say, at most `patience` times. -/
def consume (pipeline : Pipeline W α) :
    (patience : Nat) → Iterator W → Session W α → Pulled × Stage W × Session W α
  | 0, upstream, session => (.waiting, .reading upstream, session)
  | patience + 1, upstream, session =>
    match Graph.askSink pipeline.sinkId pipeline.sink upstream session with
    | (.ok .ok, session) => (.hasMessages, .reading upstream, session)
    | (.ok .ended, session) => (.endOfStream, .ended, session)
    | (.error fault, session) =>
      (.failed (.execution (.sink pipeline.sinkName fault)), .faulted, session)
    | (.ok .again, session) => pipeline.consume patience upstream session

def pull (pipeline : Pipeline W α) :
    (patience : Nat) → Stage W → Session W α → Pulled × Stage W × Session W α
  | 0, stage, session => (.waiting, stage, session)
  | patience + 1, .fresh, session =>
    match pipeline.start session with
    | (.error e, session) => (.failed (.execution e), .faulted, session)
    | (.ok upstream, session) => pipeline.consume (patience + 1) upstream session
  | patience + 1, .reading upstream, session => pipeline.consume (patience + 1) upstream session
  | _ + 1, .ended, session => (.endOfStream, .ended, session)
  | _ + 1, .faulted, session => (.failed (.execution .faulted), .faulted, session)

end Pipeline

def Blueprint.pipeline (blueprint : Blueprint W) (config : Config) (sink : Sink W α) :
    Pipeline W α where
  sources := blueprint.sources
  filterName := config.filterName
  filter := blueprint.filter
  sinkName := config.sinkName
  sink := sink

/-! ## Many pulls -/

/-- Pulls with a patience each; before every pull the world and what is shared may have changed. -/
def pulls {S : Type} (pull : Nat → S → Session W α → Pulled × S × Session W α) :
    List (Nat × (W × α → W × α)) → S → Session W α → List (Pulled) × S × Session W α
  | [], state, session => ([], state, session)
  | (patience, change) :: rest, state, session =>
    match pull patience state (session.stir change) with
    | (answer, state, session) =>
      match pulls pull rest state session with
      | (answers, state, session) => (answer :: answers, state, session)

/-! ## The iterators of a context -/

theorem makeEach_map {ι κ β : Type} (make : κ → Session W α → Made W α β) (f : ι → κ)
    (items : List ι) (session : Session W α) :
    makeEach make (items.map f) session = makeEach (fun item => make (f item)) items session := by
  induction items generalizing session with
  | nil => rfl
  | cons item rest ih =>
    unfold makeEach
    simp only [List.map_cons, ih]

theorem filterMap_eq_of_getElem? {β γ : Type} {f : β → Option γ} {items : List β} {made : List γ}
    (h : ∀ k : Nat, items[k]?.bind f = made[k]?) : items.filterMap f = made := by
  induction items generalizing made with
  | nil =>
    cases made with
    | nil => rfl
    | cons first _ => cases h 0
  | cons item rest ih =>
    cases made with
    | nil =>
      have hfirst : f item = none := h 0
      rw [List.filterMap_cons_none hfirst]
      exact ih fun k => h (k + 1)
    | cons first others =>
      have hfirst : f item = some first := h 0
      rw [List.filterMap_cons_some hfirst]
      exact congrArg _ (ih fun k => h (k + 1))

namespace Context.Follows

variable {context : Context W α} {config : Config} {sink : Sink W α} {blueprint : Blueprint W}

theorem wire_of_lt (h : context.Follows config sink blueprint) {k : Nat} {outlet : PortRef}
    (hk : blueprint.outlets[k]? = some outlet) :
    context.graph.connections[k]? = some ⟨⟨k⟩, outlet, context.filter.input k⟩ := by
  have hwire : blueprint.wires[k]? = some (outlet, blueprint.filterId.input k) := by
    unfold Blueprint.wires
    rw [List.getElem?_append_left, List.getElem?_mapIdx, hk, Option.map_some]
    simpa using (List.getElem?_eq_some_iff.mp hk).1
  rw [h.connection?, hwire, h.filter]
  rfl

theorem holds?_input (h : context.Follows config sink blueprint) (k : Nat) :
    context.graph.holds? (context.filter.input k) =
      blueprint.outlets[k]?.map fun _ => ⟨k⟩ := by
  cases hk : blueprint.outlets[k]? with
  | some outlet =>
    exact (h.laid.reached.coherent.holds_iff _ _).mpr ⟨_, h.wire_of_lt hk, .inr rfl⟩
  | none =>
    have hge : Fitted.portsOf blueprint.sources ≤ k := by
      rw [← Blueprint.length_outlets]
      exact List.getElem?_eq_none_iff.mp hk
    rw [Option.map_none, ← Option.not_isSome_iff_eq_none, h.laid.isSome_holds?,
      Blueprint.exists_wire_iff, h.filter]
    rintro (⟨_, _, _, _, _, hport⟩ | ⟨k', hlt, hport⟩ | hport | hport)
    · cases congrArg PortRef.direction hport
    · have hindex : k = k' := congrArg PortRef.index hport
      omega
    · cases congrArg PortRef.direction hport
    · have hcomponent := congrArg (fun port : PortRef => port.component.index) hport
      exact absurd hcomponent (Nat.ne_of_lt (Nat.lt_succ_self _))

theorem feeders_eq (h : context.Follows config sink blueprint) {c : Component W α}
    (hc : context.graph.component? context.filter = some c) :
    context.graph.feeders c = blueprint.outlets := by
  unfold Graph.feeders
  apply filterMap_eq_of_getElem?
  intro k
  have hholds := h.holds?_input k
  unfold Graph.holds? at hholds
  rw [Graph.port?_of_component hc] at hholds
  have hhold : c.inputs.ports[k]?.bind Port.connection = blueprint.outlets[k]?.map fun _ => ⟨k⟩ :=
    hholds
  rw [← Option.bind_assoc, hhold]
  cases hk : blueprint.outlets[k]? with
  | none => rfl
  | some outlet =>
    have hwire := h.wire_of_lt hk
    simp [Graph.origin?, hwire]

theorem iteratorWithin_outlet (h : context.Follows config sink blueprint)
    {outlet : Fitted W × PortRef} (houtlet : outlet ∈ Fitted.outlets blueprint.sources)
    (depth : Nat) (session : Session W α) :
    context.graph.iteratorWithin (depth + 1) outlet.2 session =
      Pipeline.createFor outlet session := by
  obtain ⟨i, hi, port, -, hport⟩ := Fitted.mem_outlets.mp houtlet
  obtain ⟨c, hc, hname, -, -, hrole, -⟩ := h.source_component hi
  unfold Graph.iteratorWithin Graph.walk
  rw [show outlet.2.component = ⟨i⟩ by rw [hport]; rfl, hc]
  simp only [hrole, hname]
  rfl

theorem iterator_eq (h : context.Follows config sink blueprint) (session : Session W α) :
    context.graph.iterator (context.filter.output 0) session =
      (blueprint.pipeline config sink).openUp session := by
  obtain ⟨c, hc, hname, -, -, hrole, -⟩ := h.filter_component
  -- There are at least two components, so the walk from the filter to the sources is short enough.
  have hcount : context.graph.componentCount = blueprint.sources.length + 1 + 1 := by
    rw [h.laid.count]
    simp [Blueprint.components]
  have hmake (before : Session W α) :
      makeEach (context.graph.iteratorWithin (blueprint.sources.length + 1)) blueprint.outlets
        before = makeEach Pipeline.createFor (Fitted.outlets blueprint.sources) before := by
    unfold Blueprint.outlets
    rw [makeEach_map]
    exact Graph.makeEach_congr (fun _ houtlet => h.iteratorWithin_outlet houtlet _) before
  unfold Graph.iterator
  rw [hcount]
  unfold Graph.iteratorWithin Graph.walk
  rw [show (context.filter.output 0).component = context.filter from rfl, hc]
  simp only [hrole, h.feeders_eq hc, hmake]
  unfold Pipeline.openUp
  rw [show (blueprint.pipeline config sink).sources = blueprint.sources from rfl]
  rcases makeEach Pipeline.createFor (Fitted.outlets blueprint.sources) session with
    ⟨e | upstream, between⟩
  · rfl
  · simp only [hname, h.filter]
    rfl

end Context.Follows

/-! ## The same pulls -/

/-- A context has come as far as a pipeline, after sessions that agree. -/
inductive Context.Runs (pipeline : Pipeline W α) (context : Context W α) :
    Session W α → Stage W → Session W α → Prop where
  | fresh {session : Session W α} :
    context.Wired pipeline.sink pipeline.sinkName → context.sink = pipeline.sinkId →
    (∀ before, context.graph.iterator (context.filter.output 0) before =
      pipeline.openUp before) →
    Runs pipeline context session .fresh session
  | reading {session other : Session W α} {upstream : Iterator W} :
    context.graph.state = .running →
    context.graph.Solo pipeline.sinkId pipeline.sinkName pipeline.sink (.reading upstream) →
    session.Agrees other → Runs pipeline context session (.reading upstream) other
  | ended {session other : Session W α} :
    context.graph.state = .ended → session.Agrees other →
    Runs pipeline context session .ended other
  | faulted {session other : Session W α} :
    context.graph.state = .faulted → session.Agrees other →
    Runs pipeline context session .faulted other

namespace Context

variable {pipeline : Pipeline W α} {context : Context W α} {session other : Session W α}
  {stage : Stage W}

theorem Runs.agrees (h : context.Runs pipeline session stage other) : session.Agrees other := by
  cases h with
  | fresh => exact .refl _
  | reading _ _ hagrees | ended _ hagrees | faulted _ hagrees => exact hagrees

theorem Runs.stir (h : context.Runs pipeline session stage other) (change : W × α → W × α) :
    context.Runs pipeline (session.stir change) stage (other.stir change) := by
  cases h with
  | fresh hwired hsink hiterator => exact .fresh hwired hsink hiterator
  | reading hstate hsolo hagrees => exact .reading hstate hsolo (hagrees.stir change)
  | ended hstate hagrees => exact .ended hstate (hagrees.stir change)
  | faulted hstate hagrees => exact .faulted hstate (hagrees.stir change)

def SamePull (pipeline : Pipeline W α) (pulled : Pulled × Context W α × Session W α)
    (other : Pulled × Stage W × Session W α) : Prop :=
  pulled.1 = other.1 ∧ pulled.2.1.Runs pipeline pulled.2.2 other.2.1 other.2.2

/-- A context whose sink reads lets it consume as often as the pipeline does. -/
theorem samePull_consume {upstream : Iterator W} (hstate : context.graph.state = .running)
    (hsolo : context.graph.Solo pipeline.sinkId pipeline.sinkName pipeline.sink
      (.reading upstream))
    (hagrees : session.Agrees other) (patience : Nat) :
    SamePull pipeline (context.pull patience session)
      (pipeline.consume patience upstream other) := by
  induction patience generalizing context session other with
  | zero => exact ⟨rfl, .reading hstate hsolo hagrees⟩
  | succ patience ih =>
    obtain ⟨hanswer, hasked⟩ := hagrees.ask (pipeline.sink.consume upstream)
      (.consume pipeline.sinkId upstream)
    rcases hask : Graph.askSink pipeline.sinkId pipeline.sink upstream session with
      ⟨answer, asked⟩
    rcases hask' : Graph.askSink pipeline.sinkId pipeline.sink upstream other with
      ⟨answer', asked'⟩
    unfold Graph.askSink at hask hask'
    rw [hask, hask'] at hanswer hasked
    obtain rfl : answer = answer' := hanswer
    obtain ⟨later, closed, hrun, hclosed, hafter, hrunning⟩ := hsolo.run hstate hask
    have hlast := hclosed.trans hasked
    unfold Context.pull Pipeline.consume
    rw [hrun]
    unfold Graph.askSink
    rw [hask']
    rcases answer with fault | _ | _ | _
    · exact ⟨rfl, .faulted hafter hlast⟩
    · exact ⟨rfl, .reading hafter (hrunning hafter) hlast⟩
    · exact ih hafter (hrunning hafter) hlast
    · exact ⟨rfl, .ended hafter hlast⟩

theorem samePull_of_error {e : GraphError} {later : Graph W α} {closed : Session W α}
    (hrun : context.graph.run session = ⟨.error e, later, closed⟩)
    (hstate : later.state = .faulted) (hagrees : closed.Agrees other) (patience : Nat) :
    SamePull pipeline (context.pull (patience + 1) session)
      (.failed (.execution e), .faulted, other) := by
  unfold Context.pull
  rw [hrun]
  exact ⟨rfl, .faulted hstate hagrees⟩

theorem samePull_of_fresh (hwired : context.Wired pipeline.sink pipeline.sinkName)
    (hsink : context.sink = pipeline.sinkId)
    (hiterator : ∀ before, context.graph.iterator (context.filter.output 0) before =
      pipeline.openUp before) (session : Session W α) (patience : Nat) :
    SamePull pipeline (context.pull (patience + 1) session)
      (pipeline.pull (patience + 1) .fresh session) := by
  rw [Pipeline.pull]
  unfold Pipeline.start
  have hmade := hiterator session
  rcases hopen : pipeline.openUp session with ⟨e | upstream, between⟩
  · rw [hopen] at hmade
    obtain ⟨later, closed, hrun, hclosed, hstate⟩ :=
      Graph.run_of_configure_error hwired.state (hwired.configure_of_error hmade)
    exact samePull_of_error hrun hstate hclosed patience
  · rw [hopen] at hmade
    rcases hask : between.ask pipeline.sink.setUp (.setUp pipeline.sinkId) with ⟨answer, asked⟩
    obtain ⟨ready, closed, hconfigure, hclosed, hready⟩ :=
      hwired.configure_of_ok hmade (hsink ▸ hask)
    dsimp only
    rw [hask]
    rcases answer with fault | ⟨⟩
    · obtain ⟨later, closed', hrun, hclosed', hstate⟩ :=
        Graph.run_of_configure_error hwired.state hconfigure
      exact samePull_of_error hrun hstate (hclosed'.trans hclosed) patience
    · obtain ⟨hrunning, hsolo⟩ := hready rfl
      have hrun := Graph.run_of_configure_ok hwired.state hconfigure hrunning
      let started : Context W α := { context with graph := ready }
      have hpull : context.pull (patience + 1) session =
          started.pull (patience + 1) closed := by
        rw [Context.pull, Context.pull, hrun]
      have hstarted : started.graph.Solo pipeline.sinkId pipeline.sinkName pipeline.sink
          (.reading upstream) := hsink ▸ hsolo
      rw [hpull]
      exact samePull_consume hrunning hstarted hclosed (patience + 1)

theorem Runs.pull (h : context.Runs pipeline session stage other) (patience : Nat) :
    SamePull pipeline (context.pull patience session) (pipeline.pull patience stage other) := by
  cases patience with
  | zero =>
    unfold Context.pull Pipeline.pull
    exact ⟨rfl, h⟩
  | succ patience =>
    cases h with
    | fresh hwired hsink hiterator => exact samePull_of_fresh hwired hsink hiterator _ _
    | reading hstate hsolo hagrees => exact samePull_consume hstate hsolo hagrees _
    | ended hstate hagrees =>
      unfold Context.pull Graph.run
      rw [hstate]
      exact ⟨rfl, .ended hstate hagrees⟩
    | faulted hstate hagrees =>
      unfold Context.pull Graph.run
      rw [hstate]
      exact ⟨rfl, .faulted hstate hagrees⟩

theorem Runs.pulls (h : context.Runs pipeline session stage other)
    (all : List (Nat × (W × α → W × α))) :
    (pulls Context.pull all context session).1 = (pulls pipeline.pull all stage other).1 ∧
      (pulls Context.pull all context session).2.1.Runs pipeline
        (pulls Context.pull all context session).2.2
        (pulls pipeline.pull all stage other).2.1 (pulls pipeline.pull all stage other).2.2 := by
  induction all generalizing context session stage other with
  | nil => exact ⟨rfl, h⟩
  | cons first rest ih =>
    obtain ⟨patience, change⟩ := first
    obtain ⟨hanswer, hruns⟩ := (h.stir change).pull patience
    obtain ⟨hanswers, hrest⟩ := ih hruns
    exact ⟨List.cons_eq_cons.mpr ⟨hanswer, hanswers⟩, hrest⟩

end Context

namespace Builder

/--
A context that could be built answers every sequence of pulls as the pipeline of its blueprint does:
with the same answers, the same calls in the same order, and the same scene afterwards. Only what is
logged is the context's own. Between two pulls the world and what is shared may change in any way.
-/
theorem pulls_eq_pipeline {builder : Builder W} {sink : Sink W α} {session opened : Session W α}
    {context : Context W α} (h : builder.build sink session = (.ok context, opened)) :
    ∃ blueprint : Blueprint W, blueprint.MadeBy builder session.world ∧
      context.Follows builder.config sink blueprint ∧ ∀ all : List (Nat × (W × α → W × α)),
        let pulled := pulls Context.pull all context opened
        let piped := pulls (blueprint.pipeline builder.config sink).pull all .fresh opened
        pulled.1 = piped.1 ∧ pulled.2.2.toScene = piped.2.2.toScene ∧
          pulled.2.2.journal.hooks = piped.2.2.journal.hooks := by
  obtain ⟨blueprint, hmade, hfollows, -⟩ := follows_of_build h
  refine ⟨blueprint, hmade, hfollows, fun all => ?_⟩
  have hfresh : context.Runs (blueprint.pipeline builder.config sink) opened .fresh opened :=
    .fresh (wired_of_build h) hfollows.sink hfollows.iterator_eq
  obtain ⟨hanswers, hruns⟩ := hfresh.pulls all
  exact ⟨hanswers, hruns.agrees.scene, hruns.agrees.hooks⟩

theorem pulls_twoForks :
    ∃ context opened, twoForks.build Graph.cup ⟨.plain 0, .empty⟩ = (.ok context, opened) ∧
      ∃ blueprint : Blueprint Nat, blueprint.MadeBy twoForks 0 ∧
        context.Follows twoForks.config Graph.cup blueprint ∧
        ∀ all : List (Nat × (Nat × Unit → Nat × Unit)),
          let pulled := pulls Context.pull all context opened
          let piped := pulls (blueprint.pipeline twoForks.config Graph.cup).pull all .fresh opened
          pulled.1 = piped.1 ∧ pulled.2.2.toScene = piped.2.2.toScene ∧
            pulled.2.2.journal.hooks = piped.2.2.journal.hooks := by
  obtain ⟨context, opened, h⟩ := twoForks_built
  exact ⟨context, opened, h, pulls_eq_pipeline h⟩

end Builder

end TraceFlow
