import TraceFlow.Proofs.Stages
import TraceFlow.Proofs.Wiring

/-!
# A build that fails does no more

A build fails just where its stages say, with the error and after the calls that they tell.
-/

namespace TraceFlow

variable {W α : Type}

namespace Builder

/-! ## Sources -/

section

variable {g : Graph W α} {components : List (Component W α)} {wires : List (PortRef × PortRef)}
  {session : Session W α} {config : Config}

theorem on_query_ports {c : Component W α} {ports : Nat}
    (hports : c.outputs = .ofCount .output ports) (wrap : GraphError → TraceError) :
    (Assembly.query wrap (·.portCount g.nextId .output)).on (g.accept c) session =
      (.ok ports, g.accept c, session) := by
  have hcount : (g.accept c).portCount g.nextId .output = .ok ports := by
    rw [show (g.accept c).portCount g.nextId .output = .ok (c.table .output).size from
      Graph.portCount_place_self g c .output]
    rw [show c.table .output = c.outputs from rfl, hports, PortTable.size_ofCount]
  unfold Assembly.query
  rw [Assembly.on_perform]
  dsimp only
  rw [hcount]

def sourceRequest (config : Config) (cls : SourceClass W) (index : Nat) (locator : String) :
    Addition W α :=
  .source cls (config.sourceInstanceName index) (sourceParams config locator) config.logLevel

theorem on_addSource (config : Config) (cls : SourceClass W) (index : Nat) (locator : String)
    (g : Graph W α) (session : Session W α) :
    (addSource config cls index locator).on g session =
      match (sourceRequest config cls index locator).on g session with
      | ⟨.error e, g, session⟩ =>
        (.error (.ofCreation (config.sourceInstanceName index) e), g, session)
      | ⟨.ok id, g, session⟩ =>
        Assembly.on (do
          let name := config.sourceInstanceName index
          let ports ← Assembly.query (.ofCreation name) (·.portCount id .output)
          if ports = 0 then throw (.noOutputPorts name)
          Assembly.log (.sourceReads name locator ports)
          return { id, name, ports }) g session := by
  unfold addSource
  rw [Assembly.on_bind, Assembly.on_perform]
  unfold sourceRequest Addition.on
  dsimp only
  rcases g.addSource cls _ _ _ session with ⟨_ | _, _, _⟩ <;> rfl

theorem on_sourceRequest (hg : g.Laid components wires) {cls : SourceClass W} {index : Nat}
    (hindex : components.length = index)
    (hfree : ∀ c ∈ components, c.name ≠ config.sourceInstanceName index) {locator : String}
    {source : Source W} {after : W}
    (hon : (cls.instantiate (sourceParams config locator) config.logLevel).on session.world =
      (.ok source, after))
    (hroom : session.memory.reserveAll
      (Reservation.forComponent ⟨index⟩ 0 (source.outputCount after)) = .ok ()) :
    ∃ last, (sourceRequest config cls index locator).on g session =
        ⟨.ok ⟨index⟩, g.accept (.ofSource cls (config.sourceInstanceName index) config.logLevel
          source (source.outputCount after)), last⟩ ∧
      last.toScene = session.toScene.later after ∧
      last.journal.hooks = session.journal.hooks ++ [sourceCall config cls locator] := by
  subst hindex
  exact hg.on_of_room (sourceRequest ..) hfree (Addition.on_made_source hon) hroom

theorem on_addSource_of_fails (hg : g.Laid components wires) {cls : SourceClass W} {index : Nat}
    (hindex : components.length = index)
    (hfree : ∀ c ∈ components, c.name ≠ config.sourceInstanceName index) {locator : String}
    {e : TraceError} (h : SourceFails config cls session.memory index locator session.world e) :
    ∃ later last, (addSource config cls index locator).on g session = (.error e, later, last) ∧
      last.journal.hooks = session.journal.hooks ++ [sourceCall config cls locator] := by
  rw [on_addSource]
  cases h with
  | instantiation hon =>
    obtain ⟨last, hadd, hhooks⟩ := hg.on_of_fault (sourceRequest config cls index locator)
      hfree rfl (Addition.on_made_source hon)
    rw [hadd]
    exact ⟨_, last, rfl, hhooks⟩
  | allocation hon hroom =>
    subst hindex
    obtain ⟨last, hadd, hhooks⟩ := hg.on_of_refused
      (sourceRequest config cls components.length locator) hfree (Addition.on_made_source hon) hroom
    rw [hadd]
    exact ⟨_, last, rfl, hhooks⟩
  | noOutputPorts hon hroom hports =>
    obtain ⟨last, hadd, -, hhooks⟩ := on_sourceRequest hg hindex hfree hon hroom
    rw [hadd]
    dsimp only
    rw [← hindex, ← hg.nextId_eq, hports, Assembly.on_bind, on_query_ports rfl]
    exact ⟨_, _, rfl, hhooks⟩

theorem on_addSource_of_reads (hg : g.Laid components wires) {cls : SourceClass W} {index : Nat}
    (hindex : components.length = index)
    (hfree : ∀ c ∈ components, c.name ≠ config.sourceInstanceName index) {locator : String}
    {fitted : Fitted W} (hreads : fitted.Reads config cls index locator session.world)
    (hroom : session.memory.reserveAll (Reservation.forComponent ⟨index⟩ 0 fitted.ports) =
      .ok ()) :
    ∃ later last, (addSource config cls index locator).on g session =
        (.ok ⟨⟨index⟩, fitted.name, fitted.ports⟩, later, last) ∧
      later.Laid (components ++ [fitted.component cls config.logLevel]) wires ∧
      last.toScene = session.toScene.later fitted.world ∧
      last.journal.hooks = session.journal.hooks ++ [sourceCall config cls locator] := by
  rw [hreads.ports_eq] at hroom
  obtain ⟨last, hadd, hscene, hhooks⟩ :=
    on_sourceRequest hg hindex hfree hreads.instantiated hroom
  have hlaid := hg.accept (.addSource cls _ _ _) (congrArg Reply.graph hadd)
  rw [on_addSource, hadd]
  dsimp only
  rw [← hreads.ports_eq, ← hreads.name] at hlaid ⊢
  rw [← hindex, ← hg.nextId_eq, Assembly.on_bind, on_query_ports rfl]
  dsimp only
  rw [if_neg (Nat.ne_of_gt hreads.ports_pos)]
  exact ⟨_, _, rfl, hlaid, hscene, (Session.hooks_log ..).trans hhooks⟩

theorem Yields.length_eq {cls : SourceClass W} {memory : Memory} {first : Nat} {texts : List String}
    {before after : W} {sources : List (Fitted W)}
    (h : Yields config cls memory first texts before sources after) :
    sources.length = texts.length := by
  induction h with
  | nil => rfl
  | cons _ _ _ ih => rw [List.length_cons, List.length_cons, ih]

theorem Yields.name_eq {cls : SourceClass W} {memory : Memory} {first : Nat} {texts : List String}
    {before after : W} {sources : List (Fitted W)}
    (h : Yields config cls memory first texts before sources after) {i : Nat} {fitted : Fitted W}
    (hi : sources[i]? = some fitted) : fitted.name = config.sourceInstanceName (first + i) := by
  induction h generalizing i with
  | nil => cases hi
  | cons hreads _ _ ih =>
    cases i with
    | zero =>
      cases hi
      exact hreads.name
    | succ i =>
      rw [Nat.add_comm i 1, ← Nat.add_assoc]
      exact ih hi

theorem Yields.numbered {cls : SourceClass W} {memory : Memory} {texts : List String}
    {before after : W} {sources : List (Fitted W)}
    (h : Yields config cls memory 0 texts before sources after) :
    Numbered (α := α) config (sources.map (·.component cls config.logLevel)) := by
  intro i c hi
  rw [List.getElem?_map] at hi
  obtain ⟨fitted, hfitted, rfl⟩ := Option.map_eq_some_iff.mp hi
  exact (h.name_eq hfitted).trans (by rw [Nat.zero_add])

theorem Yields.exists_name_iff {cls : SourceClass W} {memory : Memory} {texts : List String}
    {before after : W} {sources : List (Fitted W)}
    (h : Yields config cls memory 0 texts before sources after) (name : String) :
    (∃ c ∈ sources.map (·.component (α := α) cls config.logLevel), c.name = name) ↔
      Taken config name texts.length := by
  rw [← h.length_eq]
  have hnumbered := h.numbered (α := α)
  constructor
  · rintro ⟨c, hc, rfl⟩
    obtain ⟨i, hlt, hi⟩ := hnumbered.exists_of_mem hc
    rw [List.length_map] at hlt
    exact ⟨i, hlt, hi.symm⟩
  · rintro ⟨i, hlt, rfl⟩
    rw [← List.length_map (f := (·.component (α := α) cls config.logLevel))] at hlt
    exact ⟨_, List.getElem_mem hlt, hnumbered i _ (List.getElem?_eq_getElem hlt)⟩

theorem on_addSources_append {cls : SourceClass W} {memory : Memory} {first : Nat}
    {texts : List String} {before after : W} {sources : List (Fitted W)}
    (h : Yields config cls memory first texts before sources after) (rest : List String)
    (hg : g.Laid components wires) (hnumbered : Numbered config components)
    (hfirst : components.length = first) (hmemory : session.memory = memory)
    (hworld : session.world = before) :
    ∃ later last, (addSources config cls first (texts ++ rest)).on g session =
        (match (addSources config cls (first + texts.length) rest).on later last with
        | (.ok others, g, session) =>
          (.ok ((sources.mapIdx fun i fitted => ⟨⟨first + i⟩, fitted.name, fitted.ports⟩) ++
            others), g, session)
        | (.error e, g, session) => (.error e, g, session)) ∧
      later.Laid (components ++ sources.map (·.component cls config.logLevel)) wires ∧
      last.toScene = session.toScene.later after ∧
      last.journal.hooks = session.journal.hooks ++ texts.map (sourceCall config cls) := by
  -- What is carried is how many components there are: the next source gets the next number.
  induction h generalizing g components session with
  | nil =>
    subst hworld
    refine ⟨g, session, ?_, by simpa using hg, rfl, by simp⟩
    rw [List.nil_append, List.length_nil, Nat.add_zero]
    rcases (addSources config cls _ rest).on g session with ⟨_ | _, _, _⟩ <;> rfl
  | @cons first locator others before after fitted sources hreads hroom _ ih =>
    subst hworld
    subst hmemory
    obtain ⟨between, asked, hadd, hlaid, hasked, hhooks⟩ :=
      on_addSource_of_reads hg hfirst (hfirst ▸ hnumbered.free) hreads hroom
    have hnext : Numbered config (components ++ [fitted.component cls config.logLevel]) :=
      hnumbered.concat (hreads.name.trans (by rw [hfirst]))
    obtain ⟨later, last, hothers, hlater, hlast, hhooks'⟩ :=
      ih hlaid hnext (by simp [hfirst]) ((congrArg Scene.memory hasked).trans rfl)
        (congrArg Scene.world hasked)
    refine ⟨later, last, ?_, ?_, hlast.trans (congrArg (·.later after) hasked), ?_⟩
    · rw [List.cons_append, addSources, Assembly.on_bind, hadd]
      dsimp only
      rw [Assembly.on_bind, hothers, List.length_cons, Nat.add_assoc, Nat.add_comm 1]
      rcases (addSources config cls (first + (others.length + 1)) rest).on later last with
        ⟨_ | _, _, _⟩
      · rfl
      · simp only [List.mapIdx_cons, Nat.add_zero, Nat.add_assoc, Nat.add_comm 1]
        rfl
    · rw [List.map_cons, List.append_cons]
      exact hlater
    · rw [hhooks', hhooks, List.map_cons, List.append_assoc]
      rfl

/-! ## The filter -/

def filterRequest (config : Config) (cls : FilterClass W) : Addition W α :=
  .filter cls config.filterName ∅ config.logLevel

theorem on_install_of_taken (hg : g.Laid components wires) (cls : FilterClass W)
    (h : ∃ c ∈ components, c.name = config.filterName) :
    (install config cls).on g session =
      (.error (.componentCreation config.filterName (.duplicateName config.filterName)), g,
        session) := by
  have hadd : g.addFilter cls config.filterName ∅ config.logLevel session =
      ⟨.error (.duplicateName config.filterName), g, session⟩ :=
    hg.on_of_taken (filterRequest config cls) h
  unfold install
  rw [Assembly.on_perform, hadd]
  rfl

theorem on_install_of_fails (hg : g.Laid components wires) {cls : FilterClass W} {place : Nat}
    (hplace : components.length = place)
    (hfree : ∀ c ∈ components, c.name ≠ config.filterName) {e : TraceError}
    (h : FilterFails config cls session.memory place session.world e) :
    ∃ last, (install config cls).on g session = (.error e, g, last) ∧
      last.journal.hooks = session.journal.hooks ++ [.instantiate cls.name ∅ config.logLevel] := by
  subst hplace
  have hadd : ∃ cause last, (filterRequest config cls).on g session = ⟨.error cause, g, last⟩ ∧
      e = .ofCreation config.filterName cause ∧ last.journal.hooks =
        session.journal.hooks ++ [.instantiate cls.name ∅ config.logLevel] := by
    cases h with
    | instantiation hon =>
      obtain ⟨last, hadd, hhooks⟩ := hg.on_of_fault (filterRequest config cls) hfree rfl
        (Addition.on_made_filter hon)
      exact ⟨_, last, hadd, rfl, hhooks⟩
    | allocation hon hroom =>
      obtain ⟨last, hadd, hhooks⟩ := hg.on_of_refused (filterRequest config cls) hfree
        (Addition.on_made_filter hon) hroom
      exact ⟨_, last, hadd, rfl, hhooks⟩
  obtain ⟨cause, last, hadd, rfl, hhooks⟩ := hadd
  unfold install
  rw [Assembly.on_perform, show g.addFilter cls config.filterName ∅ config.logLevel session = _
    from hadd]
  exact ⟨last, rfl, hhooks⟩

/-- The filter stands in a graph that is still put together, and has grown to `size` input ports. -/
structure Stands (g : Graph W α) (components : List (Component W α))
    (wires : List (PortRef × PortRef)) (id : ComponentId) (name : String) (filter : Filter W)
    (size : Nat) : Prop where
  laid : g.Laid components wires
  component : ∃ cls level inputs outputs,
    components[id.index]? = some (.ofFilter cls name level filter inputs outputs)
  size : g.portCount id .input = .ok size

theorem on_install_of_yields (hg : g.Laid components wires) {cls : FilterClass W} {place : Nat}
    (hplace : components.length = place)
    (hfree : ∀ c ∈ components, c.name ≠ config.filterName) {filter : Filter W}
    {inputs outputs : Nat} {after : W}
    (h : YieldsFilter config cls session.memory place session.world filter inputs outputs after) :
    ∃ later last, (install config cls).on g session = (.ok ⟨place⟩, later, last) ∧
      Stands later
        (components ++ [.ofFilter cls config.filterName config.logLevel filter inputs outputs])
        wires ⟨place⟩ config.filterName filter inputs ∧
      last.toScene = session.toScene.later after ∧
      last.journal.hooks = session.journal.hooks ++ [.instantiate cls.name ∅ config.logLevel] := by
  subst hplace
  obtain ⟨hon, rfl, rfl, hroom⟩ := h
  obtain ⟨last, hadd, hscene, hhooks⟩ := hg.on_of_room (filterRequest config cls) hfree
    (Addition.on_made_filter hon) hroom
  unfold install
  rw [Assembly.on_perform, show g.addFilter cls config.filterName ∅ config.logLevel session = _
    from hadd]
  refine ⟨_, last, rfl, ⟨?_, ?_, ?_⟩, hscene, hhooks⟩
  · exact hg.accept (.addFilter cls _ _ _) (congrArg Reply.graph hadd)
  · exact ⟨_, _, _, _, List.getElem?_concat_length ..⟩
  · rw [← hg.nextId_eq]
    exact (Graph.portCount_place_self g _ .input).trans
      (congrArg Except.ok (PortTable.size_ofCount ..))

/-! ## Joining sources to the filter -/

namespace Stands

variable {id : ComponentId} {name : String} {filter : Filter W} {size : Nat}

theorem exists_component (h : Stands g components wires id name filter size) :
    ∃ c, g.component? id = some c ∧ c.name = name ∧ c.role = .filter filter ∧
      c.inputs.size = size ∧ c.inputs.direction = .input := by
  obtain ⟨cls, level, inputs, outputs, hc⟩ := h.component
  obtain ⟨c, hc', hgrows, hrole⟩ := h.laid.component _ _ hc
  refine ⟨c, hc', hgrows.name, hrole, ?_, hgrows.direction .input⟩
  have hsize := h.size
  unfold Graph.portCount Graph.table? at hsize
  rw [hc'] at hsize
  exact Except.ok.inj hsize

theorem isSome_port? (h : Stands g components wires id name filter size) {input : Nat}
    (hinput : input < size) : (g.port? (id.input input)).isSome := by
  obtain ⟨c, hc, -, -, rfl, -⟩ := h.exists_component
  rw [Graph.port?_of_component hc, PortTable.port?_isSome_iff]
  exact hinput

theorem kind? (h : Stands g components wires id name filter size) :
    g.kind? id = some .filter := by
  obtain ⟨c, hc, -, hrole, -⟩ := h.exists_component
  unfold Graph.kind? Component.kind
  rw [hc, Option.map_some, hrole]
  rfl

end Stands

section

variable {id : ComponentId} {filter : Filter W} {size input : Nat} {output : String × PortRef}
  {rest : List (String × PortRef)}

theorem on_wire (output : String × PortRef) (rest : List (String × PortRef)) (id : ComponentId)
    (input : Nat) (g : Graph W α) (session : Session W α) :
    (wire config id input (output :: rest)).on g session =
      match g.connect output.2 (id.input input) session with
      | ⟨.ok _, g, session⟩ => (wire config id (input + 1) rest).on g session
      | ⟨.error e, g, session⟩ =>
        (.error (.ofConnection output.1 config.filterName e), g, session) := by
  obtain ⟨name, output⟩ := output
  rw [wire, Assembly.on_bind, Assembly.on_perform]
  rcases g.connect output (id.input input) session with ⟨_ | _, _, _⟩ <;> rfl

theorem on_wire_of_missing (h : Stands g components wires id config.filterName filter size)
    (hjoined : Unjoined components wires id input ((output :: rest).map Prod.snd))
    (hmissing : size ≤ input) :
    (wire config id input (output :: rest)).on g session =
      (.error (.portConnection output.1 config.filterName
        (.portOutOfRange config.filterName .input input size)), g, session) := by
  obtain ⟨c, hc, hname, -, hsize, -⟩ := h.exists_component
  have hport : g.checkPort (id.input input) .input =
      .error (.portOutOfRange config.filterName .input input size) := by
    rw [← hname, ← hsize]
    exact Graph.checkPort_of_missing (id.input input) hc (hsize.le.trans hmissing)
  have hcheck := Graph.checkConnection_of_downstream h.laid.state (hjoined.checkPort h.laid) hport
  rw [on_wire, Graph.connect_of_refused hcheck]
  rfl

theorem on_wire_of_no_row (h : Stands g components wires id config.filterName filter size)
    (hcount : wires.length = input)
    (hjoined : Unjoined components wires id input ((output :: rest).map Prod.snd))
    (hinput : input < size) {reason : String}
    (hrow : session.memory.reserve (.next .connections input) = .error reason) :
    (wire config id input (output :: rest)).on g session =
      (.error (.allocationFailure reason), g, session) := by
  have hjoinable := hjoined.joinable h.laid (h.isSome_port? hinput)
  rw [← hcount, ← h.laid.roomForConnection_eq] at hrow
  rw [on_wire, Graph.connect_of_no_row hjoinable hrow]
  rfl

theorem Stands.wish_eq (h : Stands g components wires id name filter size) {c : Component W α}
    (hc : g.component? id = some c) (session : Session W α) :
    Graph.wish c filter (id.input input) session = growth id filter size input session.world := by
  obtain ⟨c', hc', -, -, hsize, hdirection⟩ := h.exists_component
  cases hc'.symm.trans hc
  unfold Graph.wish PortTable.request
  rw [hsize, hdirection]
  rfl

theorem on_wire_of_full (h : Stands g components wires id config.filterName filter size)
    (hcount : wires.length = input)
    (hjoined : Unjoined components wires id input ((output :: rest).map Prod.snd))
    (hinput : input < size) (hrow : session.memory.reserve (.next .connections input) = .ok ())
    {reason : String}
    (hfull : session.memory.reserve (growth id filter size input session.world) = .error reason) :
    ∃ later last, (wire config id input (output :: rest)).on g session =
        (.error (.allocationFailure reason), later, last) ∧
      last.journal.hooks = session.journal.hooks ++ [.inputConnected id input] := by
  obtain ⟨c, hc, -, hrole, -⟩ := h.exists_component
  have hjoinable := hjoined.joinable h.laid (h.isSome_port? hinput)
  rw [← hcount, ← h.laid.roomForConnection_eq] at hrow
  rw [← h.wish_eq hc session] at hfull
  rw [on_wire, show g.connect output.2 (id.input input) session = _ from
    Graph.connect_of_unfit hjoinable hrow hc hrole hfull]
  exact ⟨_, _, rfl, Session.hooks_tell ..⟩

theorem on_wire_cons (h : Stands g components wires id config.filterName filter size)
    (hcount : wires.length = input)
    (hjoined : Unjoined components wires id input ((output :: rest).map Prod.snd))
    (hinput : input < size) (hrow : session.memory.reserve (.next .connections input) = .ok ())
    (hroom : session.memory.reserve (growth id filter size input session.world) = .ok ()) :
    ∃ later last, (wire config id input (output :: rest)).on g session =
        (wire config id (input + 1) rest).on later last ∧
      Stands later components (wires ++ [(output.2, id.input input)]) id config.filterName filter
        (max size (asksFor filter input session.world)) ∧
      last.toScene = session.toScene.later (filter.inputConnected input session.world) ∧
      last.journal.hooks = session.journal.hooks ++ [.inputConnected id input] := by
  obtain ⟨c, hc, -, hrole, -⟩ := h.exists_component
  have hjoinable := hjoined.joinable h.laid (h.isSome_port? hinput)
  rw [← hcount, ← h.laid.roomForConnection_eq] at hrow
  rw [← h.wish_eq hc session] at hroom
  obtain ⟨last, hconnect, hscene⟩ := Graph.connect_of_fits hjoinable hrow hc hrole hroom
  have hhooks := hjoinable.hooks_connect hrow
  rw [show g.kind? (id.input input).component = some .filter from h.kind?, if_pos rfl] at hhooks
  rw [show (g.connect _ _ session).session = last from congrArg Reply.session hconnect] at hhooks
  rw [on_wire, show g.connect output.2 (id.input input) session = _ from hconnect]
  refine ⟨_, last, rfl, ⟨h.laid.connect hconnect, h.component, ?_⟩, hscene, hhooks⟩
  refine Graph.portCount_growInputs_self ?_ _
  rw [Graph.portCount_link]
  exact h.size

theorem on_wire_append {memory : Memory} {before after : W} {count size' : Nat}
    (htakes : Takes memory id filter input size before count size' after)
    {first : List (String × PortRef)} (hfirst : first.length = count)
    (h : Stands g components wires id config.filterName filter size)
    (hcount : wires.length = input)
    (hjoined : Unjoined components wires id input ((first ++ rest).map Prod.snd))
    (hmemory : session.memory = memory) (hworld : session.world = before) :
    ∃ later last, (wire config id input (first ++ rest)).on g session =
        (wire config id (input + count) rest).on later last ∧
      Stands later components
        (wires ++ (first.map Prod.snd).mapIdx fun k port => (port, id.input (input + k))) id
        config.filterName filter size' ∧
      Unjoined components
        (wires ++ (first.map Prod.snd).mapIdx fun k port => (port, id.input (input + k))) id
        (input + count) (rest.map Prod.snd) ∧
      last.toScene = session.toScene.later after ∧
      last.journal.hooks =
        session.journal.hooks ++ (List.range' input count).map (.inputConnected id) := by
  -- The filter has as many input ports joined as it was told of, and the next one is still free.
  induction htakes generalizing g wires session first with
  | nil =>
    subst hworld
    obtain rfl := List.length_eq_zero_iff.mp hfirst
    exact ⟨g, session, rfl, by simpa using h, by simpa using hjoined, rfl, by simp⟩
  | @cons input size count size' before after hport hrow hroom _ ih =>
    subst hworld
    subst hmemory
    obtain ⟨output, others, rfl⟩ := List.exists_cons_of_length_eq_add_one hfirst
    obtain ⟨between, opened, hwire, hgrown, hopened, hhooks⟩ :=
      on_wire_cons h hcount hjoined hport hrow hroom
    obtain ⟨later, last, hothers, hlater, hleft, hlast, hhooks'⟩ :=
      ih (by simpa using hfirst) hgrown (by simp [hcount]) hjoined.step
        ((congrArg Scene.memory hopened).trans rfl) (congrArg Scene.world hopened)
    have hwires : (wires ++ [(output.2, id.input input)]) ++
        ((others.map Prod.snd).mapIdx fun k port => (port, id.input (input + 1 + k))) =
        wires ++ ((output :: others).map Prod.snd).mapIdx fun k port =>
          (port, id.input (input + k)) := by
      rw [List.append_assoc, List.map_cons, List.mapIdx_cons]
      simp only [Nat.add_zero, Nat.add_assoc, Nat.add_comm 1]
      rfl
    have hinput : input + 1 + count = input + (count + 1) := by omega
    rw [hwires] at hlater hleft
    rw [hinput] at hothers hleft
    refine ⟨later, last, hwire.trans hothers, hlater, hleft,
      hlast.trans (congrArg (·.later after) hopened), ?_⟩
    rw [hhooks', hhooks, List.range'_succ, List.map_cons, List.append_assoc]
    rfl

end

/-! ## The sink -/

theorem on_installSink (config : Config) (sink : Sink W α) (g : Graph W α)
    (session : Session W α) :
    (installSink config sink).on g session =
      match (Addition.sink sink config.sinkName).on g session with
      | ⟨.ok id, g, session⟩ => (.ok id, g, session)
      | ⟨.error e, g, session⟩ => (.error (.ofCreation config.sinkName e), g, session) := by
  unfold installSink Addition.on
  rw [Assembly.on_perform]
  dsimp only
  rcases g.addSink sink config.sinkName session with ⟨_ | _, _, _⟩ <;> rfl

theorem on_installSink_of_taken (hg : g.Laid components wires) (sink : Sink W α)
    (h : ∃ c ∈ components, c.name = config.sinkName) :
    (installSink config sink).on g session =
      (.error (.componentCreation config.sinkName (.duplicateName config.sinkName)), g,
        session) := by
  rw [on_installSink, hg.on_of_taken (.sink sink config.sinkName) h]
  rfl

theorem on_installSink_of_full (hg : g.Laid components wires) (sink : Sink W α)
    (hfree : ∀ c ∈ components, c.name ≠ config.sinkName) (hnone : g.sinks = []) {reason : String}
    (hfull : session.memory.reserveAll
      (.next .sinks 0 :: Reservation.forComponent ⟨components.length⟩ 1 0) = .error reason) :
    ∃ last, (installSink config sink).on g session = (.error (.allocationFailure reason), g, last) ∧
      last.journal.hooks = session.journal.hooks := by
  have hroom : g.roomForSink = .next .sinks 0 := by
    unfold Graph.roomForSink
    rw [hnone]
    rfl
  rw [← hroom] at hfull
  obtain ⟨last, hadd, hhooks⟩ := hg.on_of_refused (.sink sink config.sinkName) hfree rfl hfull
  rw [on_installSink, hadd]
  exact ⟨last, rfl, hhooks.trans (List.append_nil _)⟩

theorem on_installSink_of_free (hg : g.Laid components wires) (sink : Sink W α)
    (hfree : ∀ c ∈ components, c.name ≠ config.sinkName) (hnone : g.sinks = [])
    (hroom : session.memory.reserveAll
      (.next .sinks 0 :: Reservation.forComponent ⟨components.length⟩ 1 0) = .ok ()) :
    ∃ later last, (installSink config sink).on g session =
        (.ok ⟨components.length⟩, later, last) ∧
      later.Laid (components ++ [.ofSink sink config.sinkName]) wires ∧
      later.sinks = [⟨components.length⟩] ∧
      last.toScene = session.toScene ∧
      last.journal.hooks = session.journal.hooks := by
  have hplace : g.roomForSink = .next .sinks 0 := by
    unfold Graph.roomForSink
    rw [hnone]
    rfl
  rw [← hplace] at hroom
  obtain ⟨last, hadd, hscene, hhooks⟩ := hg.on_of_room (.sink sink config.sinkName) hfree rfl hroom
  rw [on_installSink, hadd]
  refine ⟨_, last, rfl, hg.accept (.addSink sink _) (congrArg Reply.graph hadd), ?_, hscene,
    hhooks.trans (List.append_nil _)⟩
  rw [← hg.nextId_eq]
  exact congrArg (· ++ [g.nextId]) hnone

theorem on_joinSink_of_missing (hg : g.Laid components wires) {id : ComponentId}
    {c : Component W α} (hc : components[id.index]? = some c) (hname : c.name = config.filterName)
    (hnone : c.outputs.size = 0) (sink : ComponentId) (session : Session W α) :
    (joinSink config id sink).on g session =
      (.error (.portConnection config.filterName config.sinkName
        (.portOutOfRange config.filterName .output 0 0)), g, session) := by
  obtain ⟨c', hc', hgrows, -⟩ := hg.component _ _ hc
  have hsize : (c'.table .output).size = 0 := hgrows.outputs.trans hnone
  have hport := Graph.checkPort_of_missing (id.output 0) hc' hsize.le
  rw [show (c'.table (id.output 0).direction).size = 0 from hsize, hgrows.name, hname] at hport
  have hcheck := Graph.checkConnection_of_upstream hg.state hport (sink.input 0)
  unfold joinSink
  rw [Assembly.on_perform, Graph.connect_of_refused hcheck]
  rfl

theorem joinable_of_outlet (hg : g.Laid components wires) {id sinkId : ComponentId}
    {c : Component W α} {sink : Sink W α} {name : String} (hc : components[id.index]? = some c)
    (hsome : 0 < c.outputs.size) (hsink : components[sinkId.index]? = some (.ofSink sink name))
    (hapart : id ≠ sinkId)
    (hwires : ∀ wire ∈ wires, wire.1.component ≠ id ∧ wire.1.component ≠ sinkId ∧
      wire.2.component = id ∧ wire.2.direction = .input) :
    g.Joinable (id.output 0) (sinkId.input 0) := by
  refine hg.joinable rfl rfl (hg.isSome_port? (id.output 0) hc hsome)
    (hg.isSome_port? (sinkId.input 0) hsink (PortTable.size_ofCount .input 1).ge) ?_
    (fun wire hwire => (hwires wire hwire).2.1) hapart
  intro wire hwire
  obtain ⟨hfilter, hsink, hdown, hinput⟩ := hwires wire hwire
  refine ⟨fun heq => hfilter (congrArg PortRef.component heq), fun heq => ?_,
    fun heq => hsink (congrArg PortRef.component heq), fun heq => ?_⟩
  · rw [heq] at hinput
    cases hinput
  · rw [heq] at hdown
    exact hapart hdown.symm

theorem on_joinSink_of_no_row (hg : g.Laid components wires) {id sinkId : ComponentId}
    (hjoinable : g.Joinable (id.output 0) (sinkId.input 0)) {reason : String}
    (hrow : session.memory.reserve (.next .connections wires.length) = .error reason)
    (config : Config) :
    (joinSink config id sinkId).on g session =
      (.error (.allocationFailure reason), g, session) := by
  rw [← hg.roomForConnection_eq] at hrow
  unfold joinSink
  rw [Assembly.on_perform, Graph.connect_of_no_row hjoinable hrow]
  rfl

theorem on_joinSink_of_row (hg : g.Laid components wires) {id sinkId : ComponentId}
    {sink : Sink W α} {name : String} (hsink : components[sinkId.index]? = some (.ofSink sink name))
    (hjoinable : g.Joinable (id.output 0) (sinkId.input 0))
    (hrow : session.memory.reserve (.next .connections wires.length) = .ok ()) (config : Config) :
    ∃ value later last, (joinSink config id sinkId).on g session = (.ok value, later, last) := by
  have hkind : g.kind? (sinkId.input 0).component ≠ some .filter := by
    rw [show g.kind? (sinkId.input 0).component = some .sink from hg.kind? hsink]
    exact nofun
  rw [← hg.roomForConnection_eq] at hrow
  unfold joinSink
  rw [Assembly.on_perform, Graph.connect_of_not_filter hjoinable hrow hkind]
  exact ⟨_, _, _, rfl⟩

end

end Builder

end TraceFlow
