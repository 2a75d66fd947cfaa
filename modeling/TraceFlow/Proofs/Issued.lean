import TraceFlow.Proofs.Outcome

/-!
# What a build asks of its graph

A build carries out one command after the other on its graph: a source for each locator, the filter,
the connections between them, the sink and its connection. It comes to a command if all before it
went well. When a command is refused the build fails, and its error tells what the graph answered.
-/

namespace TraceFlow

variable {W α : Type}

/-! ## The words of a build -/

namespace TraceError

/-- The error tells, in the words of a build, what a graph has answered. -/
def Tells (e : TraceError) (cause : GraphError) : Prop :=
  (∃ name, e = .ofCreation name cause) ∨
    ∃ upstream downstream, e = .ofConnection upstream downstream cause

/-- The error does not come from a want of memory. -/
structure Plain (e : TraceError) : Prop where
  kind : ∀ reason, e ≠ .allocationFailure reason
  root : ∀ reason, e.root.graphError? ≠ some (.allocation reason)

variable {e : TraceError} {cause : GraphError} {reason : String}

theorem Tells.shortage_or_plain (h : e.Tells cause) :
    (∃ reason, cause = .allocation reason ∧ e = .allocationFailure reason) ∨
      (∀ reason, cause ≠ .allocation reason) ∧ e.Plain := by
  rcases h with ⟨name, rfl⟩ | ⟨upstream, downstream, rfl⟩
  all_goals
    cases cause with
    | allocation reason => exact .inl ⟨reason, rfl, rfl⟩
    | _ => exact .inr ⟨nofun, nofun, nofun⟩

end TraceError

/-! ## What a build asks of its graph -/

namespace Builder

def withSources (builder : Builder W) (read : List String) :
    Assembly W α (SourceClass W × FilterClass W × List AddedSource) := do
  let (cls, filterClass) ← builder.classes
  let added ← addSources builder.config cls 0 read
  return (cls, filterClass, added)

def withFilter (builder : Builder W) (locators : List String) :
    Assembly W α (List AddedSource × ComponentId) := do
  let (_, filterClass, added) ← builder.withSources locators
  let filter ← install builder.config filterClass
  return (added, filter)

/-- All sources and the filter, and the first `count` connections between them. -/
def withWires (builder : Builder W) (locators : List String) (count : Nat) :
    Assembly W α (List AddedSource × ComponentId) := do
  let (added, filter) ← builder.withFilter locators
  wire builder.config filter 0 ((added.flatMap AddedSource.outputs).take count)
  return (added, filter)

/--
A build carries a command out on its graph, in this session, if all before it went well. Besides, it
only asks its graph how many ports a source came with.
-/
inductive Issues (builder : Builder W) (sink : Sink W α) (session : Session W α) :
    Command W α → Graph W α → Session W α → Prop where
  | source {read rest : List String} {locator : String} {cls : SourceClass W}
      {filterClass : FilterClass W} {added : List AddedSource} {g : Graph W α}
      {opened : Session W α} (hprepared : builder.Prepared session.memory (read ++ locator :: rest))
      (h : (builder.withSources read).on .empty session =
        (.ok (cls, filterClass, added), g, opened)) :
      Issues builder sink session
        (.addSource cls (builder.config.sourceInstanceName read.length)
          (sourceParams builder.config locator) builder.config.logLevel) g opened
  | filter {locators : List String} {cls : SourceClass W} {filterClass : FilterClass W}
      {added : List AddedSource} {g : Graph W α} {opened : Session W α}
      (hprepared : builder.Prepared session.memory locators)
      (h : (builder.withSources locators).on .empty session =
        (.ok (cls, filterClass, added), g, opened)) :
      Issues builder sink session
        (.addFilter filterClass builder.config.filterName ∅ builder.config.logLevel) g opened
  | connection {locators : List String} {input : Nat} {added : List AddedSource}
      {filter : ComponentId} {name : String} {output : PortRef} {g : Graph W α}
      {opened : Session W α} (hprepared : builder.Prepared session.memory locators)
      (h : (builder.withWires locators input).on .empty session = (.ok (added, filter), g, opened))
      (houtput : (added.flatMap AddedSource.outputs)[input]? = some (name, output)) :
      Issues builder sink session (.connect output (filter.input input)) g opened
  | sink {locators : List String} {added : List AddedSource} {filter : ComponentId}
      {g : Graph W α} {opened : Session W α} (hprepared : builder.Prepared session.memory locators)
      (h : (builder.withWires locators (added.flatMap AddedSource.outputs).length).on .empty
        session = (.ok (added, filter), g, opened)) :
      Issues builder sink session (.addSink sink builder.config.sinkName) g opened
  | join {locators : List String} {added : List AddedSource} {filter id : ComponentId}
      {wired g : Graph W α} {between opened : Session W α}
      (hprepared : builder.Prepared session.memory locators)
      (h : (builder.withWires locators (added.flatMap AddedSource.outputs).length).on .empty
        session = (.ok (added, filter), wired, between))
      (hsink : wired.addSink sink builder.config.sinkName between = ⟨.ok id, g, opened⟩) :
      Issues builder sink session (.connect (filter.output 0) (id.input 0)) g opened

/-! ## One request after the other -/

theorem addSources_append (config : Config) (cls : SourceClass W) (index : Nat)
    (first rest : List String) :
    (addSources config cls index (first ++ rest) : Assembly W α _) = (do
      let added ← addSources config cls index first
      let others ← addSources config cls (index + first.length) rest
      return added ++ others) := by
  induction first generalizing index with
  | nil => simp [addSources]
  | cons locator later ih =>
    simp only [List.cons_append, addSources, ih, bind_assoc, pure_bind, List.length_cons]
    simp only [Nat.add_assoc, Nat.add_comm 1]

theorem wire_append (config : Config) (filter : ComponentId) (input : Nat)
    (first rest : List (String × PortRef)) :
    (wire config filter input (first ++ rest) : Assembly W α _) = (do
      wire config filter input first
      wire config filter (input + first.length) rest) := by
  induction first generalizing input with
  | nil => simp [wire]
  | cons output later ih =>
    simp only [List.cons_append, wire, ih, bind_assoc, List.length_cons]
    simp only [Nat.add_assoc, Nat.add_comm 1]

section

variable {builder : Builder W} {locators : List String} {sink : Sink W α}
  {session opened : Session W α} {g : Graph W α} {added : List AddedSource} {filter : ComponentId}

theorem withSources_append (builder : Builder W) (first rest : List String) :
    (builder.withSources (first ++ rest) : Assembly W α _) = (do
      let (cls, filterClass, added) ← builder.withSources first
      let others ← addSources builder.config cls first.length rest
      return (cls, filterClass, added ++ others)) := by
  unfold withSources
  simp only [addSources_append, bind_assoc, pure_bind, Nat.zero_add]

theorem assemble_eq_withSources (builder : Builder W) (locators : List String) (sink : Sink W α) :
    builder.assemble locators sink = (do
      let (_, filterClass, added) ← builder.withSources locators
      fromFilter builder.config filterClass added sink) := by
  rw [assemble_eq_classes]
  unfold withSources
  simp only [bind_assoc, pure_bind]
  rfl

theorem assemble_eq_withFilter (builder : Builder W) (locators : List String) (sink : Sink W α) :
    builder.assemble locators sink = (do
      let (added, filter) ← builder.withFilter locators
      fromWiring builder.config added filter sink 0 (added.flatMap AddedSource.outputs)) := by
  rw [assemble_eq_withSources]
  unfold withFilter
  simp only [bind_assoc, pure_bind]
  rfl

theorem assemble_eq_withWires (builder : Builder W) (locators : List String) (sink : Sink W α)
    (count : Nat) :
    builder.assemble locators sink = (do
      let (added, filter) ← builder.withWires locators count
      let outputs := added.flatMap AddedSource.outputs
      fromWiring builder.config added filter sink (min count outputs.length)
        (outputs.drop count)) := by
  rw [assemble_eq_withFilter]
  unfold withWires
  simp only [bind_assoc, pure_bind]
  -- The connections are split where the program before stops.
  refine congrArg _ (funext fun (added, filter) => ?_)
  unfold fromWiring
  conv_lhs => rw [← List.take_append_drop count (added.flatMap AddedSource.outputs)]
  rw [wire_append, bind_assoc, Nat.zero_add, List.length_take]

theorem assemble_eq_source (builder : Builder W) (read rest : List String) (locator : String)
    (sink : Sink W α) :
    builder.assemble (read ++ locator :: rest) sink = (do
      let (cls, filterClass, added) ← builder.withSources read
      let source ← addSource builder.config cls read.length locator
      let others ← addSources builder.config cls (read.length + 1) rest
      fromFilter builder.config filterClass (added ++ source :: others) sink) := by
  rw [assemble_eq_withSources, withSources_append]
  simp only [addSources, bind_assoc, pure_bind]

/-! ## Requests that are refused -/

theorem on_assemble_of_wired {count : Nat} {name : String} {output : PortRef}
    (h : (builder.withWires locators count).on .empty session = (.ok (added, filter), g, opened))
    (houtput : (added.flatMap AddedSource.outputs)[count]? = some (name, output))
    (sink : Sink W α) :
    ∃ rest, (builder.assemble locators sink).on .empty session =
      (fromWiring builder.config added filter sink count ((name, output) :: rest)).on g opened := by
  obtain ⟨hlt, heq⟩ := List.getElem?_eq_some_iff.mp houtput
  refine ⟨(added.flatMap AddedSource.outputs).drop (count + 1), ?_⟩
  rw [assemble_eq_withWires _ _ _ count, Assembly.on_bind_of_ok h]
  dsimp only
  rw [Nat.min_eq_left hlt.le, List.drop_eq_getElem_cons hlt, heq]

theorem on_assemble_of_all_wired
    (h : (builder.withWires locators (added.flatMap AddedSource.outputs).length).on .empty session =
      (.ok (added, filter), g, opened)) (sink : Sink W α) :
    (builder.assemble locators sink).on .empty session =
      (fromSink builder.config added filter sink).on g opened := by
  rw [assemble_eq_withWires _ _ _ (added.flatMap AddedSource.outputs).length,
    Assembly.on_bind_of_ok h]
  dsimp only
  rw [List.drop_length]
  rfl

/-- A build fails with the error that a request of it is answered. -/
theorem assemble_of_issued {command : Command W α} {cause : GraphError}
    (h : builder.Issues sink session command g opened)
    (hanswer : (command.on g opened).answer = .error cause) :
    ∃ locators e, builder.Prepared session.memory locators ∧
      ((builder.assemble locators sink).on .empty session).1 = .error e ∧ e.Tells cause := by
  cases h with
  | @source read _ _ _ _ _ _ _ hprepared h =>
    rw [Command.on, Reply.map_answer_eq_error_iff] at hanswer
    refine ⟨_, .ofCreation (builder.config.sourceInstanceName read.length) cause, hprepared, ?_,
      .inl ⟨_, rfl⟩⟩
    rw [assemble_eq_source, Assembly.on_bind_of_ok h]
    exact Assembly.fst_on_bind_of_error
      (Assembly.fst_on_bind_of_error (Assembly.fst_on_perform_of_error hanswer) _) _
  | filter hprepared h =>
    rw [Command.on, Reply.map_answer_eq_error_iff] at hanswer
    refine ⟨_, .ofCreation builder.config.filterName cause, hprepared, ?_, .inl ⟨_, rfl⟩⟩
    rw [assemble_eq_withSources, Assembly.on_bind_of_ok h]
    exact Assembly.fst_on_bind_of_error (Assembly.fst_on_perform_of_error hanswer) _
  | @connection _ _ _ _ name _ _ _ hprepared h houtput =>
    rw [Command.on, Reply.map_answer_eq_error_iff] at hanswer
    obtain ⟨rest, hassemble⟩ := on_assemble_of_wired h houtput sink
    refine ⟨_, .ofConnection name builder.config.filterName cause, hprepared, ?_,
      .inr ⟨_, _, rfl⟩⟩
    rw [hassemble]
    exact Assembly.fst_on_bind_of_error
      (Assembly.fst_on_bind_of_error (Assembly.fst_on_perform_of_error hanswer) _) _
  | sink hprepared h =>
    rw [Command.on, Reply.map_answer_eq_error_iff] at hanswer
    refine ⟨_, .ofCreation builder.config.sinkName cause, hprepared, ?_, .inl ⟨_, rfl⟩⟩
    rw [on_assemble_of_all_wired h]
    exact Assembly.fst_on_bind_of_error (Assembly.fst_on_perform_of_error hanswer) _
  | join hprepared h hsink =>
    rw [Command.on, Reply.map_answer_eq_error_iff] at hanswer
    refine ⟨_, .ofConnection builder.config.filterName builder.config.sinkName cause, hprepared, ?_,
      .inr ⟨_, _, rfl⟩⟩
    rw [on_assemble_of_all_wired h]
    unfold fromSink installSink
    rw [Assembly.on_bind, Assembly.on_perform, hsink]
    exact Assembly.fst_on_bind_of_error (Assembly.fst_on_perform_of_error hanswer) _

/-! ## Errors of a build -/

def Explained (builder : Builder W) (sink : Sink W α) (session : Session W α)
    (e : TraceError) : Prop :=
  (∃ command g opened cause, builder.Issues sink session command g opened ∧
    (command.on g opened).answer = .error cause ∧ e.Tells cause) ∨ e.Plain

variable {later between : Graph W α} {last : Session W α}
  {e : TraceError} {cls : SourceClass W} {filterClass : FilterClass W}

theorem plain_of_classes (h : builder.classes.on g session = (.error e, later, last)) :
    e.Plain := by
  rcases error_classes h with ⟨_, rfl⟩ | ⟨_, _, rfl⟩
  · exact ⟨nofun, nofun⟩
  · exact ⟨nofun, nofun⟩

theorem addSource_told_or_plain {config : Config} {index : Nat} {locator : String}
    (h : (addSource config cls index locator).on g opened = (.error e, later, last)) :
    (∃ cause, (g.addSource cls (config.sourceInstanceName index) (sourceParams config locator)
      config.logLevel opened).answer = .error cause ∧ e.Tells cause) ∨ e.Plain := by
  unfold addSource at h
  rcases Assembly.error_bind h with h | ⟨id, _, _, -, h⟩
  · obtain ⟨cause, hadd, rfl⟩ := Assembly.error_perform h
    exact .inl ⟨cause, congrArg Reply.answer hadd, .inl ⟨_, rfl⟩⟩
  rcases Assembly.error_bind h with h | ⟨ports, _, _, -, h⟩
  · obtain ⟨cause, hquery, rfl⟩ := Assembly.error_perform h
    replace hquery := congrArg Reply.answer hquery
    dsimp only at hquery
    unfold Graph.portCount at hquery
    split at hquery
    · cases hquery
    · cases hquery
      exact .inr ⟨nofun, nofun⟩
  · split at h
    · cases h
      exact .inr ⟨nofun, nofun⟩
    · cases h

theorem explained_of_fromSink (hprepared : builder.Prepared session.memory locators)
    (hwired : (builder.withWires locators (added.flatMap AddedSource.outputs).length).on .empty
      session = (.ok (added, filter), g, opened))
    (h : (fromSink builder.config added filter sink).on g opened = (.error e, later, last)) :
    builder.Explained sink session e := by
  unfold fromSink at h
  rcases Assembly.error_bind h with h | ⟨id, between, asked, hsink, h⟩
  · obtain ⟨cause, hadd, rfl⟩ := Assembly.error_perform h
    refine .inl ⟨_, _, _, cause, .sink hprepared hwired, ?_, .inl ⟨_, rfl⟩⟩
    exact Reply.map_answer_eq_error_iff.mpr (congrArg Reply.answer hadd)
  rcases Assembly.error_bind h with h | ⟨_, _, _, -, h⟩
  · obtain ⟨cause, hjoin, rfl⟩ := Assembly.error_perform h
    refine .inl ⟨_, _, _, cause, .join hprepared hwired (Assembly.ok_perform hsink), ?_,
      .inr ⟨_, _, rfl⟩⟩
    exact Reply.map_answer_eq_error_iff.mpr (congrArg Reply.answer hjoin)
  · cases h

theorem on_withWires {count : Nat} {joined : List (String × PortRef)}
    (hfilter : (builder.withFilter locators).on .empty session = (.ok (added, filter), g, opened))
    (hcount : (added.flatMap AddedSource.outputs).take count = joined)
    (hwire : (wire builder.config filter 0 joined).on g opened = (.ok (), later, last)) :
    (builder.withWires locators count).on .empty session = (.ok (added, filter), later, last) := by
  subst hcount
  unfold withWires
  rw [Assembly.on_bind_of_ok hfilter, Assembly.on_bind_of_ok hwire]
  rfl

theorem explained_of_fromWiring (hprepared : builder.Prepared session.memory locators)
    (hfilter : (builder.withFilter locators).on .empty session = (.ok (added, filter), g, opened))
    (h : (fromWiring builder.config added filter sink 0 (added.flatMap AddedSource.outputs)).on g
      opened = (.error e, later, last)) :
    builder.Explained sink session e := by
  unfold fromWiring at h
  rcases Assembly.error_bind h with h | ⟨_, between, asked, hwire, h⟩
  · obtain ⟨joined, name, output, rest, between, asked, houtputs, hwire, cause, hjoin, rfl⟩ :=
      wire_error h
    have htake : (added.flatMap AddedSource.outputs).take joined.length = joined := by
      rw [houtputs, List.take_left]
    have houtput : (added.flatMap AddedSource.outputs)[joined.length]? = some (name, output) := by
      rw [houtputs, List.getElem?_append_right le_rfl, Nat.sub_self, List.getElem?_cons_zero]
    rw [Nat.zero_add] at hjoin
    refine .inl ⟨_, _, _, cause,
      .connection hprepared (on_withWires hfilter htake hwire) houtput, ?_, .inr ⟨_, _, rfl⟩⟩
    exact Reply.map_answer_eq_error_iff.mpr hjoin
  · exact explained_of_fromSink hprepared (on_withWires hfilter List.take_length hwire) h

theorem explained_of_fromFilter (hprepared : builder.Prepared session.memory locators)
    (hsources : (builder.withSources locators).on .empty session =
      (.ok (cls, filterClass, added), g, opened))
    (h : (fromFilter builder.config filterClass added sink).on g opened = (.error e, later, last)) :
    builder.Explained sink session e := by
  unfold fromFilter at h
  rcases Assembly.error_bind h with h | ⟨filter, between, asked, hinstall, h⟩
  · obtain ⟨cause, hadd, rfl⟩ := Assembly.error_perform h
    refine .inl ⟨_, _, _, cause, .filter hprepared hsources, ?_, .inl ⟨_, rfl⟩⟩
    exact Reply.map_answer_eq_error_iff.mpr (congrArg Reply.answer hadd)
  · refine explained_of_fromWiring hprepared ?_ h
    unfold withFilter
    rw [Assembly.on_bind_of_ok hsources, Assembly.on_bind_of_ok hinstall]
    rfl

theorem on_withSources {read : List String}
    (hclasses : builder.classes.on .empty session = (.ok (cls, filterClass), g, opened))
    (hadded : (addSources builder.config cls 0 read).on g opened = (.ok added, later, last)) :
    (builder.withSources read).on .empty session =
      (.ok (cls, filterClass, added), later, last) := by
  unfold withSources
  rw [Assembly.on_bind_of_ok hclasses, Assembly.on_bind_of_ok hadded]
  rfl

theorem explained_of_assemble (hprepared : builder.Prepared session.memory locators)
    (h : (builder.assemble locators sink).on .empty session = (.error e, later, last)) :
    builder.Explained sink session e := by
  rw [assemble_eq_classes] at h
  rcases Assembly.error_bind h with h | ⟨⟨cls, filterClass⟩, looked, asked, hclasses, h⟩
  · exact .inr (plain_of_classes h)
  unfold fromSources at h
  rcases Assembly.error_bind h with h | ⟨added, between, opened, hadded, h⟩
  · obtain ⟨read, locator, rest, added, between, opened, rfl, hread, hfails⟩ :=
      addSources_error h
    rw [Nat.zero_add] at hfails
    rcases addSource_told_or_plain hfails with ⟨cause, hadd, htells⟩ | hplain
    · refine .inl ⟨_, _, _, cause, .source hprepared (on_withSources hclasses hread), ?_, htells⟩
      exact Reply.map_answer_eq_error_iff.mpr hadd
    · exact .inr hplain
  · exact explained_of_fromFilter hprepared (on_withSources hclasses hadded) h

end

end Builder

end TraceFlow
