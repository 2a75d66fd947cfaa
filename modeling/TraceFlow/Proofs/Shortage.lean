import TraceFlow.Proofs.Issued

/-!
# Want of memory

A graph reserves room for its components with their ports, for its connections and for its sinks.
When room is refused to a request of a build, the build says so itself, with the reason that the
graph gave; it says so of no other request, and files a want of memory under no other kind of error.
-/

namespace TraceFlow

variable {W α : Type}

/-! ## Which commands want memory -/

namespace Graph

variable {g : Graph W α} {upstream downstream port : PortRef} {session : Session W α}
  {reason : String}

theorem checkPort_ne_allocation {expected : Direction} :
    g.checkPort port expected ≠ .error (.allocation reason) := by
  unfold checkPort
  split
  · exact nofun
  · split
    · exact nofun
    · split
      · exact nofun
      · split <;> exact nofun

theorem checkConnection_ne_allocation :
    g.checkConnection upstream downstream ≠ .error (.allocation reason) := by
  intro h
  -- The checks are made in this order, and each is made only if those before it are passed.
  by_cases hstate : g.state = .configuring
  · rcases hup : g.checkPort upstream .output with e | ⟨⟩
    · rw [checkConnection_of_upstream hstate hup] at h
      exact checkPort_ne_allocation (hup.trans h)
    · rcases hdown : g.checkPort downstream .input with e | ⟨⟩
      · rw [checkConnection_of_downstream hstate hup hdown] at h
        exact checkPort_ne_allocation (hdown.trans h)
      · unfold checkConnection at h
        dsimp only at h
        rw [if_neg (not_not.mpr hstate), hup] at h
        dsimp only [bind, Except.bind] at h
        rw [hdown] at h
        dsimp only at h
        split at h
        · cases h
        · dsimp only [pure, Except.pure] at h
          split at h <;> cases h
  · unfold checkConnection at h
    dsimp only at h
    rw [if_pos hstate] at h
    cases h

/-- What the filter behind an input port, if there is one, asks room for when it is told of a
connection. -/
def wishes (g : Graph W α) (port : PortRef) (session : Session W α) : List Reservation :=
  match g.component? port.component with
  | some c =>
    match c.role with
    | .filter filter => [wish c filter port session]
    | _ => []
  | none => []

theorem Joinable.answer_allocation_iff (h : g.Joinable upstream downstream) :
    (g.connect upstream downstream session).answer = .error (.allocation reason) ↔
      session.memory.reserveAll (g.roomForConnection :: g.wishes downstream session) =
        .error reason := by
  obtain ⟨c, hc⟩ := Option.isSome_iff_exists.mp (component?_isSome_of_port? h.downstream_port)
  unfold Memory.reserveAll wishes
  rw [hc]
  rcases hrow : session.memory.reserve g.roomForConnection with cause | ⟨⟩
  · rw [connect_of_no_row h hrow]
    simp
  dsimp only
  cases hrole : c.role with
  | filter filter =>
    dsimp only
    rw [Memory.reserveAll_singleton]
    rcases hroom : session.memory.reserve (wish c filter downstream session) with cause | ⟨⟩
    · rw [connect_of_unfit h hrow hc hrole hroom]
      simp
    · rw [connect_of_filter h hrow hc hrole hroom]
      simp
  | source source | sink sink phase =>
    have hkind : g.kind? downstream.component ≠ some .filter := by
      simp [kind?, hc, Component.kind, hrole, Role.kind]
    rw [connect_of_not_filter h hrow hkind]
    simp [Memory.reserveAll]

/-! Steps reserve no room. -/

theorem iteratorWithin_ne_allocation {depth : Nat} :
    (g.iteratorWithin depth port session).1 ≠ .error (.allocation reason) := by
  induction depth generalizing port session with
  | zero => exact nofun
  | succ depth ih =>
    unfold iteratorWithin walk
    intro h
    split at h
    · cases h
    · split at h
      · obtain ⟨fault, hsame⟩ := askIterator_error h
        cases hsame
      · split at h
        · next hmake =>
          cases h
          obtain ⟨feeder, -, before, hbefore⟩ :=
            exists_of_makeEach_error (congrArg Prod.fst hmake)
          exact ih hbefore
        · obtain ⟨fault, hsame⟩ := askIterator_error h
          cases hsame
      · cases h

theorem openSink_ne_allocation {id : ComponentId} :
    (g.openSink id session).answer ≠ .error (.allocation reason) := by
  intro h
  unfold openSink at h
  split at h
  · cases h
  · split at h
    · next hfeeder =>
      cases h
      unfold sinkFeeder at hfeeder
      split at hfeeder <;> cases hfeeder
    · cases h
    · split at h
      · next hiterator =>
        cases h
        exact iteratorWithin_ne_allocation (congrArg Prod.fst hiterator)
      · cases h

theorem openSinks_ne_allocation {ids : List ComponentId} :
    (g.openSinks ids session).answer ≠ .error (.allocation reason) := by
  induction ids generalizing g session with
  | nil => exact nofun
  | cons id rest ih =>
    intro h
    unfold openSinks at h
    split at h
    · next hopen =>
      cases h
      exact openSink_ne_allocation (congrArg Reply.answer hopen)
    · exact ih h

theorem run_ne_allocation : (g.run session).answer ≠ .error (.allocation reason) := by
  intro h
  rcases run_error h with hstep | hopen
  · cases hstep
  · exact openSinks_ne_allocation hopen

end Graph

namespace Addition

variable {request : Addition W α} {g : Graph W α} {session : Session W α} {reason : String}

def command : Addition W α → Command W α
  | source cls name params level => .addSource cls name params level
  | filter cls name params level => .addFilter cls name params level
  | sink taker name => .addSink taker name

theorem answer_command_iff {e : GraphError} :
    (request.command.on g session).answer = .error e ↔
      (request.on g session).answer = .error e := by
  cases request <;> exact Reply.map_answer_eq_error_iff

theorem answer_allocation_iff :
    (request.on g session).answer = .error (.allocation reason) ↔
      request.Open g ∧ ∃ role after, request.made.on session.world = (.ok role, after) ∧
        session.memory.reserveAll (request.demands g role after) = .error reason := by
  rw [answer_eq_error_iff]
  constructor
  · intro h
    cases h with
    | allocation hopen hmade hdemands hgranted hrefused =>
      exact ⟨hopen, _, _, hmade,
        Memory.reserveAll_eq_error_iff.mpr ⟨_, _, _, hdemands, hgranted, hrefused⟩⟩
  · rintro ⟨hopen, role, after, hmade, hroom⟩
    obtain ⟨_, _, _, hdemands, hgranted, hrefused⟩ := Memory.reserveAll_eq_error_iff.mp hroom
    exact .allocation hopen hmade hdemands hgranted hrefused

end Addition

namespace Command

/-- The room that a command asks for on a graph and in a session, in order, once all has gone well
that comes before. -/
inductive Wants (g : Graph W α) (session : Session W α) :
    Command W α → List Reservation → Prop where
  | addition {request : Addition W α} {role : Role W α} {after : W} (hopen : request.Open g)
      (hmade : request.made.on session.world = (.ok role, after)) :
      Wants g session request.command (request.demands g role after)
  | connection {upstream downstream : PortRef} (hjoinable : g.Joinable upstream downstream) :
      Wants g session (.connect upstream downstream)
        (g.roomForConnection :: g.wishes downstream session)

/-- Some of the room that the command asks for is refused. -/
def Short (command : Command W α) (g : Graph W α) (session : Session W α) (reason : String) :
    Prop :=
  ∃ requests, command.Wants g session requests ∧
    session.memory.reserveAll requests = .error reason

variable {g : Graph W α} {session : Session W α} {reason : String}

theorem short_of_addition {request : Addition W α}
    (h : (request.on g session).answer = .error (.allocation reason)) :
    request.command.Short g session reason := by
  obtain ⟨hopen, role, after, hmade, hroom⟩ := Addition.answer_allocation_iff.mp h
  exact ⟨_, .addition hopen hmade, hroom⟩

theorem joinable_of_answer {upstream downstream : PortRef}
    (h : (g.connect upstream downstream session).answer = .error (.allocation reason)) :
    g.Joinable upstream downstream := by
  rcases hcheck : g.checkConnection upstream downstream with e | ⟨⟩
  · rw [Graph.connect_of_refused hcheck] at h
    cases h
    exact absurd hcheck Graph.checkConnection_ne_allocation
  · exact Graph.joinable_iff.mp hcheck

theorem answer_allocation_iff (command : Command W α) :
    (command.on g session).answer = .error (.allocation reason) ↔
      command.Short g session reason := by
  constructor
  · intro h
    cases command with
    | addSource cls name params level =>
      let request : Addition W α := .source cls name params level
      exact short_of_addition (request.answer_command_iff.mp h)
    | addFilter cls name params level =>
      let request : Addition W α := .filter cls name params level
      exact short_of_addition (request.answer_command_iff.mp h)
    | addSink sink name =>
      let request : Addition W α := .sink sink name
      exact short_of_addition (request.answer_command_iff.mp h)
    | connect upstream downstream =>
      replace h := Reply.map_answer_eq_error_iff.mp h
      have hjoinable := joinable_of_answer h
      exact ⟨_, .connection hjoinable, hjoinable.answer_allocation_iff.mp h⟩
    | run => exact absurd (Reply.map_answer_eq_error_iff.mp h) Graph.run_ne_allocation
  · rintro ⟨requests, hwants, hroom⟩
    cases hwants with
    | addition hopen hmade =>
      exact Addition.answer_command_iff.mpr
        (Addition.answer_allocation_iff.mpr ⟨hopen, _, _, hmade, hroom⟩)
    | connection hjoinable =>
      exact Reply.map_answer_eq_error_iff.mpr (hjoinable.answer_allocation_iff.mpr hroom)

end Command

/-! ## Builds that want memory -/

namespace Builder

section

variable {builder : Builder W} {sink : Sink W α} {session opened : Session W α} {g : Graph W α}
  {e : TraceError}

/-- An error of a build either is a want of memory, for one of two reasons, or has nothing to do
with memory, unless there was none for an empty graph. -/
theorem short_or_plain (h : (builder.build sink session).1 = .error e) :
    (∃ reason, e = .allocationFailure reason ∧
      ((∃ command g opened, builder.Issues sink session command g opened ∧
        (command.on g opened).answer = .error (.allocation reason)) ∨
      builder.Unlisted session.memory reason)) ∨
    (∃ reason, e = .graphCreation (.allocation reason) ∧
      session.memory.reserveAll roomForGraph = .error reason) ∨ e.Plain := by
  rcases builder.prepared_or_failed sink session with
    ⟨texts, hprepared⟩ | ⟨_, hfails⟩ | ⟨reason, hunlisted, hfails⟩ | ⟨reason, hgraph, hfails⟩
  · obtain ⟨later, last, hwork⟩ := error_of_build hprepared h
    rcases explained_of_assemble hprepared hwork with
      ⟨command, g, opened, cause, hissues, hanswer, htells⟩ | hplain
    · rcases htells.shortage_or_plain with ⟨reason, rfl, rfl⟩ | ⟨-, hplain⟩
      · exact .inl ⟨reason, rfl, .inl ⟨command, g, opened, hissues, hanswer⟩⟩
      · exact .inr (.inr hplain)
    · exact .inr (.inr hplain)
  · rw [hfails] at h
    cases h
    exact .inr (.inr ⟨nofun, nofun⟩)
  · rw [hfails] at h
    cases h
    exact .inl ⟨reason, rfl, .inr hunlisted⟩
  · rw [hfails] at h
    cases h
    exact .inr (.inl ⟨reason, rfl, hgraph⟩)

theorem build_of_issued {command : Command W α} {reason : String}
    (h : builder.Issues sink session command g opened)
    (hanswer : (command.on g opened).answer = .error (.allocation reason)) :
    (builder.build sink session).1 = .error (.allocationFailure reason) := by
  obtain ⟨texts, e, hprepared, hassemble, htells⟩ := assemble_of_issued h hanswer
  rcases hwork : (builder.assemble texts sink).on .empty session with ⟨answer, later, last⟩
  rw [hwork] at hassemble
  cases hassemble
  rw [build_of_prepared hprepared, hwork]
  rcases htells.shortage_or_plain with ⟨_, hsame, rfl⟩ | ⟨hnone, -⟩
  · cases hsame
    rfl
  · exact absurd rfl (hnone reason)

end

end Builder

/-! ## Pulls -/

theorem Context.pull_plain {patience : Nat} {context : Context W α} {session : Session W α}
    {e : TraceError} (h : (context.pull patience session).1 = .failed e) : e.Plain := by
  induction patience generalizing context session with
  | zero => cases h
  | succ patience ih =>
    unfold pull at h
    split at h
    · cases h
    · cases h
    · next cause later last hrun =>
      cases h
      refine ⟨nofun, fun reason hheld => ?_⟩
      cases hheld
      exact Graph.run_ne_allocation (congrArg Reply.answer hrun)
    · exact ih h

/--
A build that wants memory says so under that kind and with the reason that it was given, whether a
request of it wanted the memory or the list of the sources could not be reserved; and it says so for
no other reason. A request wants memory exactly when room is refused that it asks for: the ports of
a source or the filter, the inputs that the filter adds when it is told of a connection, and one
more row for a component, a connection or a sink. No other error of a build holds a want of memory,
as long as there is room for an empty graph, and no error of a pull does.
-/
theorem Builder.shortage_told (builder : Builder W) (sink : Sink W α) (session : Session W α) :
    (∀ reason, (builder.build sink session).1 = .error (.allocationFailure reason) ↔
      (∃ command g opened, builder.Issues sink session command g opened ∧
        (command.on g opened).answer = .error (.allocation reason)) ∨
      builder.Unlisted session.memory reason) ∧
    (∀ command g opened, builder.Issues sink session command g opened →
      ∀ reason, (command.on g opened).answer = .error (.allocation reason) ↔
        command.Short g opened reason) ∧
    (∀ e, (builder.build sink session).1 = .error e →
      ∀ reason, e.root.graphError? = some (.allocation reason) →
        e = .graphCreation (.allocation reason) ∧
          session.memory.reserveAll roomForGraph = .error reason) ∧
    ∀ (context : Context W α) patience opened e, (context.pull patience opened).1 = .failed e →
      ∀ reason, e.root.graphError? ≠ some (.allocation reason) := by
  refine ⟨fun reason => ⟨fun h => ?_, fun h => ?_⟩,
    fun command _ _ _ _ => command.answer_allocation_iff, fun e h reason hheld => ?_,
    fun _ _ _ _ h => (Context.pull_plain h).root⟩
  · rcases short_or_plain h with ⟨_, hsame, hshort⟩ | ⟨_, hsame, -⟩ | hplain
    · cases hsame
      exact hshort
    · cases hsame
    · exact absurd rfl (hplain.kind reason)
  · rcases h with ⟨command, g, opened, hissues, hanswer⟩ | ⟨texts, hchecked, hlist⟩
    · exact build_of_issued hissues hanswer
    · rw [build_of_no_list hchecked hlist]
  · rcases short_or_plain h with ⟨_, rfl, -⟩ | ⟨_, rfl, hgraph⟩ | hplain
    · cases hheld
    · cases hheld
      exact ⟨rfl, hgraph⟩
    · exact absurd hheld (hplain.root reason)

def Builder.swollen : Builder Nat where
  registry := ⟨fun _ => pure (some {
    name := "tools"
    sources := [Graph.tap]
    filters := [Graph.swell] })⟩
  locators := ["left".toUTF8]
  config := { sourceClass := "tap", filterClass := "swell" }

/-- A context that could be built if there were room on the list of sinks. -/
def Builder.crowded : Builder Nat where
  registry := obliging {} 1
  locators := ["left".toUTF8]

theorem Builder.shortage_told_swollen :
    (∃ g opened reason,
      swollen.Issues Graph.cup ⟨.plain 1, .empty⟩ (.connect Graph.tapOut Graph.swellIn) g opened ∧
      (Command.connect Graph.tapOut Graph.swellIn).Short g opened reason ∧
      (swollen.build Graph.cup ⟨.plain 1, .empty⟩).1 = .error (.allocationFailure reason)) ∧
    ∃ command g opened reason,
      crowded.Issues Graph.cup ⟨{ world := 0, shared := (), memory := .without .sinks }, .empty⟩
        command g opened ∧
      command.Short g opened reason := by
  constructor
  · have hprepared : swollen.Prepared .ample ["left"] :=
      (Checked.of_check (by rfl)).prepared Memory.generous_ample
    let wired := (swollen.withWires ["left"] 0).on (.empty : Graph Nat Unit) ⟨.plain 1, .empty⟩
    have hwired : wired = (.ok ([⟨⟨0⟩, "input", 1⟩], ⟨1⟩), wired.2.1, wired.2.2) := by rfl
    have hissues : swollen.Issues Graph.cup ⟨.plain 1, .empty⟩
        (.connect Graph.tapOut Graph.swellIn) wired.2.1 wired.2.2 :=
      .connection hprepared hwired rfl
    obtain ⟨hiff, hasked, -⟩ := shortage_told swollen Graph.cup ⟨.plain 1, .empty⟩
    have hanswer : ((Command.connect Graph.tapOut Graph.swellIn).on wired.2.1 wired.2.2).answer =
        .error (.allocation s!"Input port table of {Nat.pow 2 62}: {Shortage.capacity.text}") := by
      decide +kernel
    exact ⟨_, _, _, hissues, (hasked _ _ _ hissues _).mp hanswer,
      (hiff _).mpr (.inl ⟨_, _, _, hissues, hanswer⟩)⟩
  · let session : Session Nat Unit :=
      ⟨{ world := 0, shared := (), memory := .without .sinks }, .empty⟩
    obtain ⟨hiff, hasked, -⟩ := shortage_told crowded Graph.cup session
    have hfails : (crowded.build Graph.cup session).1.map (fun _ => ()) =
        .error (.allocationFailure s!"sink list: {Shortage.allocator.text}") := by
      decide +kernel
    rcases hbuild : (crowded.build Graph.cup session).1 with e | context
    · rw [hbuild] at hfails
      cases hfails
      -- Room was refused to a request: there is enough for the list of the sources.
      rcases (hiff _).mp hbuild with ⟨command, g, opened, hissues, hanswer⟩ | ⟨texts, -, hlist⟩
      · exact ⟨command, g, opened, _, hissues, (hasked _ _ _ hissues _).mp hanswer⟩
      · have hroom : session.memory.reserve ⟨.sources, 0, texts.length⟩ = .ok () :=
          Memory.reserve_without nofun rfl
        cases hroom.symm.trans hlist
    · rw [hbuild] at hfails
      cases hfails

end TraceFlow
