import TraceFlow.Proofs.Layout

/-!
# Adding is all or nothing

A source, a filter and a sink are added in one way: the name is checked, the component is made, its
tables of ports are made, and only then does the graph take it. So a request that is declined leaves
the graph as it was, and one that is granted adds one component and nothing else.
-/

namespace TraceFlow

variable {W α : Type}

namespace Act

variable {β γ : Type} {f : β → γ} {act : Act W β} {world after : W}

theorem on_map (f : β → γ) (act : Act W β) (world : W) :
    Act.on (f <$> act) world = ((act.on world).1.map f, (act.on world).2) := by
  unfold Act.on
  simp only [ExceptT.run_map, StateT.run_map]
  rfl

theorem error_map {fault : Fault} (h : Act.on (f <$> act) world = (.error fault, after)) :
    act.on world = (.error fault, after) := by
  rw [on_map] at h
  rcases hon : act.on world with ⟨_ | value, last⟩
  · rw [hon] at h
    cases h
    rfl
  · rw [hon] at h
    cases h

theorem ok_map {made : γ} (h : Act.on (f <$> act) world = (.ok made, after)) :
    ∃ value, act.on world = (.ok value, after) ∧ f value = made := by
  rw [on_map] at h
  rcases hon : act.on world with ⟨_ | value, last⟩
  · rw [hon] at h
    cases h
  · rw [hon] at h
    cases h
    exact ⟨value, rfl, rfl⟩

end Act

/-! ## Room -/

namespace Memory

def reserveAll (memory : Memory) : List Reservation → Except String Unit
  | [] => .ok ()
  | request :: rest =>
    match memory.reserve request with
    | .error reason => .error reason
    | .ok () => memory.reserveAll rest

theorem reserveAll_eq_ok_iff {memory : Memory} {requests : List Reservation} :
    memory.reserveAll requests = .ok () ↔
      ∀ request ∈ requests, memory.reserve request = .ok () := by
  induction requests with
  | nil => exact ⟨fun _ => nofun, fun _ => rfl⟩
  | cons request rest ih =>
    unfold reserveAll
    rw [List.forall_mem_cons]
    cases memory.reserve request with
    | error reason => simp
    | ok _ => simp [ih]

theorem reserveAll_eq_error_iff {memory : Memory} {requests : List Reservation}
    {reason : String} :
    memory.reserveAll requests = .error reason ↔
      ∃ earlier refused later, requests = earlier ++ refused :: later ∧
        (∀ request ∈ earlier, memory.reserve request = .ok ()) ∧
        memory.reserve refused = .error reason := by
  induction requests with
  | nil => simp [reserveAll]
  | cons request rest ih =>
    unfold reserveAll
    rcases hfirst : memory.reserve request with cause | ⟨⟩
    · constructor
      · intro h
        exact ⟨[], request, rest, rfl, nofun, hfirst.trans h⟩
      · rintro ⟨earlier, refused, later, hrequests, hgranted, hrefused⟩
        rcases List.cons_eq_append_iff.mp hrequests with ⟨rfl, hcons⟩ | ⟨between, rfl, -⟩
        · cases hcons
          exact hfirst.symm.trans hrefused
        · cases hfirst.symm.trans (hgranted request List.mem_cons_self)
    · change memory.reserveAll rest = .error reason ↔ _
      rw [ih]
      constructor
      · rintro ⟨earlier, refused, later, rfl, hgranted, hrefused⟩
        exact ⟨request :: earlier, refused, later, rfl,
          List.forall_mem_cons.mpr ⟨hfirst, hgranted⟩, hrefused⟩
      · rintro ⟨earlier, refused, later, hrequests, hgranted, hrefused⟩
        rcases List.cons_eq_append_iff.mp hrequests with ⟨rfl, hcons⟩ | ⟨between, rfl, rfl⟩
        · cases hcons
          cases hfirst.symm.trans hrefused
        · exact ⟨between, refused, later, rfl, (List.forall_mem_cons.mp hgranted).2, hrefused⟩

theorem reserveAll_singleton (memory : Memory) (request : Reservation) :
    memory.reserveAll [request] = memory.reserve request := by
  unfold reserveAll
  cases memory.reserve request <;> rfl

theorem makePorts_eq (memory : Memory) (owner : ComponentId) (direction : Direction)
    (count : Nat) :
    memory.makePorts owner direction count =
      (memory.reserve ⟨.ports owner direction, 0, count⟩).map fun _ =>
        .ofCount direction count := rfl

end Memory

/-- The room for a new component, its ports first. -/
def Reservation.forComponent (id : ComponentId) (inputs outputs : Nat) : List Reservation :=
  [⟨.ports id .input, 0, inputs⟩, ⟨.ports id .output, 0, outputs⟩, .next .components id.index]

namespace Role

def inputCount (role : Role W α) (world : W) : Nat :=
  match role with
  | .source _ => 0
  | .filter inner => inner.inputCount world
  | .sink .. => 1

def outputCount (role : Role W α) (world : W) : Nat :=
  match role with
  | .source inner => inner.outputCount world
  | .filter inner => inner.outputCount world
  | .sink .. => 0

end Role

/-! ## Requests -/

/-- A request for one component more. -/
inductive Addition (W α : Type) where
  | source (cls : SourceClass W) (name : String) (params : Params) (level : LogLevel)
  | filter (cls : FilterClass W) (name : String) (params : Params) (level : LogLevel)
  | sink (taker : Sink W α) (name : String)

namespace Addition

def on (request : Addition W α) (g : Graph W α) (session : Session W α) : Reply W α ComponentId :=
  match request with
  | source cls name params level => g.addSource cls name params level session
  | filter cls name params level => g.addFilter cls name params level session
  | sink taker name => g.addSink taker name session

def name : Addition W α → String
  | source _ name .. => name
  | filter _ name .. => name
  | sink _ name => name

def kind : Addition W α → Kind
  | source .. => .source
  | filter .. => .filter
  | sink .. => .sink

def className : Addition W α → Option String
  | source cls .. => some cls.name
  | filter cls .. => some cls.name
  | sink .. => none

def level : Addition W α → LogLevel
  | source _ _ _ level => level
  | filter _ _ _ level => level
  | sink .. => default

/-- The component itself: a class is instantiated, a sink is there already. -/
def made : Addition W α → Act W (Role W α)
  | source cls _ params level => .source <$> cls.instantiate params level
  | filter cls _ params level => .filter <$> cls.instantiate params level
  | sink taker _ => pure (.sink taker .idle)

theorem on_made_source {cls : SourceClass W} {name : String} {params : Params} {level : LogLevel}
    {answer : Except Fault (Source W)} {world after : W}
    (h : (cls.instantiate params level).on world = (answer, after)) :
    (source cls name params level : Addition W α).made.on world =
      (answer.map .source, after) := by
  unfold made
  rw [Act.on_map, h]

theorem on_made_filter {cls : FilterClass W} {name : String} {params : Params} {level : LogLevel}
    {answer : Except Fault (Filter W)} {world after : W}
    (h : (cls.instantiate params level).on world = (answer, after)) :
    (filter cls name params level : Addition W α).made.on world =
      (answer.map .filter, after) := by
  unfold made
  rw [Act.on_map, h]

def calls : Addition W α → List (Hook W)
  | source cls _ params level => [.instantiate cls.name params level]
  | filter cls _ params level => [.instantiate cls.name params level]
  | sink .. => []

/-- What the graph takes, once the component was made and left the world so. -/
def component (request : Addition W α) (role : Role W α) (world : W) : Component W α where
  name := request.name
  className := request.className
  level := request.level
  inputs := .ofCount .input (role.inputCount world)
  outputs := .ofCount .output (role.outputCount world)
  role := role

/-- The room that is reserved for the component, in this order: that for a sink on the list of sinks
comes first. -/
def demands (request : Addition W α) (g : Graph W α) (role : Role W α) (world : W) :
    List Reservation :=
  (if request.kind = .sink then [g.roomForSink] else []) ++
    Reservation.forComponent g.nextId (role.inputCount world) (role.outputCount world)

def opened (request : Addition W α) (session : Session W α) (after : W) : Session W α :=
  ⟨session.toScene.later after,
    request.calls.foldl (fun journal call => journal.record (.hook call)) session.journal⟩

theorem hooks_opened (request : Addition W α) (session : Session W α) (after : W) :
    (request.opened session after).journal.hooks = session.journal.hooks ++ request.calls := by
  cases request with
  | source cls name params level => exact Journal.hooks_record_hook ..
  | filter cls name params level => exact Journal.hooks_record_hook ..
  | sink taker name => exact (List.append_nil _).symm

/-- The reply to a request, told for all three kinds of components at once. -/
def outcome (request : Addition W α) (g : Graph W α) (session : Session W α) :
    Reply W α ComponentId :=
  match g.checkName request.name with
  | .error e => ⟨.error e, g, session⟩
  | .ok () =>
    match request.made.on session.world with
    | (.error fault, after) =>
      ⟨.error (.instantiation (request.className.getD "") fault), g, request.opened session after⟩
    | (.ok role, after) =>
      match session.memory.reserveAll (request.demands g role after) with
      | .error reason => ⟨.error (.allocation reason), g, request.opened session after⟩
      | .ok () =>
        let c := request.component role after
        ⟨.ok g.nextId, g.accept c, (request.opened session after).log
          (.added c.kind c.name g.nextId c.className c.inputs.size c.outputs.size c.level)⟩

theorem reserve_no_ports (memory : Memory) (owner : ComponentId) (direction : Direction) :
    memory.reserve ⟨.ports owner direction, 0, 0⟩ = .ok () :=
  memory.reserve_of_le (Nat.le_refl 0)

theorem on_source_eq (cls : SourceClass W) (name : String) (params : Params) (level : LogLevel)
    (g : Graph W α) (session : Session W α) :
    g.addSource cls name params level session =
      (source cls name params level).outcome g session := by
  unfold outcome Graph.addSource made
  change (match g.checkName name with | .error e => _ | .ok () => _) =
    (match g.checkName name with | .error e => _ | .ok () => _)
  cases g.checkName name with
  | error e => rfl
  | ok _ =>
    simp only [Act.on_map]
    rcases hon : (cls.instantiate params level).on session.world with ⟨fault | inner, after⟩
    · rw [Session.ask_of_on hon]
      rfl
    · rw [Session.ask_of_on hon]
      dsimp only [Except.map]
      rw [Memory.makePorts_eq]
      simp only [demands, kind, reduceCtorEq, if_false, List.nil_append,
        Reservation.forComponent, Memory.reserveAll, Role.inputCount, Role.outputCount,
        reserve_no_ports]
      cases session.memory.reserve ⟨.ports g.nextId .output, 0, inner.outputCount after⟩ with
      | error reason => rfl
      | ok _ =>
        dsimp only [Except.map]
        rw [← show g.roomForComponent = .next .components g.nextId.index from rfl]
        unfold Graph.push
        cases session.memory.reserve g.roomForComponent <;> rfl

theorem on_filter_eq (cls : FilterClass W) (name : String) (params : Params) (level : LogLevel)
    (g : Graph W α) (session : Session W α) :
    g.addFilter cls name params level session =
      (filter cls name params level).outcome g session := by
  unfold outcome Graph.addFilter made
  change (match g.checkName name with | .error e => _ | .ok () => _) =
    (match g.checkName name with | .error e => _ | .ok () => _)
  cases g.checkName name with
  | error e => rfl
  | ok _ =>
    simp only [Act.on_map]
    rcases hon : (cls.instantiate params level).on session.world with ⟨fault | inner, after⟩
    · rw [Session.ask_of_on hon]
      rfl
    · rw [Session.ask_of_on hon]
      dsimp only [Except.map]
      rw [Memory.makePorts_eq, Memory.makePorts_eq]
      simp only [demands, kind, reduceCtorEq, if_false, List.nil_append,
        Reservation.forComponent, Memory.reserveAll, Role.inputCount, Role.outputCount]
      cases session.memory.reserve ⟨.ports g.nextId .input, 0, inner.inputCount after⟩ with
      | error reason => rfl
      | ok _ =>
        dsimp only [Except.map]
        cases session.memory.reserve ⟨.ports g.nextId .output, 0, inner.outputCount after⟩ with
        | error reason => rfl
        | ok _ =>
          dsimp only [Except.map]
          rw [← show g.roomForComponent = .next .components g.nextId.index from rfl]
          unfold Graph.push
          cases session.memory.reserve g.roomForComponent <;> rfl

theorem on_sink_eq (taker : Sink W α) (name : String) (g : Graph W α) (session : Session W α) :
    g.addSink taker name session = (sink taker name).outcome g session := by
  unfold outcome Graph.addSink made
  change (match g.checkName name with | .error e => _ | .ok () => _) =
    (match g.checkName name with | .error e => _ | .ok () => _)
  cases g.checkName name with
  | error e => rfl
  | ok _ =>
    change _ = match session.memory.reserveAll _ with | .error reason => _ | .ok () => _
    simp only [demands, kind, if_true, List.singleton_append, Reservation.forComponent,
      Memory.reserveAll, Role.inputCount, Role.outputCount, reserve_no_ports, Memory.makePorts_eq]
    cases session.memory.reserve g.roomForSink with
    | error reason => rfl
    | ok _ =>
      dsimp only
      cases session.memory.reserve ⟨.ports g.nextId .input, 0, 1⟩ with
      | error reason => rfl
      | ok _ =>
        dsimp only [Except.map]
        rw [← show g.roomForComponent = .next .components g.nextId.index from rfl]
        unfold Graph.push
        cases session.memory.reserve g.roomForComponent <;> rfl

theorem on_eq (request : Addition W α) (g : Graph W α) (session : Session W α) :
    request.on g session = request.outcome g session := by
  cases request with
  | source cls name params level => exact on_source_eq cls name params level g session
  | filter cls name params level => exact on_filter_eq cls name params level g session
  | sink taker name => exact on_sink_eq taker name g session

/-! ## When a request is declined -/

structure Open (request : Addition W α) (g : Graph W α) : Prop where
  state : g.state = .configuring
  name : g.find? request.name = none

/-- The component can be made in the scene, and there is room for all that it demands. -/
def Accommodated (request : Addition W α) (g : Graph W α) (scene : Scene W α) : Prop :=
  ∃ role after, request.made.on scene.world = (.ok role, after) ∧
    ∀ demand ∈ request.demands g role after, scene.memory.reserve demand = .ok ()

/-- Why a request is declined in a graph and a scene: the first of these reasons that there is. -/
inductive Declined (request : Addition W α) (g : Graph W α) (scene : Scene W α) :
    GraphError → Prop where
  | started (h : g.state ≠ .configuring) : Declined request g scene .alreadyRunning
  | taken (hstate : g.state = .configuring) (h : g.find? request.name ≠ none) :
      Declined request g scene (.duplicateName request.name)
  | instantiation {className : String} {fault : Fault} {after : W} (hopen : request.Open g)
      (hclass : request.className = some className)
      (h : request.made.on scene.world = (.error fault, after)) :
      Declined request g scene (.instantiation className fault)
  /-- All demands up to one were granted, and that one is refused. -/
  | allocation {role : Role W α} {after : W} {earlier later : List Reservation}
      {refused : Reservation} {reason : String} (hopen : request.Open g)
      (hmade : request.made.on scene.world = (.ok role, after))
      (hdemands : request.demands g role after = earlier ++ refused :: later)
      (hgranted : ∀ demand ∈ earlier, scene.memory.reserve demand = .ok ())
      (h : scene.memory.reserve refused = .error reason) :
      Declined request g scene (.allocation reason)

/-- What a request leaves that was declined: its calls, and those only if the name was open. -/
structure Dismissed (request : Addition W α) (g : Graph W α) (session : Session W α)
    (reply : Reply W α ComponentId) : Prop where
  graph : reply.graph = g
  unasked : ¬ request.Open g → reply.session = session
  hooks : request.Open g →
    reply.session.journal.hooks = session.journal.hooks ++ request.calls

/-- What a request leaves that was granted: one component more, under its name. -/
structure Granted (request : Addition W α) (g : Graph W α) (session : Session W α)
    (reply : Reply W α ComponentId) : Prop where
  id : reply.answer = .ok ⟨g.componentCount⟩
  component : ∃ role, request.made.on session.world = (.ok role, reply.session.world) ∧
    reply.graph.components = g.components ++ [request.component role reply.session.world]
  found : reply.graph.find? request.name = some ⟨g.componentCount⟩
  others : ∀ name, name ≠ request.name → reply.graph.find? name = g.find? name
  sinks : reply.graph.sinks = g.sinks ++ if request.kind = .sink then [⟨g.componentCount⟩] else []
  rest : reply.graph = { g with
    components := reply.graph.components, names := reply.graph.names, sinks := reply.graph.sinks }
  hooks : reply.session.journal.hooks = session.journal.hooks ++ request.calls

section

variable {request : Addition W α} {g : Graph W α} {session : Session W α} {after : W}

theorem Open.checkName (h : request.Open g) : g.checkName request.name = .ok () :=
  Graph.checkName_eq_ok_iff.mpr ⟨h.state, h.name⟩

theorem className_of_fault {fault : Fault}
    (h : request.made.on session.world = (.error fault, after)) :
    ∃ className, request.className = some className := by
  cases request with
  | source cls name params level => exact ⟨_, rfl⟩
  | filter cls name params level => exact ⟨_, rfl⟩
  | sink taker name => cases h

theorem kind_of_made {role : Role W α}
    (h : request.made.on session.world = (.ok role, after)) : role.kind = request.kind := by
  cases request with
  | source cls name params level =>
    obtain ⟨inner, -, rfl⟩ := Act.ok_map h
    rfl
  | filter cls name params level =>
    obtain ⟨inner, -, rfl⟩ := Act.ok_map h
    rfl
  | sink taker name =>
    cases h
    rfl

theorem on_of_started (h : g.state ≠ .configuring) :
    request.on g session = ⟨.error .alreadyRunning, g, session⟩ := by
  rw [on_eq]
  unfold outcome
  rw [show g.checkName request.name = .error .alreadyRunning from if_pos h]

theorem on_of_taken (hstate : g.state = .configuring) (h : g.find? request.name ≠ none) :
    request.on g session = ⟨.error (.duplicateName request.name), g, session⟩ := by
  have hname : g.checkName request.name = .error (.duplicateName request.name) := by
    unfold Graph.checkName
    rw [if_neg (not_not.mpr hstate), if_pos (Option.isSome_iff_ne_none.mpr h)]
  rw [on_eq]
  unfold outcome
  rw [hname]

theorem on_of_fault (hopen : request.Open g) {className : String} {fault : Fault}
    (hclass : request.className = some className)
    (h : request.made.on session.world = (.error fault, after)) :
    request.on g session =
      ⟨.error (.instantiation className fault), g, request.opened session after⟩ := by
  rw [on_eq]
  unfold outcome
  rw [hopen.checkName]
  dsimp only
  rw [h, hclass]
  rfl

theorem on_of_refused (hopen : request.Open g) {role : Role W α} {reason : String}
    (hmade : request.made.on session.world = (.ok role, after))
    (h : session.memory.reserveAll (request.demands g role after) = .error reason) :
    request.on g session = ⟨.error (.allocation reason), g, request.opened session after⟩ := by
  rw [on_eq]
  unfold outcome
  rw [hopen.checkName]
  dsimp only
  rw [hmade]
  dsimp only
  rw [h]

theorem on_of_room (hopen : request.Open g) {role : Role W α}
    (hmade : request.made.on session.world = (.ok role, after))
    (h : session.memory.reserveAll (request.demands g role after) = .ok ()) :
    ∃ line, request.on g session =
      ⟨.ok g.nextId, g.accept (request.component role after),
        (request.opened session after).log line⟩ := by
  rw [on_eq]
  unfold outcome
  rw [hopen.checkName]
  dsimp only
  rw [hmade]
  dsimp only
  rw [h]
  exact ⟨_, rfl⟩

theorem answer_of_declined {e : GraphError} (h : request.Declined g session.toScene e) :
    (request.on g session).answer = .error e := by
  cases h with
  | started h => rw [on_of_started h]
  | taken hstate h => rw [on_of_taken hstate h]
  | instantiation hopen hclass h => rw [on_of_fault hopen hclass h]
  | allocation hopen hmade hdemands hgranted h =>
    have hrefused := Memory.reserveAll_eq_error_iff.mpr ⟨_, _, _, hdemands, hgranted, h⟩
    rw [on_of_refused hopen hmade hrefused]

theorem declined_of_checkName {e : GraphError} (h : g.checkName request.name = .error e)
    (scene : Scene W α) : request.Declined g scene e ∧ ¬ request.Open g := by
  have hclosed : ¬ request.Open g := fun hopen => by
    rw [hopen.checkName] at h
    cases h
  unfold Graph.checkName at h
  split at h
  · next hstate =>
    cases h
    exact ⟨.started hstate, hclosed⟩
  · next hstate =>
    split at h
    · next hname =>
      cases h
      exact ⟨.taken (not_not.mp hstate) (Option.isSome_iff_ne_none.mp hname), hclosed⟩
    · cases h

theorem granted_of_made {role : Role W α} {line : LogLine}
    (hmade : request.made.on session.world = (.ok role, after)) :
    request.Granted g session ⟨.ok g.nextId, g.accept (request.component role after),
      (request.opened session after).log line⟩ where
  id := rfl
  component := ⟨role, hmade, rfl⟩
  found := OrderedMap.get?_insert_self ..
  others name hname := OrderedMap.get?_insert_of_ne _ hname _
  sinks := by
    have hkind : (request.component role after).kind = request.kind := kind_of_made hmade
    change (if _ then _ else _) = _
    rw [hkind]
    split
    · rfl
    · exact (List.append_nil _).symm
  rest := rfl
  hooks := (Session.hooks_log _ _).trans (hooks_opened ..)

theorem declined_or_granted (request : Addition W α) (g : Graph W α) (session : Session W α) :
    (∃ e, request.Declined g session.toScene e ∧ (request.on g session).answer = .error e ∧
      request.Dismissed g session (request.on g session)) ∨
    request.Granted g session (request.on g session) := by
  rw [on_eq]
  unfold outcome
  rcases hname : g.checkName request.name with e | ⟨⟩
  · obtain ⟨hdeclined, hclosed⟩ := declined_of_checkName hname session.toScene
    exact .inl ⟨e, hdeclined, rfl, rfl, fun _ => rfl, fun hopen => absurd hopen hclosed⟩
  · obtain ⟨hstate, hfree⟩ := Graph.checkName_eq_ok_iff.mp hname
    have hopen : request.Open g := ⟨hstate, hfree⟩
    have hdismissed (e : GraphError) (after : W) :
        request.Dismissed g session ⟨.error e, g, request.opened session after⟩ :=
      ⟨rfl, fun hclosed => absurd hopen hclosed, fun _ => hooks_opened ..⟩
    rcases hmade : request.made.on session.world with ⟨fault | role, after⟩
    · obtain ⟨className, hclass⟩ := className_of_fault hmade
      refine .inl ⟨_, .instantiation hopen hclass hmade, ?_, hdismissed _ after⟩
      rw [hclass]
      rfl
    · dsimp only
      rcases hroom : session.memory.reserveAll (request.demands g role after) with reason | ⟨⟩
      · obtain ⟨_, _, _, hdemands, hgranted, hrefused⟩ := Memory.reserveAll_eq_error_iff.mp hroom
        exact .inl ⟨_, .allocation hopen hmade hdemands hgranted hrefused, rfl,
          hdismissed _ after⟩
      · exact .inr (granted_of_made hmade)

theorem answer_eq_error_iff {e : GraphError} :
    (request.on g session).answer = .error e ↔ request.Declined g session.toScene e := by
  refine ⟨fun h => ?_, answer_of_declined⟩
  rcases declined_or_granted request g session with ⟨cause, hdeclined, hanswer, -⟩ | hgranted
  · cases hanswer.symm.trans h
    exact hdeclined
  · cases hgranted.id.symm.trans h

theorem answer_of_accommodated (hopen : request.Open g)
    (h : request.Accommodated g session.toScene) :
    (request.on g session).answer = .ok ⟨g.componentCount⟩ := by
  obtain ⟨role, after, hmade, hroom⟩ := h
  obtain ⟨line, hon⟩ := on_of_room hopen hmade (Memory.reserveAll_eq_ok_iff.mpr hroom)
  rw [hon]
  rfl

theorem accommodated_of_answer {id : ComponentId} (h : (request.on g session).answer = .ok id) :
    request.Accommodated g session.toScene := by
  rw [on_eq] at h
  unfold outcome at h
  split at h
  · cases h
  · split at h
    · cases h
    · next role after hmade =>
      split at h
      · cases h
      · next hroom => exact ⟨role, after, hmade, Memory.reserveAll_eq_ok_iff.mp hroom⟩

end

/--
A request to add a component is declined for the first reason that there is, and then the graph is
left as it was: nothing was made if the graph has started or the name is in use, and otherwise the
name is still free, and is given to whatever asks for it next and can be accommodated. A request
that is not declined adds one component and nothing else, found under its name by the number of
components that there were.
-/
theorem all_or_nothing (request : Addition W α) (g : Graph W α) (session : Session W α) :
    (∀ e, (request.on g session).answer = .error e ↔ request.Declined g session.toScene e) ∧
    (∀ e, (request.on g session).answer = .error e →
      request.Dismissed g session (request.on g session) ∧
      (request.Open g → ∀ retry : Addition W α, retry.name = request.name →
        ∀ later : Session W α, retry.Accommodated g later.toScene →
          (retry.on (request.on g session).graph later).answer = .ok ⟨g.componentCount⟩)) ∧
    ∀ id, (request.on g session).answer = .ok id →
      request.Granted g session (request.on g session) := by
  refine ⟨fun e => answer_eq_error_iff, ?_⟩
  rcases declined_or_granted request g session with ⟨e, -, hanswer, hdismissed⟩ | hgranted
  · refine ⟨fun _ _ => ⟨hdismissed, ?_⟩, fun id h => ?_⟩
    · intro hopen retry hname later hroom
      rw [hdismissed.graph]
      exact answer_of_accommodated ⟨hopen.state, hname ▸ hopen.name⟩ hroom
    · cases hanswer.symm.trans h
  · refine ⟨fun e h => ?_, fun _ _ => hgranted⟩
    cases hgranted.id.symm.trans h

def swelling : Addition Nat Unit := filter Graph.swell "swell" .empty .info

/-- A sink that asks for the name of the filter. -/
def crowding : Addition Nat Unit := sink Graph.cup "swell"

theorem all_or_nothing_swelling :
    swelling.Open .empty ∧
      (∃ reason, (swelling.on .empty ⟨.plain (Nat.pow 2 62), .empty⟩).answer =
        .error (.allocation reason)) ∧
      (swelling.on .empty ⟨.plain (Nat.pow 2 62), .empty⟩).graph = .empty ∧
      (∃ reason, (crowding.on .empty ⟨⟨1, (), .without .sinks⟩, .empty⟩).answer =
        .error (.allocation reason)) ∧
      (swelling.on (crowding.on .empty ⟨⟨1, (), .without .sinks⟩, .empty⟩).graph
        ⟨.plain 1, .empty⟩).answer = .ok ⟨0⟩ ∧
      swelling.Granted .empty ⟨.plain 1, .empty⟩ (swelling.on .empty ⟨.plain 1, .empty⟩) := by
  have hopen : swelling.Open .empty := ⟨rfl, rfl⟩
  have hopen' : crowding.Open .empty := ⟨rfl, rfl⟩
  have hports : swelling.Declined .empty (.plain (Nat.pow 2 62)) (.allocation _) :=
    .allocation hopen rfl (show _ = [] ++ _ :: _ from rfl) nofun rfl
  have hrow : crowding.Declined .empty ⟨1, (), .without .sinks⟩ (.allocation _) :=
    .allocation hopen' rfl (show _ = [] ++ _ :: _ from rfl) nofun rfl
  obtain ⟨hiff, hdismissed, -⟩ := all_or_nothing swelling .empty ⟨.plain (Nat.pow 2 62), .empty⟩
  obtain ⟨hiff', hdismissed', -⟩ :=
    all_or_nothing crowding .empty ⟨⟨1, (), .without .sinks⟩, .empty⟩
  have hanswer := (hiff _).mpr hports
  have hanswer' := (hiff' _).mpr hrow
  exact ⟨hopen, ⟨_, hanswer⟩, (hdismissed _ hanswer).1.graph, ⟨_, hanswer'⟩,
    (hdismissed' _ hanswer').2 hopen' swelling rfl ⟨.plain 1, .empty⟩ ⟨_, _, rfl, by decide⟩,
    (all_or_nothing swelling .empty ⟨.plain 1, .empty⟩).2.2 _ rfl⟩

end Addition

end TraceFlow
