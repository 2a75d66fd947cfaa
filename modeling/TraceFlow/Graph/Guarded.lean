import TraceFlow.Graph.Command

/-!
# Operations that take nothing for granted

A graph often looks something up that it numbered itself: the components at the ends of a
connection, the connection that a port holds, the sink whose turn it is. The operations rely on
finding it. Here they are carried out once more with every such look-up watched, and with every way
out watched that is there only for a graph that contradicts itself. The first of these that comes up
is a breach, and nothing comes after it.
-/

namespace TraceFlow

/-- What an operation relied on and did not find. -/
inductive Breach where
  | noComponent (id : ComponentId)
  | noConnection (id : ConnectionId)
  | noPort (port : PortRef)
  /-- The cursor points behind the last sink. -/
  | noSinkAt (cursor : Nat)
  /-- The turn was to pass on among no sinks at all. -/
  | noSinks
  /-- A component on the list of sinks is none. -/
  | notSink (id : ComponentId)
  /-- A sink has not ended and has nothing to read from. -/
  | unfed (id : ComponentId)
  /-- Every sink has been passed over, and not all of them have ended. -/
  | nobodyServed
  /-- An iterator is to be made behind a port of a sink. -/
  | behindSink (id : ComponentId)
  /-- The walk against the connections went through more components than there are. -/
  | endless (port : PortRef)
deriving DecidableEq, Repr

/-- What an operation comes to, unless it meets a breach. -/
abbrev Guarded (β : Type) := Except Breach β

namespace Guarded

variable {W α : Type}

/-! ## Look-ups -/

def component (g : Graph W α) (id : ComponentId) : Guarded (Component W α) :=
  match g.component? id with
  | some c => .ok c
  | none => .error (.noComponent id)

def name (g : Graph W α) (id : ComponentId) : Guarded String := do
  let c ← component g id
  return c.name

def origin (g : Graph W α) (id : ConnectionId) : Guarded PortRef :=
  match g.origin? id with
  | some port => .ok port
  | none => .error (.noConnection id)

def sinkAt (g : Graph W α) (cursor : Nat) : Guarded ComponentId :=
  match g.sinks[cursor]? with
  | some id => .ok id
  | none => .error (.noSinkAt cursor)

def sink (c : Component W α) (id : ComponentId) : Guarded (Sink W α × SinkPhase W) :=
  match c.sink? with
  | some found => .ok found
  | none => .error (.notSink id)

/-! ## Connections -/

def checkConnection (g : Graph W α) (upstream downstream : PortRef) :
    Guarded (Except GraphError Unit) := do
  if g.state ≠ .configuring then return .error .alreadyRunning
  match g.checkPort upstream .output, g.checkPort downstream .input with
  | .error e, _ => return .error e
  | .ok (), .error e => return .error e
  | .ok (), .ok () =>
    if upstream.component = downstream.component then
      return .error (.selfConnection (← name g upstream.component))
    if g.leadsTo downstream.component upstream.component then
      let first ← name g upstream.component
      let last ← name g downstream.component
      return .error (.cycleDetected first last)
    return .ok ()

/-- The port takes a connection; it must be there. -/
def attach (g : Graph W α) (port : PortRef) (id : ConnectionId) : Guarded (Graph W α) := do
  let c ← component g port.component
  match (c.table port.direction).port? port.index with
  | none => throw (.noPort port)
  | some _ => return g.attach port id

def link (g : Graph W α) (upstream downstream : PortRef) : Guarded (Graph W α) := do
  let id : ConnectionId := ⟨g.connections.length⟩
  let joined : Graph W α := { g with connections := g.connections ++ [⟨id, upstream, downstream⟩] }
  let first ← attach joined upstream id
  attach first downstream id

def announce (g : Graph W α) (port : PortRef) (session : Session W α) :
    Guarded (Except GraphError (Graph W α) × Session W α) := do
  let _ ← component g port.component
  return g.announce port session

def connect (g : Graph W α) (upstream downstream : PortRef) (session : Session W α) :
    Guarded (Reply W α ConnectionId) := do
  match ← checkConnection g upstream downstream with
  | .error e => return ⟨.error e, g, session⟩
  | .ok () =>
    match session.memory.reserve g.roomForConnection with
    | .error reason => return ⟨.error (.allocation reason), g, session⟩
    | .ok () =>
      let linked ← link g upstream downstream
      match ← announce linked downstream session with
      | (.error e, session) => return ⟨.error e, linked, session⟩
      | (.ok graph, session) =>
        let id : ConnectionId := ⟨g.connections.length⟩
        let first ← name graph upstream.component
        let last ← name graph downstream.component
        return { answer := .ok id, graph
                 session := session.log
                   (.connected first upstream.index last downstream.index id) }

/-! ## Iterators -/

def makeEach {ι β : Type} (make : ι → Session W α → Guarded (Made W α β)) :
    List ι → Session W α → Guarded (Made W α (List β))
  | [], session => return (.ok [], session)
  | item :: rest, session => do
    match ← make item session with
    | (.error e, session) => return (.error e, session)
    | (.ok made, session) =>
      match ← makeEach make rest session with
      | (.error e, session) => return (.error e, session)
      | (.ok others, session) => return (.ok (made :: others), session)

/-- The output ports that feed some input ports; those that are not connected are skipped. -/
def feeders (g : Graph W α) : List Port → Guarded (List PortRef)
  | [] => return []
  | port :: rest =>
    match port.connection with
    | none => feeders g rest
    | some id => do
      let first ← origin g id
      let others ← feeders g rest
      return first :: others

def walk (g : Graph W α) (make : PortRef → Session W α → Guarded (Made W α (Iterator W)))
    (port : PortRef) (session : Session W α) : Guarded (Made W α (Iterator W)) := do
  let c ← component g port.component
  match c.role with
  | .source source => return Graph.askIterator c.name port [] (source.iterator port.index) session
  | .filter filter =>
    let ports ← feeders g c.inputs.ports
    match ← makeEach make ports session with
    | (.error e, session) => return (.error e, session)
    | (.ok upstream, session) =>
      return Graph.askIterator c.name port upstream (filter.iterator port.index upstream) session
  | .sink .. => throw (.behindSink port.component)

def iteratorWithin (g : Graph W α) :
    (depth : Nat) → PortRef → Session W α → Guarded (Made W α (Iterator W))
  | 0, port, _ => throw (.endless port)
  | depth + 1, port, session => walk g (iteratorWithin g depth) port session

def iterator (g : Graph W α) (port : PortRef) (session : Session W α) :
    Guarded (Made W α (Iterator W)) :=
  iteratorWithin g g.componentCount port session

/-! ## The first step -/

/-- The output port that feeds the last of some input ports, all of which must be connected. -/
def sinkFeeder (g : Graph W α) (name : String) :
    (inputs : List Port) → (found : Option PortRef) → Guarded (Except GraphError (Option PortRef))
  | [], found => return .ok found
  | port :: rest, _ =>
    match port.connection with
    | none => return .error (.unconnectedSink name port.index)
    | some id => do
      let found ← origin g id
      sinkFeeder g name rest (some found)

def openSink (g : Graph W α) (id : ComponentId) (session : Session W α) :
    Guarded (Reply W α Unit) := do
  let c ← component g id
  match ← sinkFeeder g c.name c.inputs.ports none with
  | .error e => return ⟨.error e, g, session⟩
  | .ok none => throw (.unfed id)
  | .ok (some port) =>
    match ← iterator g port session with
    | (.error e, session) => return ⟨.error e, g, session⟩
    | (.ok upstream, session) =>
      let _ ← sink c id
      return ⟨.ok (), g.modify id (·.setPhase (.reading upstream)), session⟩

def openSinks (g : Graph W α) : List ComponentId → Session W α → Guarded (Reply W α Unit)
  | [], session => return ⟨.ok (), g, session⟩
  | id :: rest, session => do
    match ← openSink g id session with
    | ⟨.error e, g, session⟩ => return ⟨.error e, g, session⟩
    | ⟨.ok (), g, session⟩ => openSinks g rest session

def setUpSink (g : Graph W α) (id : ComponentId) (session : Session W α) :
    Guarded (Made W α Unit) := do
  let c ← component g id
  let (sink, _) ← sink c id
  match session.ask sink.setUp (.setUp id) with
  | (.error fault, session) => return (.error (.sink c.name fault), session)
  | (.ok (), session) => return (.ok (), session)

def configure (g : Graph W α) (session : Session W α) : Guarded (Reply W α Unit) := do
  if g.sinks.isEmpty then return ⟨.error .noSink, g, session⟩
  match ← openSinks g g.sinks session with
  | ⟨.error e, g, session⟩ => return ⟨.error e, g, session⟩
  | ⟨.ok (), g, session⟩ =>
    match ← makeEach (setUpSink g) g.sinks session with
    | (.error e, session) => return ⟨.error e, g, session⟩
    | (.ok _, session) =>
      return { answer := .ok ()
               graph := { g with state := .running }
               session := session.log
                 (.running g.components.length g.connections.length g.sinks.length) }

/-! ## Every step -/

def allEnded (g : Graph W α) : List ComponentId → Guarded Bool
  | [] => return true
  | id :: rest => do
    let c ← component g id
    let _ ← sink c id
    if c.hasEnded then allEnded g rest else return false

def settle (g : Graph W α) (otherwise : Status) (session : Session W α) :
    Guarded (Reply W α Status) := do
  if ← allEnded g g.sinks then
    return ⟨.ok .ended, { g with state := .ended }, session.log (.allEnded (g.steps + 1))⟩
  return ⟨.ok otherwise, g, session⟩

def consume (g : Graph W α) (id : ComponentId) (name : String) (sink : Sink W α)
    (upstream : Iterator W) (session : Session W α) : Guarded (Reply W α Status) :=
  match session.ask (sink.consume upstream) (.consume id upstream) with
  | (.error fault, session) => return ⟨.error (.sink name fault), g, session⟩
  | (.ok .ok, session) => return ⟨.ok .ok, g, session⟩
  | (.ok .again, session) => return ⟨.ok .again, g, session⟩
  | (.ok .ended, session) =>
    settle (g.modify id (·.setPhase .ended)) .ok (session.log (.sinkEnded name))

def advance (g : Graph W α) : Guarded (Graph W α) :=
  if g.sinks.length = 0 then throw .noSinks else return g.advance

def feedWithin : Graph W α → (turns : Nat) → Session W α → Guarded (Reply W α Status)
  | g, 0, session => do
    if ← allEnded g g.sinks then settle g .again session else throw .nobodyServed
  | g, turns + 1, session => do
    let id ← sinkAt g g.cursor
    let g ← advance g
    let c ← component g id
    match ← sink c id with
    | (sink, .reading upstream) => consume g id c.name sink upstream session
    | (_, .idle) => throw (.unfed id)
    | (_, .ended) => feedWithin g turns session

def feed (g : Graph W α) (session : Session W α) : Guarded (Reply W α Status) :=
  feedWithin g g.sinks.length session

def run (g : Graph W α) (session : Session W α) : Guarded (Reply W α Status) := do
  match g.state with
  | .ended => return ⟨.ok .ended, g, session⟩
  | .faulted => return ⟨.error .faulted, g, session⟩
  | .running => return Graph.conclude (← feed g session)
  | .configuring =>
    match ← configure g session with
    | ⟨.error e, g, session⟩ =>
      return ⟨.error e, { g with state := .faulted }, session.log (.configurationFailed e)⟩
    | ⟨.ok (), g, session⟩ => return Graph.conclude (← feed g session)

/-! ## Commands -/

/-- Carries a command out. Adding a component looks nothing up. -/
def on (command : Command W α) (g : Graph W α) (session : Session W α) :
    Guarded (Reply W α Answer) :=
  match command with
  | .connect upstream downstream => do
    let reply ← connect g upstream downstream session
    return reply.map .connection
  | .run => do
    let reply ← run g session
    return reply.map .status
  | command => return command.on g session

end Guarded

end TraceFlow
