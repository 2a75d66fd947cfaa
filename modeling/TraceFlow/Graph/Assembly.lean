import TraceFlow.Graph.Reach

/-!
# Putting a graph together

Components are added under names of their own, and output ports are joined to input ports. A request
that is refused by a check, or for which a table has no room, leaves everything as it was.
-/

namespace TraceFlow.Graph

variable {W α : Type}

/-- A new graph, with room for some components and connections. -/
def create (memory : Memory) : Except GraphError (Graph W α) :=
  match memory.reserve (.initial .components) with
  | .error reason => .error (.allocation reason)
  | .ok () =>
    match memory.reserve (.initial .connections) with
    | .error reason => .error (.allocation reason)
    | .ok () => .ok empty

/-! ## Components -/

def checkName (g : Graph W α) (name : String) : Except GraphError Unit :=
  if g.state ≠ .configuring then .error .alreadyRunning
  else if (g.find? name).isSome then .error (.duplicateName name)
  else .ok ()

def roomForComponent (g : Graph W α) : Reservation := .next .components g.components.length

def roomForSink (g : Graph W α) : Reservation := .next .sinks g.sinks.length

def roomForConnection (g : Graph W α) : Reservation := .next .connections g.connections.length

/-- The graph with one component more, at the end and under its name. -/
def place (g : Graph W α) (c : Component W α) : Graph W α :=
  { g with
    components := g.components ++ [c]
    names := g.names.insert c.name g.nextId }

/-- Adds a component that has been made, if there is room for it. -/
def push (g : Graph W α) (c : Component W α) (session : Session W α) : Reply W α ComponentId :=
  match session.memory.reserve g.roomForComponent with
  | .error reason => ⟨.error (.allocation reason), g, session⟩
  | .ok () =>
    { answer := .ok g.nextId
      graph := g.place c
      session := session.log
        (.added c.kind c.name g.nextId c.className c.inputs.size c.outputs.size c.level) }

/-- Instantiates a class and adds the source under a name. -/
def addSource (g : Graph W α) (cls : SourceClass W) (name : String) (params : Params)
    (level : LogLevel) (session : Session W α) : Reply W α ComponentId :=
  match g.checkName name with
  | .error e => ⟨.error e, g, session⟩
  | .ok () =>
    match session.ask (cls.instantiate params level).beside
      fun _ => .instantiate cls.name params level with
    | (.error fault, session) => ⟨.error (.instantiation cls.name fault), g, session⟩
    | (.ok source, session) =>
      match session.memory.makePorts g.nextId .output (source.outputCount session.world) with
      | .error reason => ⟨.error (.allocation reason), g, session⟩
      | .ok outputs =>
        g.push
          { name, className := some cls.name, level, inputs := .ofCount .input 0, outputs
            role := .source source }
          session

/-- Instantiates a class and adds the filter under a name. -/
def addFilter (g : Graph W α) (cls : FilterClass W) (name : String) (params : Params)
    (level : LogLevel) (session : Session W α) : Reply W α ComponentId :=
  match g.checkName name with
  | .error e => ⟨.error e, g, session⟩
  | .ok () =>
    match session.ask (cls.instantiate params level).beside
      fun _ => .instantiate cls.name params level with
    | (.error fault, session) => ⟨.error (.instantiation cls.name fault), g, session⟩
    | (.ok filter, session) =>
      match session.memory.makePorts g.nextId .input (filter.inputCount session.world) with
      | .error reason => ⟨.error (.allocation reason), g, session⟩
      | .ok inputs =>
        match session.memory.makePorts g.nextId .output (filter.outputCount session.world) with
        | .error reason => ⟨.error (.allocation reason), g, session⟩
        | .ok outputs =>
          g.push
            { name, className := some cls.name, level, inputs, outputs, role := .filter filter }
            session

/-- The graph with one sink more on its list. -/
def enlist (g : Graph W α) (id : ComponentId) : Graph W α := { g with sinks := g.sinks ++ [id] }

/-- Adds a sink under a name: one input port, no class, the usual log level. A place on the list of
sinks is reserved before all else. -/
def addSink (g : Graph W α) (sink : Sink W α) (name : String) (session : Session W α) :
    Reply W α ComponentId :=
  match g.checkName name with
  | .error e => ⟨.error e, g, session⟩
  | .ok () =>
    match session.memory.reserve g.roomForSink with
    | .error reason => ⟨.error (.allocation reason), g, session⟩
    | .ok () =>
      match session.memory.makePorts g.nextId .input 1 with
      | .error reason => ⟨.error (.allocation reason), g, session⟩
      | .ok inputs =>
        let c : Component W α :=
          { name, className := none, level := default, inputs, outputs := .ofCount .output 0
            role := .sink sink .idle }
        match g.push c session with
        | ⟨.error e, g, session⟩ => ⟨.error e, g, session⟩
        | ⟨.ok id, g, session⟩ => ⟨.ok id, g.enlist id, session⟩

/-! ## Connections -/

/-- The port is there, is of the expected direction and holds no connection. -/
def checkPort (g : Graph W α) (port : PortRef) (expected : Direction) : Except GraphError Unit :=
  match g.component? port.component with
  | none => .error (.unknownComponent port.component)
  | some c =>
    if port.direction ≠ expected then .error (.wrongDirection c.name port.index expected)
    else
      match (c.table expected).port? port.index with
      | none => .error (.portOutOfRange c.name expected port.index (c.table expected).size)
      | some found =>
        if found.isConnected then .error (.portAlreadyConnected c.name expected port.index)
        else .ok ()

/-- The two ports may be joined: both are free and no cycle arises. -/
def checkConnection (g : Graph W α) (upstream downstream : PortRef) : Except GraphError Unit := do
  if g.state ≠ .configuring then throw .alreadyRunning
  g.checkPort upstream .output
  g.checkPort downstream .input
  if upstream.component = downstream.component then
    throw (.selfConnection (g.nameOf upstream.component))
  if g.leadsTo downstream.component upstream.component then
    throw (.cycleDetected (g.nameOf upstream.component) (g.nameOf downstream.component))

/-- The port takes a connection. -/
def attach (g : Graph W α) (port : PortRef) (id : ConnectionId) : Graph W α :=
  g.modify port.component fun c => c.modifyTable port.direction (·.attach port.index (some id))

/-- Records a connection and lets both of its ports take it. -/
def link (g : Graph W α) (upstream downstream : PortRef) : Graph W α :=
  let id : ConnectionId := ⟨g.connections.length⟩
  let joined : Graph W α := { g with connections := g.connections ++ [⟨id, upstream, downstream⟩] }
  (joined.attach upstream id).attach downstream id

/-- Tells a filter that an input port of it was connected, and adds the ports that it asks for. -/
def announce (g : Graph W α) (port : PortRef) (session : Session W α) :
    Except GraphError (Graph W α) × Session W α :=
  match g.component? port.component with
  | some { role := .filter filter, inputs, .. } =>
    let session := session.tell (Prod.map (filter.inputConnected port.index) id)
      (.inputConnected port.component port.index)
    match session.memory.growTo port.component inputs (filter.inputCount session.world) with
    | .error reason => (.error (.allocation reason), session)
    | .ok inputs => (.ok (g.modify port.component fun c => { c with inputs }), session)
  | _ => (.ok g, session)

/--
Joins an output port to an input port. The connection is made before the filter behind the input
port is told, so it stands also when the ports that the filter then asks for cannot be had.
-/
def connect (g : Graph W α) (upstream downstream : PortRef) (session : Session W α) :
    Reply W α ConnectionId :=
  match g.checkConnection upstream downstream with
  | .error e => ⟨.error e, g, session⟩
  | .ok () =>
    match session.memory.reserve g.roomForConnection with
    | .error reason => ⟨.error (.allocation reason), g, session⟩
    | .ok () =>
      let linked := g.link upstream downstream
      match linked.announce downstream session with
      | (.error e, session) => ⟨.error e, linked, session⟩
      | (.ok graph, session) =>
        let id : ConnectionId := ⟨g.connections.length⟩
        { answer := .ok id
          graph
          session := session.log
            (.connected (g.nameOf upstream.component) upstream.index
              (g.nameOf downstream.component) downstream.index id) }

end TraceFlow.Graph
