import TraceFlow.Config.Basic
import TraceFlow.Graph.Assembly
import TraceFlow.Graph.Step
import TraceFlow.Plugin

/-!
# Trace contexts

A context is a graph that reads traces: one source per locator, one filter that merges what the
sources yield, and one sink. It is built from a configuration and a registry, and then pulled until
the sink has consumed something or everything has ended.
-/

namespace TraceFlow

structure Builder (W : Type) where
  registry : Registry W
  /-- The paths of the traces, as bytes. -/
  locators : List ByteArray := []
  config : Config := {}

/-- The graph of a context, and what its components are. -/
structure Context (W α : Type) where
  graph : Graph W α
  sources : List ComponentId
  filter : ComponentId
  sink : ComponentId

/-! ## Putting the graph together -/

/-- Work on a graph and a session, up to the first error. -/
abbrev Assembly (W α β : Type) := ExceptT TraceError (StateM (Graph W α × Session W α)) β

namespace Assembly

variable {W α β : Type}

/-- Works on a graph in a session; answers the result with the graph and the session after it. -/
def on (work : Assembly W α β) (g : Graph W α) (session : Session W α) :
    Except TraceError β × Graph W α × Session W α :=
  (ExceptT.run work).run (g, session)

/-- An operation on the graph; its error is told in the words of the work. -/
def perform (wrap : GraphError → TraceError) (operation : Graph W α → Session W α → Reply W α β) :
    Assembly W α β :=
  ExceptT.mk fun (g, session) =>
    match operation g session with
    | ⟨.ok value, g, session⟩ => (.ok value, (g, session))
    | ⟨.error e, g, session⟩ => (.error (wrap e), (g, session))

/-- A question to the graph; an error of it is told in the words of the work. -/
def query (wrap : GraphError → TraceError) (question : Graph W α → Except GraphError β) :
    Assembly W α β :=
  perform wrap fun g session => ⟨question g, g, session⟩

def log (line : LogLine) : Assembly W α Unit :=
  modify fun (g, session) => (g, session.log line)

def findPlugin (registry : Registry W) (name : String) : Assembly W α (Plugin W) := do
  let (g, session) ← get
  let (plugin, session) := session.findPlugin registry name
  set (g, session)
  match plugin with
  | some plugin => return plugin
  | none => throw (.capabilityNotFound name)

/-- What a look-up of a class found; the class must be there. -/
def found {C : Type} (plugin className : String) : Option C → Assembly W α C
  | some cls => return cls
  | none => throw (.classNotFound plugin className)

end Assembly

/-- A source that was added: its id, its name and the number of its output ports. -/
structure AddedSource where
  id : ComponentId
  name : String
  ports : Nat
deriving DecidableEq, Repr

namespace AddedSource

/-- The output ports of the source, each with the source's name. -/
def outputs (source : AddedSource) : List (String × PortRef) :=
  (List.range source.ports).map fun port => (source.name, source.id.output port)

end AddedSource

namespace Builder

variable {W α : Type}

def sourceParams (config : Config) (locator : String) : Params :=
  .ofList [(config.inputsKey, .ofStrings [locator])]

/-- The locators as texts; the first that is none is refused. -/
def readLocators : List ByteArray → Except ConfigError (List String)
  | [] => .ok []
  | locator :: rest =>
    match String.fromUTF8? locator with
    | none => .error (.locatorNotText locator)
    | some text => (readLocators rest).map (text :: ·)

/-- What can be told without a graph: the configuration is sound and the locators are texts. -/
def check (builder : Builder W) : Except ConfigError (List String) := do
  builder.config.validate
  if builder.locators.isEmpty then throw .noInput
  readLocators builder.locators

def addSource (config : Config) (cls : SourceClass W) (index : Nat) (locator : String) :
    Assembly W α AddedSource := do
  let name := config.sourceInstanceName index
  let id ← Assembly.perform (.ofCreation name)
    (·.addSource cls name (sourceParams config locator) config.logLevel)
  let ports ← Assembly.query (.ofCreation name) (·.portCount id .output)
  if ports = 0 then throw (.noOutputPorts name)
  Assembly.log (.sourceReads name locator ports)
  return { id, name, ports }

/-- Adds the sources of all locators, numbered from `index` on. -/
def addSources (config : Config) (cls : SourceClass W) :
    (index : Nat) → List String → Assembly W α (List AddedSource)
  | _, [] => return []
  | index, locator :: rest => do
    let source ← addSource config cls index locator
    let others ← addSources config cls (index + 1) rest
    return source :: others

/-- Joins output ports, each with the name of its source, to the inputs of the filter in order. -/
def wire (config : Config) (filter : ComponentId) :
    (input : Nat) → List (String × PortRef) → Assembly W α Unit
  | _, [] => return ()
  | input, (name, output) :: rest => do
    let _ ← Assembly.perform (.ofConnection name config.filterName)
      (·.connect output (filter.input input))
    wire config filter (input + 1) rest

/-- Builds the graph around the sink: sources, filter, their connections, and the sink. -/
def assemble (builder : Builder W) (locators : List String) (sink : Sink W α) :
    Assembly W α (Context W α) := do
  let config := builder.config
  let sourcePlugin ← Assembly.findPlugin builder.registry config.sourcePlugin
  let filterPlugin ← Assembly.findPlugin builder.registry config.filterPlugin
  let sourceClass ← Assembly.found config.sourcePlugin config.sourceClass
    (sourcePlugin.source? config.sourceClass)
  let filterClass ← Assembly.found config.filterPlugin config.filterClass
    (filterPlugin.filter? config.filterClass)
  let sources ← addSources config sourceClass 0 locators
  let filter ← Assembly.perform (.ofCreation config.filterName)
    (·.addFilter filterClass config.filterName ∅ config.logLevel)
  let outputs := sources.flatMap AddedSource.outputs
  wire config filter 0 outputs
  let sink ← Assembly.perform (.ofCreation config.sinkName) (·.addSink sink config.sinkName)
  let _ ← Assembly.perform (.ofConnection config.filterName config.sinkName)
    (·.connect (filter.output 0) (sink.input 0))
  Assembly.log (.ready sources.length outputs.length)
  let (graph, _) ← get
  return { graph, sources := sources.map AddedSource.id, filter, sink }

/-- Builds a context; a graph that cannot be completed is taken down again. -/
def build (builder : Builder W) (sink : Sink W α) (session : Session W α) :
    Except TraceError (Context W α) × Session W α :=
  match builder.check with
  | .error e => (.error (.config e), session)
  | .ok locators =>
    match session.memory.reserve ⟨.sources, 0, locators.length⟩ with
    | .error reason => (.error (.allocationFailure reason), session)
    | .ok () =>
      match Graph.create session.memory with
      | .error e => (.error (.graphCreation e), session)
      | .ok g =>
        match (builder.assemble locators sink).on g session with
        | (.ok context, _, session) => (.ok context, session)
        | (.error e, g, session) => (.error e, g.close session)

end Builder

/-! ## Pulling -/

inductive Pulled where
  /-- The sink consumed something. -/
  | hasMessages
  | endOfStream
  | failed (error : TraceError)
  /-- The patience was used up before the sink got anything. -/
  | waiting
deriving DecidableEq

namespace Context

variable {W α : Type}

/-- Runs the graph, at most `patience` times, until the sink has consumed something or all has
ended. -/
def pull : (patience : Nat) → Context W α → Session W α → Pulled × Context W α × Session W α
  | 0, context, session => (.waiting, context, session)
  | patience + 1, context, session =>
    match context.graph.run session with
    | ⟨.ok .ok, graph, session⟩ => (.hasMessages, { context with graph }, session)
    | ⟨.ok .ended, graph, session⟩ => (.endOfStream, { context with graph }, session)
    | ⟨.error e, graph, session⟩ => (.failed (.execution e), { context with graph }, session)
    | ⟨.ok .again, graph, session⟩ => pull patience { context with graph } session

/-- Takes the context down on purpose. -/
def destroy (context : Context W α) (session : Session W α) : Session W α :=
  context.graph.close (session.log (.destroying context.graph.steps))

def close (context : Context W α) (session : Session W α) : Session W α :=
  context.graph.close session

end Context

end TraceFlow
