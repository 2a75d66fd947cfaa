import TraceFlow.Journal
import TraceFlow.OrderedMap

/-!
# Graphs

A graph holds components, each with its two tables of ports, and the connections that lead from
output ports to input ports. Components and connections are numbered by their positions. Beside
them it keeps a table of the names and a list of the sinks. A graph is put together first; its first
step ends that phase for good.
-/

namespace TraceFlow

/-- How far a sink has come. -/
inductive SinkPhase (W : Type) where
  | idle
  | reading (upstream : Iterator W)
  | ended

inductive Role (W α : Type) where
  | source (source : Source W)
  | filter (filter : Filter W)
  | sink (sink : Sink W α) (phase : SinkPhase W)

def Role.kind {W α : Type} : Role W α → Kind
  | .source _ => .source
  | .filter _ => .filter
  | .sink .. => .sink

/-- A component in its graph. A sink has no class. -/
structure Component (W α : Type) where
  name : String
  className : Option String
  level : LogLevel
  inputs : PortTable
  outputs : PortTable
  role : Role W α

namespace Component

variable {W α : Type}

def kind (c : Component W α) : Kind := c.role.kind

def table (c : Component W α) : Direction → PortTable
  | .input => c.inputs
  | .output => c.outputs

def modifyTable (c : Component W α) (direction : Direction) (f : PortTable → PortTable) :
    Component W α :=
  match direction with
  | .input => { c with inputs := f c.inputs }
  | .output => { c with outputs := f c.outputs }

/-- The sink itself and how far it has come, if the component is a sink. -/
def sink? (c : Component W α) : Option (Sink W α × SinkPhase W) :=
  match c.role with
  | .sink sink phase => some (sink, phase)
  | _ => none

/-- Moves a sink on to a phase; any other component stays as it is. -/
def setPhase (c : Component W α) (phase : SinkPhase W) : Component W α :=
  match c.role with
  | .sink sink _ => { c with role := .sink sink phase }
  | _ => c

def hasEnded (c : Component W α) : Bool :=
  match c.role with
  | .sink _ .ended => true
  | _ => false

@[simp] theorem name_setPhase (c : Component W α) (phase : SinkPhase W) :
    (c.setPhase phase).name = c.name := by
  unfold setPhase; split <;> rfl

@[simp] theorem kind_setPhase (c : Component W α) (phase : SinkPhase W) :
    (c.setPhase phase).kind = c.kind := by
  unfold setPhase kind; split <;> simp_all [Role.kind]

@[simp] theorem table_setPhase (c : Component W α) (phase : SinkPhase W) (direction : Direction) :
    (c.setPhase phase).table direction = c.table direction := by
  unfold setPhase; split <;> cases direction <;> rfl

@[simp] theorem kind_modifyTable (c : Component W α) (direction : Direction)
    (f : PortTable → PortTable) : (c.modifyTable direction f).kind = c.kind := by
  cases direction <;> rfl

@[simp] theorem name_modifyTable (c : Component W α) (direction : Direction)
    (f : PortTable → PortTable) : (c.modifyTable direction f).name = c.name := by
  cases direction <;> rfl

@[simp] theorem table_modifyTable_self (c : Component W α) (direction : Direction)
    (f : PortTable → PortTable) :
    (c.modifyTable direction f).table direction = f (c.table direction) := by
  cases direction <;> rfl

theorem table_modifyTable_of_ne (c : Component W α) {direction other : Direction}
    (h : other ≠ direction) (f : PortTable → PortTable) :
    (c.modifyTable direction f).table other = c.table other := by
  cases direction <;> cases other <;> simp_all [modifyTable, table]

end Component

/-- Messages flow from an output port to an input port. -/
structure Connection where
  id : ConnectionId
  upstream : PortRef
  downstream : PortRef
deriving DecidableEq, Repr

inductive State where
  | configuring
  | running
  | ended
  | faulted
deriving DecidableEq, Repr

def State.name : State → String
  | .configuring => "Configuring"
  | .running => "Running"
  | .ended => "Ended"
  | .faulted => "Faulted"

/-- A graph whose sinks share an `α` with the caller: `cursor` is the turn of the next sink, `steps`
counts the steps that did not fail. -/
structure Graph (W α : Type) where
  components : List (Component W α) := []
  connections : List Connection := []
  /-- Which component has which name. -/
  names : OrderedMap ComponentId := ∅
  /-- The sinks, in the order in which they were added. -/
  sinks : List ComponentId := []
  cursor : Nat := 0
  state : State := .configuring
  steps : Nat := 0

namespace Graph

variable {W α : Type}

def empty : Graph W α := {}

def componentCount (g : Graph W α) : Nat := g.components.length

/-- The id that the next component will have. -/
def nextId (g : Graph W α) : ComponentId := ⟨g.components.length⟩

def component? (g : Graph W α) (id : ComponentId) : Option (Component W α) :=
  g.components[id.index]?

def find? (g : Graph W α) (name : String) : Option ComponentId := g.names.get? name

/-- The name of a component, empty if there is none. -/
def nameOf (g : Graph W α) (id : ComponentId) : String :=
  match g.component? id with
  | some c => c.name
  | none => ""

def kind? (g : Graph W α) (id : ComponentId) : Option Kind :=
  (g.component? id).map Component.kind

def table? (g : Graph W α) (id : ComponentId) (direction : Direction) : Option PortTable :=
  (g.component? id).map (·.table direction)

def port? (g : Graph W α) (port : PortRef) : Option Port :=
  (g.table? port.component port.direction).bind (·.port? port.index)

def portCount (g : Graph W α) (id : ComponentId) (direction : Direction) : Except GraphError Nat :=
  match g.table? id direction with
  | some table => .ok table.size
  | none => .error (.unknownComponent id)

def modify (g : Graph W α) (id : ComponentId) (f : Component W α → Component W α) : Graph W α :=
  { g with components := g.components.modify id.index f }

/-- The output port that a connection comes from. -/
def origin? (g : Graph W α) (id : ConnectionId) : Option PortRef :=
  g.connections[id.index]?.map Connection.upstream

/-- The output ports that feed the connected input ports of a component, in the order of these. -/
def feeders (g : Graph W α) (c : Component W α) : List PortRef :=
  c.inputs.ports.filterMap fun port => port.connection.bind g.origin?

def hasEnded (g : Graph W α) (id : ComponentId) : Bool :=
  match g.component? id with
  | some c => c.hasEnded
  | none => false

/-! ## Lemmas -/

@[simp] theorem componentCount_modify (g : Graph W α) (id : ComponentId)
    (f : Component W α → Component W α) : (g.modify id f).componentCount = g.componentCount := by
  simp [modify, componentCount]

@[simp] theorem connections_modify (g : Graph W α) (id : ComponentId)
    (f : Component W α → Component W α) : (g.modify id f).connections = g.connections := rfl

theorem component?_modify_self (g : Graph W α) (id : ComponentId)
    (f : Component W α → Component W α) :
    (g.modify id f).component? id = (g.component? id).map f := by
  simp [modify, component?]

theorem component?_modify_of_ne (g : Graph W α) {id other : ComponentId} (h : other ≠ id)
    (f : Component W α → Component W α) :
    (g.modify id f).component? other = g.component? other := by
  have hi : id.index ≠ other.index := fun e => h (by cases id; cases other; simp_all)
  simp [modify, component?, hi]

end Graph

/-- What an operation on a graph leaves: its answer, the graph and the session after it. -/
structure Reply (W α β : Type) where
  answer : Except GraphError β
  graph : Graph W α
  session : Session W α

end TraceFlow
