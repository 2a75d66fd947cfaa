import TraceFlow.Fault
import TraceFlow.Port

/-!
# Errors of a graph

What can go wrong while a graph is put together and while it runs.
-/

namespace TraceFlow

inductive GraphError where
  | allocation (reason : String)
  | duplicateName (name : String)
  | instantiation (className : String) (fault : Fault)
  | unknownComponent (id : ComponentId)
  | portOutOfRange (component : String) (direction : Direction) (index count : Nat)
  | portAlreadyConnected (component : String) (direction : Direction) (index : Nat)
  /-- An input port was given where an output port is wanted, or the other way round. -/
  | wrongDirection (component : String) (index : Nat) (expected : Direction)
  | selfConnection (name : String)
  | cycleDetected (upstream downstream : String)
  /-- The graph can be changed only before its first step. -/
  | alreadyRunning
  | unconnectedSink (component : String) (index : Nat)
  | noSink
  | component (component : String) (fault : Fault)
  | sink (component : String) (fault : Fault)
  /-- An earlier step failed. -/
  | faulted
deriving DecidableEq, Repr

namespace GraphError

def message : GraphError → String
  | allocation reason => s!"Allocation failure: {reason}"
  | duplicateName name => s!"A component named '{name}' already exists in the graph"
  | instantiation className fault =>
    s!"Component class '{className}' failed to instantiate: {fault.text}"
  | unknownComponent id => s!"Unknown component {id.text}"
  | portOutOfRange name direction index count =>
    s!"{direction.name} port {index} out of range on '{name}' ({count} available)"
  | portAlreadyConnected name direction index =>
    s!"{direction.name} port {index} on '{name}' is already connected"
  | wrongDirection name index expected =>
    s!"Port {index} on '{name}' is not an {expected.name} port"
  | selfConnection name => s!"Cannot connect component '{name}' to itself"
  | cycleDetected upstream downstream =>
    s!"Connecting '{upstream}' to '{downstream}' would create a cycle"
  | alreadyRunning => "Graph cannot be modified once it has started running"
  | unconnectedSink name index =>
    s!"Input port {index} of sink '{name}' is not connected"
  | noSink => "Graph has no sink component"
  | component name fault => s!"Component '{name}' failed: {fault.text}"
  | sink name fault => s!"Sink '{name}' failed: {fault.text}"
  | faulted => "Graph is faulted after an earlier error"

/-- The name of the kind of error, as reports give it. -/
def kindName : GraphError → String
  | allocation _ => "Allocation"
  | duplicateName _ => "DuplicateName"
  | instantiation .. => "Instantiation"
  | unknownComponent _ => "UnknownComponent"
  | portOutOfRange .. => "PortOutOfRange"
  | portAlreadyConnected .. => "PortAlreadyConnected"
  | wrongDirection .. => "WrongDirection"
  | selfConnection _ => "SelfConnection"
  | cycleDetected .. => "CycleDetected"
  | alreadyRunning => "AlreadyRunning"
  | unconnectedSink .. => "UnconnectedSink"
  | noSink => "NoSink"
  | component .. => "Component"
  | sink .. => "Sink"
  | faulted => "Faulted"

/-- The fault of a component that the error reports, if it reports one. -/
def fault? : GraphError → Option Fault
  | instantiation _ fault => some fault
  | component _ fault => some fault
  | sink _ fault => some fault
  | _ => none

/-- The texts of what lies below the error, from the outermost to the root. -/
def chain (error : GraphError) : List String :=
  match error.fault? with
  | some fault => fault.chain
  | none => []

end GraphError

end TraceFlow
