import TraceFlow.Component
import TraceFlow.Plugin

/-!
# The world of scripted components

Scripted components behave as a script says and note what they are asked. They stand in for real
ones wherever a graph is to be tried out. All that they keep is in one world: what was asked so far,
and one row per kind of state, in which a component finds its own by its place.
-/

namespace TraceFlow.Scripted

/-- What a sink got when it pulled once. -/
inductive Outcome where
  | messages (texts : List String)
  | again
  | ended
  | failed (text : String)
deriving DecidableEq, Repr

/-- Something that a scripted component was asked. -/
inductive Call where
  | findPlugin (name : String)
  | instantiate (className : String) (instanceNumber : Nat) (level : LogLevel) (params : Params)
  | inputConnected (className : String) (instanceNumber port : Nat)
  | sourceIterator (className : String) (instanceNumber port : Nat)
  | filterIterator (className : String) (instanceNumber port upstream : Nat)
  | setUp (label : String)
  | consume (label : String)
  | pull (label : String) (outcome : Outcome)
  | tidyUp (label : String)

/-- One answer of a scripted iterator, or several alike. -/
inductive Line where
  | agains (count : Nat)
  | ended
  | batch (messages : Batch)
  | fault (fault : Fault)
  /-- Batches of one inactivity message each, at `first`, `first + 1` and so on. -/
  | ticks (first : UInt64) (count : Nat)

/-- The answers of an iterator in order; when they are used up it has ended. -/
abbrev Script := List Line

/-- What a sink does when it is to consume. -/
inductive Action where
  | answer (status : Status)
  | fail (fault : Fault)
  /-- Pulls once and passes the answer on. -/
  | pull
  /-- Pulls once and does not mind an error. -/
  | tolerant
  /-- Pulls up to so many times. -/
  | pullUpTo (count : Nat)

/-- One input of a merging filter: what waits there, and whether more can come. -/
structure Lane where
  queue : List Message := []
  ended : Bool := false

/-- What a filter keeps: its input ports, and the counts that it will report one after the other. -/
structure FilterState where
  inputs : Nat
  reports : List Nat

structure World where
  newestCalls : List Call := []
  instances : Nat := 0
  scripts : Array Script := #[]
  /-- Per source, the ports that were asked for an iterator. -/
  asked : Array (List Nat) := #[]
  filters : Array FilterState := #[]
  /-- Per joining iterator, how many of its inputs have ended. -/
  joined : Array Nat := #[]
  /-- Per merging iterator, its inputs. -/
  lanes : Array (List Lane) := #[]
  /-- Per sink, what it will do. -/
  actions : Array (List Action) := #[]

namespace World

def empty : World := {}

def note (world : World) (call : Call) : World :=
  { world with newestCalls := call :: world.newestCalls }

/-- The calls in the order in which they were made. -/
def calls (world : World) : List Call := world.newestCalls.reverse

/-- The world with all calls forgotten. -/
def forget (world : World) : World := { world with newestCalls := [] }

end World

/-- Notes a call. -/
def note (call : Call) : Act World Unit := modify (·.note call)

/-- Takes the number of the next instance. -/
def nextInstance : Act World Nat :=
  modifyGet fun world => (world.instances, { world with instances := world.instances + 1 })

/-- A registry that notes every look-up. -/
def noting (registry : Registry World) : Registry World :=
  ⟨fun name => do
    modify (·.note (.findPlugin name))
    registry.find name⟩

end TraceFlow.Scripted
