import TraceFlow.Fault
import TraceFlow.LogLevel
import TraceFlow.Message

/-!
# Components

Sources, filters and sinks are supplied from outside. All that they keep between two calls belongs
to one world `W`; a component is then a record of actions on that world, and so is an iterator. What
the sinks share with their caller is an `α` of its own. Classes are named templates from which
sources and filters are instantiated.
-/

namespace TraceFlow

/-- An action of a component: it may change the world, and it answers or fails. -/
abbrev Act (W α : Type) := ExceptT Fault (StateM W) α

/-- The answer of an action in a world, and the world after it. -/
def Act.on {W α : Type} (act : Act W α) (world : W) : Except Fault α × W :=
  (ExceptT.run act).run world

/-- The action, where something else lies beside the world. -/
def Act.beside {W α β : Type} (act : Act W β) : Act (W × α) β :=
  ExceptT.mk fun (world, other) =>
    match act.on world with
    | (answer, world) => (answer, (world, other))

@[simp] theorem Act.on_beside {W α β : Type} (act : Act W β) (world : W) (other : α) :
    act.beside.on (world, other) = ((act.on world).1, ((act.on world).2, other)) := rfl

theorem Act.on_bind {W β γ : Type} (act : Act W β) (further : β → Act W γ) (world : W) :
    (act >>= further).on world =
      match act.on world with
      | (.error fault, world) => (.error fault, world)
      | (.ok value, world) => (further value).on world := by
  change (ExceptT.bindCont further (act.on world).1).run (act.on world).2 = _
  rcases act.on world with ⟨_ | _, _⟩ <;> rfl

/-- What a sink, or the whole graph, did when it was asked to get on. -/
inductive Status where
  /-- Some progress was made. -/
  | ok
  /-- There was nothing to do yet. -/
  | again
  /-- There will be nothing to do any more. -/
  | ended
deriving DecidableEq, Repr

def Status.name : Status → String
  | .ok => "Ok"
  | .again => "Again"
  | .ended => "End"

inductive Next where
  | batch (messages : Batch)
  | again
  | ended

/-- The status of a sink that has got this answer and done what it does. -/
def Next.status : Next → Status
  | .batch _ => .ok
  | .again => .again
  | .ended => .ended

/-- A producer of batches, asked for one after the other. -/
structure Iterator (W : Type) where
  next : Act W Next

structure Source (W : Type) where
  outputCount : W → Nat
  iterator : (port : Nat) → Act W (Iterator W)

structure Filter (W : Type) where
  inputCount : W → Nat
  outputCount : W → Nat
  /-- Told that an input port was connected; the filter may want more input ports from then on. -/
  inputConnected : (port : Nat) → W → W
  /-- Given the iterators of the connected input ports, in the order of the ports. -/
  iterator : (port : Nat) → (upstream : List (Iterator W)) → Act W (Iterator W)

/--
A component that takes messages, the caller's end of the graph. Beside the world it sees what the
caller shares with it, and no other component sees that.
-/
structure Sink (W α : Type) where
  setUp : Act (W × α) Unit
  consume : (upstream : Iterator W) → Act (W × α) Status
  tidyUp : W × α → W × α

structure SourceClass (W : Type) where
  name : String
  description : Option String
  instantiate : Params → LogLevel → Act W (Source W)

structure FilterClass (W : Type) where
  name : String
  description : Option String
  instantiate : Params → LogLevel → Act W (Filter W)

inductive Kind where
  | source
  | filter
  | sink
deriving DecidableEq, Repr

def Kind.name : Kind → String
  | .source => "source"
  | .filter => "filter"
  | .sink => "sink"

end TraceFlow
