import TraceFlow.Scripted.World

/-!
# Scripted sinks
-/

namespace TraceFlow.Scripted

structure SinkSpec where
  label : String
  /-- The sink takes no notice of being set up and of tidying up. -/
  bare : Bool := false
  setUpFailure : Option Fault := none
  actions : List Action := []
  /-- What the sink does once the actions are used up. -/
  andThen : Action := .pull

/-- Pulls once and notes the outcome. -/
def pullOnce (label : String) (upstream : Iterator World) : Act World Next := do
  match ← ExceptT.lift (ExceptT.run upstream.next) with
  | .error fault =>
    note (.pull label (.failed fault.text))
    throw fault
  | .ok next =>
    note (.pull label (match next with
      | .batch messages => .messages (messages.map Message.text)
      | .again => .again
      | .ended => .ended))
    return next

/-- Pulls up to `count` times; a batch makes the call a success whatever ends it. -/
def pullMany (label : String) (upstream : Iterator World) (got : Bool) :
    (count : Nat) → Act World Status
  | 0 => return .ok
  | count + 1 => do
    match ← pullOnce label upstream with
    | .batch _ => pullMany label upstream true count
    | other => return if got then .ok else other.status

def Action.perform (action : Action) (label : String) (upstream : Iterator World) :
    Act World Status :=
  match action with
  | .answer .ok => return .ok
  | .answer .again => return .again
  | .answer .ended => return .ended
  | .fail fault => throw fault
  | .pull => Next.status <$> pullOnce label upstream
  | .tolerant => tryCatch (Next.status <$> pullOnce label upstream) fun _ => return .ok
  | .pullUpTo count => pullMany label upstream false count

/-- Takes the next action of the sink at a place. -/
def SinkSpec.nextAction (spec : SinkSpec) (place : Nat) : Act World Action :=
  modifyGet fun world =>
    match world.actions.getD place [] with
    | [] => (spec.andThen, world)
    | action :: rest =>
      (action, { world with actions := world.actions.setIfInBounds place rest })

/-- Puts a sink into the world. -/
def SinkSpec.deploy {α : Type} (spec : SinkSpec) : StateM World (Sink World α) :=
  modifyGet fun world =>
    let place := world.actions.size
    ({ setUp := Act.beside do
        if !spec.bare then
          note (.setUp spec.label)
          if let some fault := spec.setUpFailure then throw fault
       consume := fun upstream => Act.beside do
        note (.consume spec.label)
        (← spec.nextAction place).perform spec.label upstream
       tidyUp := fun (world, shared) =>
        (if spec.bare then world else world.note (.tidyUp spec.label), shared) },
      { world with actions := world.actions.push spec.actions })

end TraceFlow.Scripted
