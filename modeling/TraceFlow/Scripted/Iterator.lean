import TraceFlow.Scripted.World

/-!
# Scripted iterators

An iterator plays a script, joins other iterators end to end, or merges them by time.
-/

namespace TraceFlow.Scripted

/-! ## Scripts -/

/-- The next answer of a script, and what is left of it. -/
def Script.play : Script → Except Fault Next × Script
  | [] => (.ok .ended, [])
  | .agains 0 :: rest => play rest
  | .agains (n + 1) :: rest => (.ok .again, .agains n :: rest)
  | .ended :: rest => (.ok .ended, rest)
  | .batch messages :: rest => (.ok (.batch messages), rest)
  | .fault fault :: rest => (.error fault, rest)
  | .ticks _ 0 :: rest => play rest
  | .ticks first (n + 1) :: rest =>
    (.ok (.batch [.inactivity first]), .ticks (first + 1) n :: rest)

/-- The iterator that plays the script at a place of the world. -/
def scriptAt (place : Nat) : Iterator World where
  next := do
    let script := (← get).scripts.getD place []
    let (answer, rest) := script.play
    modify fun world => { world with scripts := world.scripts.setIfInBounds place rest }
    match answer with
    | .ok next => return next
    | .error fault => throw fault

/-- A fresh iterator that plays a script. -/
def playing (script : Script) : Act World (Iterator World) :=
  modifyGet fun world =>
    (scriptAt world.scripts.size, { world with scripts := world.scripts.push script })

/-! ## One after the other -/

/-- Asks the first of the iterators; one that has ended is counted and passed over. -/
def joinNext (place : Nat) : List (Iterator World) → Act World Next
  | [] => return .ended
  | upstream :: rest => do
    match ← upstream.next with
    | .ended =>
      modify fun world => { world with joined := world.joined.modify place (· + 1) }
      joinNext place rest
    | other => return other

/-- A fresh iterator that plays its inputs one after the other. -/
def joining (upstream : List (Iterator World)) : Act World (Iterator World) :=
  modifyGet fun world =>
    let place := world.joined.size
    ({ next := do joinNext place (upstream.drop ((← get).joined.getD place 0)) },
      { world with joined := world.joined.push 0 })

/-! ## By time -/

/-- An input without a message waiting that may still get one. -/
def Lane.isStarved (lane : Lane) : Bool := lane.queue.isEmpty && !lane.ended

/-- The lane of one input of a merging iterator. -/
def laneAt (place input : Nat) : Act World Lane := do
  return ((← get).lanes.getD place [])[input]?.getD { ended := true }

def setLane (place input : Nat) (lane : Lane) : Act World Unit :=
  modify fun world => { world with lanes := world.lanes.modify place (·.set input lane) }

/--
Asks one input until a message waits there or it has ended; true if it has to be waited for. Empty
batches may come any number of times, so the asking stops after `patience` of them.
-/
def fill (place input : Nat) (upstream : Iterator World) : (patience : Nat) → Act World Bool
  | 0 => return true
  | patience + 1 => do
    let lane ← laneAt place input
    if !lane.isStarved then return false
    match ← upstream.next with
    | .batch messages =>
      setLane place input { lane with queue := lane.queue ++ messages }
      fill place input upstream patience
    | .again => return true
    | .ended =>
      setLane place input { lane with ended := true }
      return false

/-- Asks the inputs in order; true as soon as one has to be waited for. -/
def fillAll (place : Nat) (patience : Nat) : (input : Nat) → List (Iterator World) → Act World Bool
  | _, [] => return false
  | input, upstream :: rest => do
    if ← fill place input upstream patience then return true
    fillAll place patience (input + 1) rest

/-- The time of a message; one without a time comes first. -/
def timeOf (message : Message) : UInt64 := message.timestamp?.getD 0

/-- The input whose first message is earliest, the lowest of several, with that message. -/
def earliest (lanes : List Lane) : Option (Nat × Message) :=
  lanes.zipIdx.foldl
    (fun best (lane, input) =>
      match lane.queue, best with
      | [], _ => best
      | message :: _, none => some (input, message)
      | message :: _, some (_, other) =>
        if timeOf message < timeOf other then some (input, message) else best)
    none

/-- How often a merging iterator asks one input for a message before it answers. -/
def mergePatience : Nat := Nat.pow 2 62

/-- A fresh iterator that merges its inputs message by message, the earliest first. -/
def merging (upstream : List (Iterator World)) : Act World (Iterator World) :=
  modifyGet fun world =>
    let place := world.lanes.size
    let next : Act World Next := do
      if ← fillAll place mergePatience 0 upstream then return .again
      match earliest ((← get).lanes.getD place []) with
      | none => return .ended
      | some (input, message) =>
        let lane ← laneAt place input
        setLane place input { lane with queue := lane.queue.tail }
        return .batch [message]
    (⟨next⟩, { world with lanes := world.lanes.push (upstream.map fun _ => {}) })

end TraceFlow.Scripted
