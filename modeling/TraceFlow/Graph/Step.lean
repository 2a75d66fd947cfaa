import TraceFlow.Graph.Iterators

/-!
# Running a graph

The first step makes the iterators behind the sinks and sets the sinks up. Every step lets one sink
consume, in turn. Once all sinks have ended nothing happens any more, and once a step has failed
every further one fails.
-/

namespace TraceFlow.Graph

variable {W α : Type}

/-! ## The first step -/

/-- The output port that feeds a sink; none for a component without input ports. -/
def sinkFeeder (g : Graph W α) (c : Component W α) : Except GraphError (Option PortRef) :=
  match c.inputs.ports.find? (!·.isConnected) with
  | some port => .error (.unconnectedSink c.name port.index)
  | none => .ok (g.feeders c).getLast?

def openSink (g : Graph W α) (id : ComponentId) (session : Session W α) : Reply W α Unit :=
  match g.component? id with
  | none => ⟨.error (.unknownComponent id), g, session⟩
  | some c =>
    match g.sinkFeeder c with
    | .error e => ⟨.error e, g, session⟩
    | .ok none => ⟨.ok (), g, session⟩
    | .ok (some port) =>
      match g.iterator port session with
      | (.error e, session) => ⟨.error e, g, session⟩
      | (.ok upstream, session) => ⟨.ok (), g.modify id (·.setPhase (.reading upstream)), session⟩

/-- Makes the iterators of the sinks one after the other, up to the first error. -/
def openSinks (g : Graph W α) : List ComponentId → Session W α → Reply W α Unit
  | [], session => ⟨.ok (), g, session⟩
  | id :: rest, session =>
    match g.openSink id session with
    | ⟨.error e, g, session⟩ => ⟨.error e, g, session⟩
    | ⟨.ok (), g, session⟩ => openSinks g rest session

def setUpSink (g : Graph W α) (id : ComponentId) (session : Session W α) : Made W α Unit :=
  match g.component? id with
  | some { name, role := .sink sink _, .. } =>
    match session.ask sink.setUp (.setUp id) with
    | (.error fault, session) => (.error (.sink name fault), session)
    | (.ok (), session) => (.ok (), session)
  | _ => (.ok (), session)

/-- Ends the assembly: iterators for all sinks first, then all sinks are set up. -/
def configure (g : Graph W α) (session : Session W α) : Reply W α Unit :=
  if g.sinks.isEmpty then ⟨.error .noSink, g, session⟩
  else
    match g.openSinks g.sinks session with
    | ⟨.error e, g, session⟩ => ⟨.error e, g, session⟩
    | ⟨.ok (), g, session⟩ =>
      match makeEach g.setUpSink g.sinks session with
      | (.error e, session) => ⟨.error e, g, session⟩
      | (.ok _, session) =>
        { answer := .ok ()
          graph := { g with state := .running }
          session := session.log
            (.running g.components.length g.connections.length g.sinks.length) }

/-! ## Every step -/

def allEnded (g : Graph W α) : Bool := g.sinks.all g.hasEnded

/-- A graph has ended once all its sinks have; until then the step came to something else. -/
def settle (g : Graph W α) (otherwise : Status) (session : Session W α) : Reply W α Status :=
  if g.allEnded then
    ⟨.ok .ended, { g with state := .ended }, session.log (.allEnded (g.steps + 1))⟩
  else ⟨.ok otherwise, g, session⟩

/-- Lets a sink consume from the iterator that it reads. A step in which one of several sinks ended
is a success. -/
def consume (g : Graph W α) (id : ComponentId) (name : String) (sink : Sink W α)
    (upstream : Iterator W) (session : Session W α) : Reply W α Status :=
  match session.ask (sink.consume upstream) (.consume id upstream) with
  | (.error fault, session) => ⟨.error (.sink name fault), g, session⟩
  | (.ok .ok, session) => ⟨.ok .ok, g, session⟩
  | (.ok .again, session) => ⟨.ok .again, g, session⟩
  | (.ok .ended, session) =>
    (g.modify id (·.setPhase .ended)).settle .ok (session.log (.sinkEnded name))

/-- The turn passes to the next sink, and from the last to the first. -/
def advance (g : Graph W α) : Graph W α :=
  { g with cursor := (g.cursor + 1) % g.sinks.length }

/-- Lets the sink consume whose turn it is. A sink that has ended is passed over, `turns` times at
most. -/
def feedWithin : Graph W α → (turns : Nat) → Session W α → Reply W α Status
  | g, 0, session => g.settle .again session
  | g, turns + 1, session =>
    match g.sinks[g.cursor]? with
    | none => ⟨.error .noSink, g, session⟩
    | some id =>
      match g.component? id with
      | none => ⟨.error (.unknownComponent id), g.advance, session⟩
      | some c =>
        match c.role with
        | .sink sink (.reading upstream) => g.advance.consume id c.name sink upstream session
        | .sink _ .idle => ⟨.error (.unconnectedSink c.name 0), g.advance, session⟩
        | _ => g.advance.feedWithin turns session

/-- Lets one sink consume: each has its turn once, from the cursor on. -/
def feed (g : Graph W α) (session : Session W α) : Reply W α Status :=
  g.feedWithin g.sinks.length session

/-- What a step comes to: one that did not fail is counted, one that failed faults the graph. -/
def conclude (reply : Reply W α Status) : Reply W α Status :=
  match reply with
  | ⟨.ok status, g, session⟩ =>
    ⟨.ok status, { g with steps := g.steps + 1 }, session.log (.step (g.steps + 1) status)⟩
  | ⟨.error e, g, session⟩ => ⟨.error e, { g with state := .faulted }, session.log (.stepFailed e)⟩

def run (g : Graph W α) (session : Session W α) : Reply W α Status :=
  match g.state with
  | .ended => ⟨.ok .ended, g, session⟩
  | .faulted => ⟨.error .faulted, g, session⟩
  | .running => conclude (g.feed session)
  | .configuring =>
    match g.configure session with
    | ⟨.error e, g, session⟩ =>
      ⟨.error e, { g with state := .faulted }, session.log (.configurationFailed e)⟩
    | ⟨.ok (), g, session⟩ => conclude (g.feed session)

/-! ## The end of a graph -/

/-- Lets a sink tidy up; other components are left alone. -/
def tidyUpAt (session : Session W α) (c : Component W α) (id : ComponentId) : Session W α :=
  match c.role with
  | .sink sink _ => (session.tell sink.tidyUp (.tidyUp id)).log (.sinkTidied c.name)
  | _ => session

/-- Takes a graph down: every sink tidies up, in the order of the components. -/
def close (g : Graph W α) (session : Session W α) : Session W α :=
  let session := if g.state = .running then session.log (.tornDown g.steps) else session
  let session := g.components.zipIdx.foldl (fun session (c, i) => tidyUpAt session c ⟨i⟩) session
  session.log (.dropped g.components.length g.connections.length)

end TraceFlow.Graph
