import TraceFlow.Component
import TraceFlow.Graph.Error
import TraceFlow.Memory
import TraceFlow.Text.Quoted

/-!
# The journal

A journal keeps, in order, what was asked of the components and what was logged. A session is the
scene that a call meets together with the journal of what happened there; all that works on a graph
passes a session along.
-/

namespace TraceFlow

/-- A call of a component, a class or a registry, with its answer where one is given. -/
inductive Hook (W : Type) where
  | findPlugin (name : String)
  | instantiate (className : String) (params : Params) (level : LogLevel)
  | inputConnected (filter : ComponentId) (port : Nat)
  | iterator (port : PortRef) (upstream : List (Iterator W)) (answer : Except Fault (Iterator W))
  | setUp (sink : ComponentId) (answer : Except Fault Unit)
  | consume (sink : ComponentId) (upstream : Iterator W) (answer : Except Fault Status)
  | tidyUp (sink : ComponentId)

inductive LogLine where
  | added (kind : Kind) (name : String) (id : ComponentId) (className : Option String)
      (inputs outputs : Nat) (level : LogLevel)
  | connected (upstream : String) (output : Nat) (downstream : String) (input : Nat)
      (id : ConnectionId)
  | configurationFailed (error : GraphError)
  | stepFailed (error : GraphError)
  | step (number : Nat) (status : Status)
  | running (components connections sinks : Nat)
  | sinkEnded (name : String)
  | allEnded (steps : Nat)
  | sinkTidied (name : String)
  | tornDown (steps : Nat)
  | dropped (components connections : Nat)
  | sourceReads (name locator : String) (ports : Nat)
  | ready (sources inputs : Nat)
  | destroying (steps : Nat)
  | registering (plugin : String) (sources filters : Nat)
  | configLoaded (path : String)
deriving DecidableEq, Repr

namespace LogLine

def severity : LogLine → Severity
  | configurationFailed _ => .error
  | stepFailed _ => .error
  | tornDown _ => .warn
  | running .. => .info
  | allEnded _ => .info
  | ready .. => .info
  | step .. => .trace
  | _ => .debug

def message : LogLine → String
  | added kind name id className inputs outputs level =>
    s!"Added {kind.name} component '{name}' {id.text} (class " ++
      Text.quoted (className.getD "<none>") ++
      s!", {inputs} in / {outputs} out, log level {level.name})"
  | connected upstream output downstream input id =>
    s!"Connected '{upstream}' out#{output} -> '{downstream}' in#{input} ({id.text})"
  | configurationFailed error => s!"Graph configuration failed: {error.message}"
  | stepFailed error => s!"Graph step failed: {error.message}"
  | step number status => s!"Graph step {number} -> {status.name}"
  | running components connections sinks =>
    s!"Graph running: {components} components, {connections} connections, {sinks} sink(s)"
  | sinkEnded name => s!"Sink '{name}' ended"
  | allEnded steps => s!"All sinks ended after {steps} steps"
  | sinkTidied name => s!"Finalized sink '{name}'"
  | tornDown steps => s!"Graph torn down before all sinks ended ({steps} steps)"
  | dropped components connections =>
    s!"Graph dropped ({components} components, {connections} connections)"
  | sourceReads name locator ports =>
    s!"Source '{name}' reads " ++ Text.quoted locator ++ s!" ({ports} output ports)"
  | ready sources inputs =>
    s!"Trace graph ready: {sources} source(s), {inputs} muxer input(s) wired"
  | destroying steps => s!"Destroying trace context after {steps} steps"
  | registering plugin sources filters =>
    s!"Registering plugin '{plugin}' ({sources} source, {filters} filter classes)"
  | configLoaded path => "Loaded graph config from " ++ Text.quoted path

/-- The line as it is written, its severity first. -/
def text (line : LogLine) : String :=
  line.severity.label ++ " " ++ line.message

end LogLine

inductive Entry (W : Type) where
  | hook (hook : Hook W)
  | line (line : LogLine)

structure Journal (W : Type) where
  newestFirst : List (Entry W) := []

namespace Journal

variable {W : Type}

def empty : Journal W := ⟨[]⟩

def record (journal : Journal W) (entry : Entry W) : Journal W :=
  ⟨entry :: journal.newestFirst⟩

/-- The entries in the order in which they were made. -/
def entries (journal : Journal W) : List (Entry W) := journal.newestFirst.reverse

def hooks (journal : Journal W) : List (Hook W) :=
  journal.entries.filterMap fun
    | .hook hook => some hook
    | .line _ => none

def lines (journal : Journal W) : List LogLine :=
  journal.entries.filterMap fun
    | .hook _ => none
    | .line line => some line

@[simp] theorem entries_empty : (empty : Journal W).entries = [] := rfl

@[simp] theorem entries_record (journal : Journal W) (entry : Entry W) :
    (journal.record entry).entries = journal.entries ++ [entry] := by
  simp [entries, record]

@[simp] theorem hooks_record_hook (journal : Journal W) (hook : Hook W) :
    (journal.record (.hook hook)).hooks = journal.hooks ++ [hook] := by
  simp [hooks]

@[simp] theorem hooks_record_line (journal : Journal W) (line : LogLine) :
    (journal.record (.line line)).hooks = journal.hooks := by
  simp [hooks]

@[simp] theorem lines_record_line (journal : Journal W) (line : LogLine) :
    (journal.record (.line line)).lines = journal.lines ++ [line] := by
  simp [lines]

@[simp] theorem lines_record_hook (journal : Journal W) (hook : Hook W) :
    (journal.record (.hook hook)).lines = journal.lines := by
  simp [lines]

end Journal

/-- What a call meets: the world of the components, what the caller shares with its sinks, and the
memory. -/
structure Scene (W α : Type) where
  world : W
  shared : α
  memory : Memory := .ample

/-- A scene in which nothing is shared. -/
def Scene.plain {W : Type} (world : W) : Scene W Unit := { world, shared := () }

/-- The scene once the components have come to another world, and nothing else is different. -/
def Scene.later {W α : Type} (scene : Scene W α) (world : W) : Scene W α := { scene with world }

/-- The scene of the components and the journal of what happened there. -/
structure Session (W α : Type) extends Scene W α where
  journal : Journal W := .empty

namespace Session

variable {W α β : Type}

def log (session : Session W α) (line : LogLine) : Session W α :=
  { session with journal := session.journal.record (.line line) }

/-- Lets an action work on the world and on what is shared, and keeps the call with its answer. -/
def ask (session : Session W α) (act : Act (W × α) β) (hook : Except Fault β → Hook W) :
    Except Fault β × Session W α :=
  match act.on (session.world, session.shared) with
  | (answer, world, shared) =>
    (answer,
      { session with world, shared, journal := session.journal.record (.hook (hook answer)) })

/-- Tells a component something that it cannot fail at. -/
def tell (session : Session W α) (change : W × α → W × α) (hook : Hook W) : Session W α :=
  match change (session.world, session.shared) with
  | (world, shared) =>
    { session with world, shared, journal := session.journal.record (.hook hook) }

@[simp] theorem toScene_log (session : Session W α) (line : LogLine) :
    (session.log line).toScene = session.toScene := rfl

@[simp] theorem entries_log (session : Session W α) (line : LogLine) :
    (session.log line).journal.entries = session.journal.entries ++ [.line line] := by
  simp [log]

@[simp] theorem hooks_log (session : Session W α) (line : LogLine) :
    (session.log line).journal.hooks = session.journal.hooks := by
  simp [log]

@[simp] theorem hooks_tell (session : Session W α) (change : W × α → W × α) (hook : Hook W) :
    (session.tell change hook).journal.hooks = session.journal.hooks ++ [hook] := by
  simp [tell]

theorem hooks_ask (session : Session W α) (act : Act (W × α) β) (hook : Except Fault β → Hook W) :
    (session.ask act hook).2.journal.hooks =
      session.journal.hooks ++ [hook (session.ask act hook).1] := by
  simp [ask]

end Session

end TraceFlow
