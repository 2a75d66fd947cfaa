import TraceFlow.Graph.Assembly
import TraceFlow.Graph.Step

/-!
# Commands to a graph

All that can be asked of a graph is one type here, so that a graph's past is a number of commands.
Each of them is carried out in a session of its own: between two commands the world, what is shared
with the sinks and the memory may change in any way.
-/

namespace TraceFlow

inductive Command (W α : Type) where
  | addSource (cls : SourceClass W) (name : String) (params : Params) (level : LogLevel)
  | addFilter (cls : FilterClass W) (name : String) (params : Params) (level : LogLevel)
  | addSink (sink : Sink W α) (name : String)
  | connect (upstream downstream : PortRef)
  | run

/-- What a command is answered that was not refused. -/
inductive Answer where
  | component (id : ComponentId)
  | connection (id : ConnectionId)
  | status (status : Status)
deriving DecidableEq, Repr

/-- Tells the answer in other words. -/
def Reply.map {W α β γ : Type} (f : β → γ) (reply : Reply W α β) : Reply W α γ :=
  ⟨reply.answer.map f, reply.graph, reply.session⟩

theorem Reply.map_answer_eq_error_iff {W α β γ : Type} {f : β → γ} {reply : Reply W α β}
    {e : GraphError} : (reply.map f).answer = .error e ↔ reply.answer = .error e := by
  unfold map
  cases reply.answer with
  | error cause =>
    exact ⟨fun h => congrArg Except.error (Except.error.inj h), congrArg (Except.map f)⟩
  | ok value => exact ⟨nofun, nofun⟩

namespace Command

variable {W α : Type}

/-- Carries a command out. -/
def on (command : Command W α) (g : Graph W α) (session : Session W α) : Reply W α Answer :=
  match command with
  | addSource cls name params level =>
    (g.addSource cls name params level session).map .component
  | addFilter cls name params level =>
    (g.addFilter cls name params level session).map .component
  | addSink sink name => (g.addSink sink name session).map .component
  | connect upstream downstream => (g.connect upstream downstream session).map .connection
  | run => (g.run session).map .status

end Command

namespace Graph

variable {W α : Type}

/-- One graph comes out of another by commands, each answered or refused. -/
inductive ReachedFrom (start : Graph W α) : Graph W α → Prop where
  | refl : ReachedFrom start start
  | step {g : Graph W α} (command : Command W α) (session : Session W α) :
      ReachedFrom start g → ReachedFrom start (command.on g session).graph

/-- A graph that commands made of the empty one. -/
def Reached (g : Graph W α) : Prop := ReachedFrom empty g

/-- Carries commands out one after the other, each of them in the same session. -/
def carryOut (g : Graph W α) (session : Session W α) (commands : List (Command W α)) : Graph W α :=
  commands.foldl (fun g command => (command.on g session).graph) g

/-! ## Lemmas -/

theorem ReachedFrom.trans {start between g : Graph W α} (h : ReachedFrom start between)
    (h' : ReachedFrom between g) : ReachedFrom start g := by
  induction h' with
  | refl => exact h
  | step command session _ ih => exact .step command session ih

theorem reachedFrom_carryOut (g : Graph W α) (session : Session W α)
    (commands : List (Command W α)) :
    ReachedFrom g (g.carryOut session commands) := by
  induction commands generalizing g with
  | nil => exact .refl
  | cons command rest ih => exact .trans (.step command session .refl) (ih _)

end Graph

end TraceFlow
