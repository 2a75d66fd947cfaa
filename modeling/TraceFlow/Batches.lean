import TraceFlow.Context

/-!
# Batches of a trace

A reader of batches owns a context whose sink puts every batch into a slot, from which the reader
takes it. It stops for good after the end of the trace or the first error, and takes the context
down then.
-/

namespace TraceFlow

/-- What a reader shares with its sink: the batch that was consumed last and not taken yet. -/
abbrev Slot := Option Batch

/-- The sink that puts what it consumes into the slot. -/
def collector (W : Type) : Sink W Slot where
  setUp := pure ()
  consume upstream := do
    match ← upstream.next.beside with
    | .batch messages =>
      modify fun (world, _) => (world, some messages)
      return .ok
    | .again => return .again
    | .ended => return .ended
  tidyUp := fun (world, _) => (world, none)

/-- What a reader yields when it is asked for the next item. -/
inductive Drawn (β : Type) where
  | item (value : β)
  | failed (error : TraceError)
  | exhausted
  /-- The patience was used up before anything arrived. -/
  | waiting

/-- A reader of batches: its context as long as it is not exhausted, and its slot. -/
structure Batches (W : Type) where
  context : Option (Context W Slot)
  slot : Slot

/-- The session in which something else is shared. -/
def Session.sharing {W α β : Type} (session : Session W α) (shared : β) : Session W β where
  world := session.world
  shared := shared
  memory := session.memory
  journal := session.journal

namespace Batches

variable {W : Type}

/-- Builds the context of a reader, with a slot of its own. -/
def ofBuilder (builder : Builder W) (session : Session W Unit) :
    Except TraceError (Batches W) × Session W Unit :=
  match builder.build (collector W) (session.sharing none) with
  | (.ok context, session) => (.ok ⟨some context, session.shared⟩, session.sharing ())
  | (.error e, session) => (.error e, session.sharing ())

/-- Pulls a context until a batch lies in the slot, and takes it. A context that has come to its end
is taken down. -/
def draw : (patience : Nat) → Context W Slot → Session W Slot →
    Drawn Batch × Option (Context W Slot) × Session W Slot
  | 0, context, session => (.waiting, some context, session)
  | patience + 1, context, session =>
    match context.pull (patience + 1) session with
    | (.hasMessages, context, session) =>
      match session.shared with
      | some batch => (.item batch, some context, session.sharing none)
      | none => draw patience context session
    | (.endOfStream, context, session) => (.exhausted, none, context.destroy session)
    | (.failed e, context, session) => (.failed e, none, context.destroy session)
    | (.waiting, context, session) => (.waiting, some context, session)

def next (patience : Nat) (batches : Batches W) (session : Session W Unit) :
    Drawn Batch × Batches W × Session W Unit :=
  match batches.context with
  | none => (.exhausted, batches, session)
  | some context =>
    match draw patience context (session.sharing batches.slot) with
    | (drawn, context, session) => (drawn, ⟨context, session.shared⟩, session.sharing ())

/-- Takes a reader down, exhausted or not. -/
def close (batches : Batches W) (session : Session W Unit) : Session W Unit :=
  match batches.context with
  | none => session
  | some context => (context.close (session.sharing batches.slot)).sharing ()

end Batches

end TraceFlow
