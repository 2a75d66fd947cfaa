import TraceFlow.Batches

/-!
# Messages of a trace

A reader of messages hands out the messages of a reader of batches one by one.
-/

namespace TraceFlow

/-- A reader of messages: the batches to come, and what is left of the last one. -/
structure Messages (W : Type) where
  batches : Batches W
  pending : List Message := []

namespace Messages

variable {W : Type}

/-- Reads on, message by message, where a reader of batches stands. -/
def ofBatches (batches : Batches W) : Messages W := { batches }

/-- The next message; empty batches are passed over. -/
def next : (patience : Nat) → Messages W → Session W Unit →
    Drawn Message × Messages W × Session W Unit
  | _, ⟨batches, message :: pending⟩, session => (.item message, ⟨batches, pending⟩, session)
  | 0, reader, session => (.waiting, reader, session)
  | patience + 1, ⟨batches, []⟩, session =>
    match batches.next (patience + 1) session with
    | (.item batch, batches, session) => next patience ⟨batches, batch⟩ session
    | (.failed e, batches, session) => (.failed e, ⟨batches, []⟩, session)
    | (.exhausted, batches, session) => (.exhausted, ⟨batches, []⟩, session)
    | (.waiting, batches, session) => (.waiting, ⟨batches, []⟩, session)

/-- Takes a reader down, exhausted or not. -/
def close (reader : Messages W) (session : Session W Unit) : Session W Unit :=
  reader.batches.close session

end Messages

end TraceFlow
