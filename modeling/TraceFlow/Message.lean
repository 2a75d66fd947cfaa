import TraceFlow.Value

/-!
# Trace messages

Sources decode a trace into messages, filters pass them on, sinks take them in batches.
-/

namespace TraceFlow

structure StreamId where
  number : UInt64
deriving DecidableEq, Repr, Inhabited

/-- An event: when it happened by the default clock, in nanoseconds, and what it carried. -/
structure Event where
  stream : StreamId
  timestamp : Option UInt64
  name : String
  fields : Params
deriving Inhabited

/-- What a message tells about a stream, events apart. -/
inductive StreamNotice where
  | streamBeginning
  | streamEnd
  | packetBeginning
  | packetEnd
deriving DecidableEq, Repr

/-- What was lost: events or whole packets. -/
inductive Loss where
  | events
  | packets
deriving DecidableEq, Repr

inductive Message where
  | notice (kind : StreamNotice) (stream : StreamId) (timestamp : Option UInt64)
  | event (event : Event)
  | discarded (loss : Loss) (stream : StreamId) (timestamp : Option UInt64) (count : Option UInt64)
  | inactivity (timestamp : UInt64)
deriving Inhabited

/-- The messages that one step of an iterator yields. -/
abbrev Batch := List Message

namespace Message

def kindName : Message → String
  | .notice .streamBeginning .. => "StreamBeginning"
  | .notice .streamEnd .. => "StreamEnd"
  | .notice .packetBeginning .. => "PacketBeginning"
  | .notice .packetEnd .. => "PacketEnd"
  | .event _ => "Event"
  | .discarded .events .. => "DiscardedEvents"
  | .discarded .packets .. => "DiscardedPackets"
  | .inactivity _ => "MessageIteratorInactivity"

def timestamp? : Message → Option UInt64
  | .notice _ _ timestamp => timestamp
  | .event e => e.timestamp
  | .discarded _ _ timestamp _ => timestamp
  | .inactivity timestamp => some timestamp

/-- The stream of a message; inactivity belongs to none. -/
def stream? : Message → Option StreamId
  | .notice _ stream _ => some stream
  | .event e => some e.stream
  | .discarded _ stream _ _ => some stream
  | .inactivity _ => none

def event? : Message → Option Event
  | .event e => some e
  | _ => none

/-- A message as a line of text: the time, then an event's name and stream or the message's kind. -/
def text (message : Message) : String :=
  let time := match message.timestamp? with
    | some timestamp => toString timestamp
    | none => "-"
  let rest := match message with
    | .event e => s!"{e.name} (stream {e.stream.number})"
    | other => other.kindName
  s!"[{time}] {rest}"

/-- Equality of messages; the fields of events are compared as values. -/
def same : Message → Message → Bool
  | .notice k s t, .notice k' s' t' => k == k' && s == s' && t == t'
  | .event e, .event e' =>
    e.stream == e'.stream && e.timestamp == e'.timestamp && e.name == e'.name &&
      e.fields == e'.fields
  | .discarded l s t c, .discarded l' s' t' c' => l == l' && s == s' && t == t' && c == c'
  | .inactivity t, .inactivity t' => t == t'
  | _, _ => false

instance : BEq Message := ⟨same⟩

end Message

/-- The first stream comes after the second; no stream comes before every stream. -/
def StreamId.after (a b : Option StreamId) : Bool :=
  match a, b with
  | some a, some b => b.number < a.number
  | some _, none => true
  | none, _ => false

end TraceFlow
