import TraceFlow.Graph.Basic

/-!
# Iterators behind output ports

The iterator of a source's port comes from the source. The iterator of a filter's port comes from
the filter, once the iterators that feed it have been made, in the order of its input ports.
-/

namespace TraceFlow

/-- What making something leaves: the thing or an error, and the session. -/
abbrev Made (W α β : Type) := Except GraphError β × Session W α

/-- Makes one thing per item, in order, up to the first error. -/
def makeEach {W α ι β : Type} (make : ι → Session W α → Made W α β) :
    List ι → Session W α → Made W α (List β)
  | [], session => (.ok [], session)
  | item :: rest, session =>
    match make item session with
    | (.error e, session) => (.error e, session)
    | (.ok made, session) =>
      match makeEach make rest session with
      | (.error e, session) => (.error e, session)
      | (.ok others, session) => (.ok (made :: others), session)

namespace Graph

variable {W α : Type}

/-- Lets a component of that name make an iterator, and names it if it fails. -/
def askIterator (name : String) (port : PortRef) (upstream : List (Iterator W))
    (act : Act W (Iterator W)) (session : Session W α) : Made W α (Iterator W) :=
  match session.ask act.beside (.iterator port upstream) with
  | (.error fault, session) => (.error (.component name fault), session)
  | (.ok iterator, session) => (.ok iterator, session)

/-- Makes the iterator behind an output port; `make` makes those behind the ports that feed it. -/
def walk (g : Graph W α) (make : PortRef → Session W α → Made W α (Iterator W)) (port : PortRef)
    (session : Session W α) : Made W α (Iterator W) :=
  match g.component? port.component with
  | none => (.error (.unknownComponent port.component), session)
  | some c =>
    match c.role with
    | .source source => askIterator c.name port [] (source.iterator port.index) session
    | .filter filter =>
      match makeEach make (g.feeders c) session with
      | (.error e, session) => (.error e, session)
      | (.ok upstream, session) =>
        askIterator c.name port upstream (filter.iterator port.index upstream) session
    | .sink .. => (.error (.component c.name ⟨"a sink has no output ports", []⟩), session)

/--
The iterator behind an output port, made through at most `depth` components. A chain of more
components than the graph has would pass one of them twice.
-/
def iteratorWithin (g : Graph W α) : Nat → PortRef → Session W α → Made W α (Iterator W)
  | 0, port, session =>
    (.error (.cycleDetected (g.nameOf port.component) (g.nameOf port.component)), session)
  | depth + 1, port, session => g.walk (g.iteratorWithin depth) port session

def iterator (g : Graph W α) (port : PortRef) (session : Session W α) : Made W α (Iterator W) :=
  g.iteratorWithin g.componentCount port session

end Graph

end TraceFlow
