/-!
# Ports

Every component has two rows of ports, inputs and outputs. A port is addressed by its position and
holds at most one connection. A row of ports, once made, only grows.
-/

namespace TraceFlow

/-- The position of a component in its graph. Graphs are meant that have fewer components, and fewer
connections, than a word of 32 bits tells apart. -/
structure ComponentId where
  index : Nat
deriving DecidableEq, Repr, Inhabited

structure ConnectionId where
  index : Nat
deriving DecidableEq, Repr, Inhabited

inductive Direction where
  | input
  | output
deriving DecidableEq, Repr, Inhabited

structure PortRef where
  component : ComponentId
  direction : Direction
  index : Nat
deriving DecidableEq, Repr, Inhabited

namespace ComponentId

def text (id : ComponentId) : String := s!"ComponentId({id.index})"

def input (id : ComponentId) (index : Nat) : PortRef := ⟨id, .input, index⟩

def output (id : ComponentId) (index : Nat) : PortRef := ⟨id, .output, index⟩

end ComponentId

def ConnectionId.text (id : ConnectionId) : String := s!"ConnectionId({id.index})"

def Direction.name : Direction → String
  | .input => "Input"
  | .output => "Output"

/-- The word before a port's number in its name. -/
def Direction.stem : Direction → String
  | .input => "in"
  | .output => "out"

def PortRef.text (port : PortRef) : String :=
  s!"PortRef(component={port.component.index}, {port.direction.name}#{port.index})"

/-- A port: its name, where it stands, and the connection that it holds. -/
structure Port where
  name : String
  direction : Direction
  index : Nat
  connection : Option ConnectionId := none
deriving DecidableEq, Repr

namespace Port

/-- A port that holds no connection, named for its direction and its position. -/
def fresh (direction : Direction) (index : Nat) : Port :=
  { name := s!"{direction.stem}{index}", direction, index }

def isConnected (port : Port) : Bool := port.connection.isSome

end Port

structure PortTable where
  direction : Direction
  ports : List Port := []
deriving DecidableEq, Repr

namespace PortTable

def size (table : PortTable) : Nat := table.ports.length

def isEmpty (table : PortTable) : Bool := table.ports.isEmpty

def port? (table : PortTable) (index : Nat) : Option Port := table.ports[index]?

def connectedCount (table : PortTable) : Nat := table.ports.countP Port.isConnected

/-- What port `index` is to hold; a table without that port stays as it is. -/
def attach (table : PortTable) (index : Nat) (connection : Option ConnectionId) : PortTable :=
  { table with ports := table.ports.modify index fun port => { port with connection } }

/-- Adds unconnected ports at the end until there are `count`; never takes one away. -/
def grow (table : PortTable) (count : Nat) : PortTable :=
  let added := (List.range' table.size (count - table.size)).map (Port.fresh table.direction)
  { table with ports := table.ports ++ added }

def ofCount (direction : Direction) (count : Nat) : PortTable := grow { direction } count

/-! ## Lemmas -/

@[simp] theorem size_grow (table : PortTable) (count : Nat) :
    (table.grow count).size = max table.size count := by
  simp only [size, grow, List.length_append, List.length_map, List.length_range']
  omega

@[simp] theorem direction_grow (table : PortTable) (count : Nat) :
    (table.grow count).direction = table.direction := rfl

@[simp] theorem size_attach (table : PortTable) (index : Nat) (c : Option ConnectionId) :
    (table.attach index c).size = table.size := by
  simp [size, attach]

@[simp] theorem direction_attach (table : PortTable) (index : Nat) (c : Option ConnectionId) :
    (table.attach index c).direction = table.direction := rfl

theorem port?_isSome_iff {table : PortTable} {index : Nat} :
    (table.port? index).isSome ↔ index < table.size := by
  simp [port?, size]

theorem port?_grow_of_lt (table : PortTable) (count : Nat) {index : Nat} (h : index < table.size) :
    (table.grow count).port? index = table.port? index := by
  unfold port? grow
  rw [List.getElem?_append_left h]

theorem port?_grow_of_le (table : PortTable) {count index : Nat} (h : table.size ≤ index) :
    (table.grow count).port? index =
      if index < count then some (.fresh table.direction index) else none := by
  unfold size at h
  unfold port? grow size
  rw [List.getElem?_append_right h, List.getElem?_map]
  by_cases hlt : index < count
  · rw [if_pos hlt, List.getElem?_range' (by omega), Option.map_some]
    have : table.ports.length + 1 * (index - table.ports.length) = index := by omega
    rw [this]
  · rw [if_neg hlt, List.getElem?_eq_none (by rw [List.length_range']; omega)]
    rfl

theorem port?_attach_self (table : PortTable) (index : Nat) (connection : Option ConnectionId) :
    (table.attach index connection).port? index =
      (table.port? index).map fun port => { port with connection } := by
  simp [port?, attach]

theorem port?_attach_of_ne (table : PortTable) {index other : Nat} (h : other ≠ index)
    (connection : Option ConnectionId) :
    (table.attach index connection).port? other = table.port? other := by
  simp [port?, attach, h.symm]

end PortTable

end TraceFlow
