import TraceFlow.Port

/-!
# Memory

Room in a table is reserved before anything is put there. A reservation fails if the table would be
larger than a table may be, or if the allocator refuses it. What the allocator answers is not known
here: it may refuse any request for room that there is not yet.
-/

namespace TraceFlow

/-- What room is reserved in. -/
inductive Table where
  | components
  | connections
  | sinks
  /-- The list of sources that is kept while a context is built. -/
  | sources
  | ports (owner : ComponentId) (direction : Direction)
deriving DecidableEq, Repr

/-- The rows for which a new graph reserves room. -/
def Table.initialCapacity : Table → Nat
  | .components | .connections => 4
  | _ => 0

/-- A request for room for `count` rows, where there is room for `held` already. -/
structure Reservation where
  table : Table
  held : Nat
  count : Nat
deriving DecidableEq, Repr

inductive Shortage where
  /-- The table would take more bytes than a table may. -/
  | capacity
  /-- The allocator has no room. -/
  | allocator
deriving DecidableEq, Repr

def Shortage.text : Shortage → String
  | capacity =>
    "memory allocation failed because the computed capacity exceeded the collection's maximum"
  | allocator => "memory allocation failed because the memory allocator returned an error"

namespace Reservation

/-- The room that a table is given when its graph is made. -/
def initial (table : Table) : Reservation := ⟨table, 0, table.initialCapacity⟩

/-- A request for room for one row behind `rows` others. -/
def next (table : Table) (rows : Nat) : Reservation :=
  ⟨table, max table.initialCapacity rows, rows + 1⟩

/-- The bytes that one port takes in memory. -/
def portSize : Nat := 48

/-- The most bytes that one table may take. -/
def byteLimit : Nat := Nat.pow 2 63 - 1

/-- The table would be too large. Only the ports of a component come in numbers of which that can
be told beforehand. -/
def overflows (request : Reservation) : Bool :=
  match request.table with
  | .ports .. => byteLimit < request.count * portSize
  | _ => false

/-- What the room was wanted for. -/
def purpose (request : Reservation) : String :=
  match request.table with
  | .components => "component table"
  | .connections => "connection table"
  | .sinks => "sink list"
  | .sources => "trace context"
  | .ports _ direction => s!"{direction.name} port table of {request.count}"

end Reservation

/-- The request of a component for room for `count` ports. -/
def PortTable.request (table : PortTable) (owner : ComponentId) (count : Nat) : Reservation :=
  ⟨.ports owner table.direction, table.size, count⟩

theorem PortTable.request_congr {table other : PortTable}
    (hdirection : table.direction = other.direction) (hsize : table.size = other.size)
    (owner : ComponentId) (count : Nat) :
    table.request owner count = other.request owner count := by
  unfold request
  rw [hdirection, hsize]

/-- What the allocator answers to a request for room. -/
structure Memory where
  answer : Reservation → Option Shortage

namespace Memory

/-- A memory in which there is room for whatever a table may hold. -/
def ample : Memory := ⟨fun _ => none⟩

/-- A memory in which there is no room in one table. -/
def without (table : Table) : Memory :=
  ⟨fun request => if request.table = table then some .allocator else none⟩

/-- Why a request fails, if it does. A request for no more than is held is not even put. -/
def shortage? (memory : Memory) (request : Reservation) : Option Shortage :=
  if request.count ≤ request.held then none
  else if request.overflows then some .capacity
  else memory.answer request

/-- Reserves room, or tells the reason why there is none. -/
def reserve (memory : Memory) (request : Reservation) : Except String Unit :=
  match memory.shortage? request with
  | none => .ok ()
  | some shortage => .error s!"{request.purpose}: {shortage.text}"

/-- Reserves room for a number of ports, and adds them if there is room. -/
def growTo (memory : Memory) (owner : ComponentId) (table : PortTable) (count : Nat) :
    Except String PortTable :=
  (memory.reserve (table.request owner count)).map fun _ => table.grow count

/-- A new table of `count` unconnected ports, if there is room for them. -/
def makePorts (memory : Memory) (owner : ComponentId) (direction : Direction) (count : Nat) :
    Except String PortTable :=
  memory.growTo owner { direction } count

/-! ## Lemmas -/

theorem reserve_of_le (memory : Memory) {request : Reservation}
    (h : request.count ≤ request.held) : memory.reserve request = .ok () := by
  unfold reserve shortage?
  rw [if_pos h]

/-- Where there is room for all, only a table that would be too large is refused. -/
theorem reserve_ample {request : Reservation} (h : request.overflows = false) :
    ample.reserve request = .ok () := by
  unfold reserve shortage?
  rw [h]
  split
  · next hnone => rfl
  · next shortage hsome => split at hsome <;> cases hsome

/-- Where there is no room in one table, there is in the others. -/
theorem reserve_without {table : Table} {request : Reservation} (htable : request.table ≠ table)
    (h : request.overflows = false) : (without table).reserve request = .ok () := by
  unfold reserve shortage? without
  dsimp only
  rw [h, if_neg htable]
  split
  · next hnone => rfl
  · next shortage hsome => split at hsome <;> cases hsome

theorem growTo_eq_ok_iff {memory : Memory} {owner : ComponentId} {table grown : PortTable}
    {count : Nat} :
    memory.growTo owner table count = .ok grown ↔
      memory.reserve (table.request owner count) = .ok () ∧
        grown = table.grow count := by
  unfold growTo
  cases memory.reserve (table.request owner count) with
  | error reason => exact ⟨nofun, nofun⟩
  | ok _ => exact ⟨fun h => ⟨rfl, (Except.ok.inj h).symm⟩, fun h => congrArg _ h.2.symm⟩

theorem makePorts_eq_ok_iff {memory : Memory} {owner : ComponentId} {direction : Direction}
    {count : Nat} {table : PortTable} :
    memory.makePorts owner direction count = .ok table ↔
      memory.reserve ⟨.ports owner direction, 0, count⟩ = .ok () ∧
        table = .ofCount direction count :=
  growTo_eq_ok_iff

end Memory

end TraceFlow
