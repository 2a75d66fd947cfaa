import TraceFlow.Graph.Assembly

/-!
# What a change of the graph does to its ports

A graph changes in few ways: a component is placed, a port takes a connection, a row of input ports
grows. For each of them, what is found at every port afterwards.
-/

namespace TraceFlow

namespace PortTable

theorem countP_modify {p : Port → Bool} {f : Port → Port} {l : List Port} {i : Nat} {a : Port}
    (h : l[i]? = some a) (hp : p a = false) (hf : p (f a) = true) :
    (l.modify i f).countP p = l.countP p + 1 := by
  induction l generalizing i with
  | nil => simp at h
  | cons x rest ih =>
    cases i with
    | zero =>
      simp only [List.getElem?_cons_zero, Option.some.injEq] at h
      subst h
      simp [hp, hf]
    | succ i =>
      rw [List.getElem?_cons_succ] at h
      rw [List.modify_succ_cons, List.countP_cons, List.countP_cons, ih h]
      omega

theorem connectedCount_attach {table : PortTable} {index : Nat} {port : Port} {id : ConnectionId}
    (h : table.port? index = some port) (hfree : port.connection = none) :
    (table.attach index (some id)).connectedCount = table.connectedCount + 1 :=
  countP_modify h (by simp [Port.isConnected, hfree]) (by simp [Port.isConnected])

@[simp] theorem connectedCount_grow (table : PortTable) (count : Nat) :
    (table.grow count).connectedCount = table.connectedCount := by
  unfold connectedCount grow
  rw [List.countP_append, List.countP_map]
  have : List.countP (Port.isConnected ∘ Port.fresh table.direction)
      (List.range' table.size (count - table.size)) = 0 := by
    simp [List.countP_eq_zero, Port.isConnected, Port.fresh]
  omega

@[simp] theorem connectedCount_ofCount (direction : Direction) (count : Nat) :
    (ofCount direction count).connectedCount = 0 :=
  connectedCount_grow { direction } count

@[simp] theorem size_ofCount (direction : Direction) (count : Nat) :
    (ofCount direction count).size = count := by
  unfold ofCount
  rw [size_grow]
  simp [size]

@[simp] theorem direction_ofCount (direction : Direction) (count : Nat) :
    (ofCount direction count).direction = direction := rfl

theorem port?_ofCount (direction : Direction) (count index : Nat) :
    (ofCount direction count).port? index =
      if index < count then some (.fresh direction index) else none :=
  port?_grow_of_le { direction } (Nat.zero_le index)

end PortTable

/-- Two components that differ at most in what their ports hold. -/
structure Component.Alike {W α : Type} (c other : Component W α) : Prop where
  name : other.name = c.name
  className : other.className = c.className
  level : other.level = c.level
  role : other.role = c.role
  direction : ∀ d, (other.table d).direction = (c.table d).direction
  size : ∀ d, (other.table d).size = (c.table d).size

namespace Component.Alike

variable {W α : Type} {c other last : Component W α}

theorem refl (c : Component W α) : c.Alike c := ⟨rfl, rfl, rfl, rfl, fun _ => rfl, fun _ => rfl⟩

theorem trans (h : c.Alike other) (h' : other.Alike last) : c.Alike last where
  name := h'.name.trans h.name
  className := h'.className.trans h.className
  level := h'.level.trans h.level
  role := h'.role.trans h.role
  direction d := (h'.direction d).trans (h.direction d)
  size d := (h'.size d).trans (h.size d)

theorem modifyTable_attach (c : Component W α) (direction : Direction) (index : Nat)
    (connection : Option ConnectionId) :
    c.Alike (c.modifyTable direction (·.attach index connection)) where
  name := by cases direction <;> rfl
  className := by cases direction <;> rfl
  level := by cases direction <;> rfl
  role := by cases direction <;> rfl
  direction d := by cases direction <;> cases d <;> rfl
  size d := by cases direction <;> cases d <;> simp [Component.modifyTable, Component.table]

end Component.Alike

namespace Graph

variable {W α : Type}

/-- The connection that a port holds. -/
def holds? (g : Graph W α) (ref : PortRef) : Option ConnectionId :=
  (g.port? ref).bind Port.connection

theorem port?_eq_bind (g : Graph W α) (ref : PortRef) :
    g.port? ref =
      (g.component? ref.component).bind fun c => (c.table ref.direction).port? ref.index := by
  unfold port? table?
  cases g.component? ref.component <;> rfl

theorem port?_of_component {g : Graph W α} {ref : PortRef} {c : Component W α}
    (h : g.component? ref.component = some c) :
    g.port? ref = (c.table ref.direction).port? ref.index := by
  rw [port?_eq_bind, h, Option.bind_some]

theorem component?_isSome_of_port? {g : Graph W α} {ref : PortRef} (h : (g.port? ref).isSome) :
    (g.component? ref.component).isSome := by
  rw [port?_eq_bind] at h
  cases hc : g.component? ref.component with
  | none => simp [hc] at h
  | some c => rfl

theorem component?_isSome_iff {g : Graph W α} {id : ComponentId} :
    (g.component? id).isSome ↔ id.index < g.components.length := by
  simp [component?]

def name? (g : Graph W α) (id : ComponentId) : Option String := (g.component? id).map Component.name

theorem map_component?_modify {β : Type} {p : Component W α → β}
    {f : Component W α → Component W α} (h : ∀ c, p (f c) = p c) (g : Graph W α)
    (id other : ComponentId) :
    ((g.modify id f).component? other).map p = (g.component? other).map p := by
  by_cases hid : other = id
  · subst hid
    rw [component?_modify_self]
    cases g.component? other with
    | none => rfl
    | some c => simp [h]
  · rw [component?_modify_of_ne g hid]

/-! ## A component is placed -/

theorem component?_nextId (g : Graph W α) : g.component? g.nextId = none := by
  simp [component?, nextId]

theorem name?_nextId (g : Graph W α) : g.name? g.nextId = none := by
  unfold name?
  rw [component?_nextId, Option.map_none]

theorem component?_place_self (g : Graph W α) (c : Component W α) :
    (g.place c).component? g.nextId = some c := by
  simp [component?, nextId, place]

theorem component?_place_of_ne (g : Graph W α) (c : Component W α) {id : ComponentId}
    (h : id ≠ g.nextId) : (g.place c).component? id = g.component? id := by
  have hi : id.index ≠ g.components.length := fun e => h (by cases id; simp_all [nextId])
  unfold component? place
  by_cases hlt : id.index < g.components.length
  · rw [List.getElem?_append_left hlt]
  · rw [List.getElem?_eq_none (by simp; omega), List.getElem?_eq_none (by omega)]

theorem component?_place_of_isSome {g : Graph W α} (c : Component W α) {id : ComponentId}
    (h : (g.component? id).isSome) : (g.place c).component? id = g.component? id := by
  apply component?_place_of_ne
  rintro rfl
  rw [component?_nextId] at h
  cases h

theorem kind?_place_of_ne (g : Graph W α) (c : Component W α) {id : ComponentId}
    (h : id ≠ g.nextId) : (g.place c).kind? id = g.kind? id := by
  unfold kind?
  rw [component?_place_of_ne g c h]

theorem kind?_place_self (g : Graph W α) (c : Component W α) :
    (g.place c).kind? g.nextId = some c.kind := by
  unfold kind?
  rw [component?_place_self, Option.map_some]

theorem name?_place_of_ne (g : Graph W α) (c : Component W α) {id : ComponentId}
    (h : id ≠ g.nextId) : (g.place c).name? id = g.name? id := by
  unfold name?
  rw [component?_place_of_ne g c h]

theorem name?_place_self (g : Graph W α) (c : Component W α) :
    (g.place c).name? g.nextId = some c.name := by
  unfold name?
  rw [component?_place_self, Option.map_some]

theorem ids_place (g : Graph W α) (c : Component W α) : (g.place c).ids = g.ids ++ [g.nextId] := by
  simp [ids, place, List.range_succ, nextId]

theorem table?_place_of_ne (g : Graph W α) (c : Component W α) {id : ComponentId}
    (h : id ≠ g.nextId) (direction : Direction) :
    (g.place c).table? id direction = g.table? id direction := by
  unfold table?
  rw [component?_place_of_ne g c h]

theorem table?_place_self (g : Graph W α) (c : Component W α) (direction : Direction) :
    (g.place c).table? g.nextId direction = some (c.table direction) := by
  unfold table?
  rw [component?_place_self, Option.map_some]

theorem portCount_place_of_ne (g : Graph W α) (c : Component W α) {id : ComponentId}
    (h : id ≠ g.nextId) (direction : Direction) :
    (g.place c).portCount id direction = g.portCount id direction := by
  unfold portCount
  rw [table?_place_of_ne g c h]

theorem portCount_place_self (g : Graph W α) (c : Component W α) (direction : Direction) :
    (g.place c).portCount g.nextId direction = .ok (c.table direction).size := by
  unfold portCount
  rw [table?_place_self]

theorem port?_place_of_ne (g : Graph W α) (c : Component W α) {ref : PortRef}
    (h : ref.component ≠ g.nextId) : (g.place c).port? ref = g.port? ref := by
  unfold port?
  rw [table?_place_of_ne g c h]

theorem port?_place_of_isSome {g : Graph W α} (c : Component W α) {ref : PortRef}
    (h : (g.port? ref).isSome) : (g.place c).port? ref = g.port? ref := by
  rw [port?_eq_bind, port?_eq_bind,
    component?_place_of_isSome c (component?_isSome_of_port? h)]

/-! ## A port takes a connection -/

@[simp] theorem connections_attach (g : Graph W α) (port : PortRef) (id : ConnectionId) :
    (g.attach port id).connections = g.connections := rfl

theorem component?_attach_self (g : Graph W α) (port : PortRef) (id : ConnectionId) :
    (g.attach port id).component? port.component =
      (g.component? port.component).map fun c =>
        c.modifyTable port.direction (·.attach port.index (some id)) :=
  component?_modify_self g port.component _

@[simp] theorem kind?_attach (g : Graph W α) (port : PortRef) (id : ConnectionId)
    (other : ComponentId) : (g.attach port id).kind? other = g.kind? other :=
  map_component?_modify (fun c => Component.kind_modifyTable c _ _) g _ _

@[simp] theorem name?_attach (g : Graph W α) (port : PortRef) (id : ConnectionId)
    (other : ComponentId) : (g.attach port id).name? other = g.name? other :=
  map_component?_modify (fun c => Component.name_modifyTable c _ _) g _ _

@[simp] theorem ids_attach (g : Graph W α) (port : PortRef) (id : ConnectionId) :
    (g.attach port id).ids = g.ids := by
  simp [ids, attach, modify]

theorem component?_attach_of_ne (g : Graph W α) {port : PortRef} {other : ComponentId}
    (h : other ≠ port.component) (id : ConnectionId) :
    (g.attach port id).component? other = g.component? other :=
  component?_modify_of_ne g h _

theorem component?_attach_alike (g : Graph W α) (port : PortRef) (id : ConnectionId)
    {other : ComponentId} {c : Component W α} (h : g.component? other = some c) :
    ∃ c', (g.attach port id).component? other = some c' ∧ c.Alike c' := by
  by_cases hc : other = port.component
  · subst hc
    rw [component?_attach_self, h]
    exact ⟨_, rfl, .modifyTable_attach ..⟩
  · rw [component?_attach_of_ne _ hc, h]
    exact ⟨c, rfl, .refl c⟩

theorem port?_attach_self (g : Graph W α) (port : PortRef) (id : ConnectionId) :
    (g.attach port id).port? port =
      (g.port? port).map fun found => { found with connection := some id } := by
  rw [port?_eq_bind, port?_eq_bind, component?_attach_self]
  cases g.component? port.component with
  | none => rfl
  | some c => simp [PortTable.port?_attach_self]

theorem port?_attach_of_ne (g : Graph W α) {port ref : PortRef} (h : ref ≠ port)
    (id : ConnectionId) : (g.attach port id).port? ref = g.port? ref := by
  rw [port?_eq_bind, port?_eq_bind]
  by_cases hc : ref.component = port.component
  · rw [hc, component?_attach_self]
    cases g.component? port.component with
    | none => rfl
    | some c =>
      simp only [Option.map_some, Option.bind_some]
      by_cases hd : ref.direction = port.direction
      · have hi : ref.index ≠ port.index := fun e => h (by cases ref; cases port; simp_all)
        rw [hd, Component.table_modifyTable_self, PortTable.port?_attach_of_ne _ hi]
      · rw [Component.table_modifyTable_of_ne _ hd]
  · rw [component?_attach_of_ne _ hc]

theorem isSome_port?_attach (g : Graph W α) (port ref : PortRef) (id : ConnectionId) :
    ((g.attach port id).port? ref).isSome = (g.port? ref).isSome := by
  by_cases h : ref = port
  · rw [h, port?_attach_self, Option.isSome_map]
  · rw [port?_attach_of_ne _ h]

theorem table?_attach_self (g : Graph W α) (port : PortRef) (id : ConnectionId) :
    (g.attach port id).table? port.component port.direction =
      (g.table? port.component port.direction).map (·.attach port.index (some id)) := by
  unfold table?
  rw [component?_attach_self, Option.map_map, Option.map_map]
  congr 1
  funext c
  exact Component.table_modifyTable_self ..

theorem table?_attach_of_ne (g : Graph W α) {port : PortRef} {other : ComponentId}
    {direction : Direction} (h : other = port.component → direction ≠ port.direction)
    (id : ConnectionId) :
    (g.attach port id).table? other direction = g.table? other direction := by
  by_cases hc : other = port.component
  · exact map_component?_modify (fun c => Component.table_modifyTable_of_ne c (h hc) _) g _ _
  · unfold table?
    rw [component?_attach_of_ne g hc]

@[simp] theorem portCount_attach (g : Graph W α) (port : PortRef) (id : ConnectionId)
    (other : ComponentId) (direction : Direction) :
    (g.attach port id).portCount other direction = g.portCount other direction := by
  unfold portCount
  by_cases h : other = port.component ∧ direction = port.direction
  · rw [h.1, h.2, table?_attach_self]
    cases g.table? port.component port.direction <;> simp
  · rw [table?_attach_of_ne g fun hc hd => h ⟨hc, hd⟩]

theorem map_direction_attach (g : Graph W α) (port : PortRef) (id : ConnectionId)
    (other : ComponentId) (direction : Direction) :
    ((g.attach port id).table? other direction).map PortTable.direction =
      (g.table? other direction).map PortTable.direction := by
  unfold table?
  rw [Option.map_map, Option.map_map]
  exact map_component?_modify
    (fun c => (Component.Alike.modifyTable_attach c port.direction port.index _).direction _) g _ _

/-! ## Two ports are joined -/

/-- The end of a connection in one direction: it comes from an output and leads to an input. -/
def ends (upstream downstream : PortRef) : Direction → PortRef
  | .input => downstream
  | .output => upstream

@[simp] theorem connections_link (g : Graph W α) (upstream downstream : PortRef) :
    (g.link upstream downstream).connections =
      g.connections ++ [⟨⟨g.connections.length⟩, upstream, downstream⟩] := rfl

@[simp] theorem kind?_link (g : Graph W α) (upstream downstream : PortRef) (id : ComponentId) :
    (g.link upstream downstream).kind? id = g.kind? id := by
  unfold link
  rw [kind?_attach, kind?_attach]
  rfl

@[simp] theorem name?_link (g : Graph W α) (upstream downstream : PortRef) (id : ComponentId) :
    (g.link upstream downstream).name? id = g.name? id := by
  unfold link
  rw [name?_attach, name?_attach]
  rfl

@[simp] theorem portCount_link (g : Graph W α) (upstream downstream : PortRef)
    (id : ComponentId) (direction : Direction) :
    (g.link upstream downstream).portCount id direction = g.portCount id direction := by
  unfold link
  rw [portCount_attach, portCount_attach]
  rfl

theorem map_direction_link (g : Graph W α) (upstream downstream : PortRef) (id : ComponentId)
    (direction : Direction) :
    ((g.link upstream downstream).table? id direction).map PortTable.direction =
      (g.table? id direction).map PortTable.direction := by
  unfold link
  rw [map_direction_attach, map_direction_attach]
  rfl

@[simp] theorem ids_link (g : Graph W α) (upstream downstream : PortRef) :
    (g.link upstream downstream).ids = g.ids := by
  unfold link
  rw [ids_attach, ids_attach]
  rfl

theorem component?_link_alike (g : Graph W α) (upstream downstream : PortRef) {id : ComponentId}
    {c : Component W α} (h : g.component? id = some c) :
    ∃ c', (g.link upstream downstream).component? id = some c' ∧ c.Alike c' := by
  unfold link
  let joined : Graph W α :=
    { g with connections := g.connections ++ [⟨⟨g.connections.length⟩, upstream, downstream⟩] }
  have hjoined : joined.component? id = some c := h
  obtain ⟨c₁, h₁, halike₁⟩ := component?_attach_alike joined upstream ⟨g.connections.length⟩ hjoined
  obtain ⟨c₂, h₂, halike₂⟩ := component?_attach_alike _ downstream ⟨g.connections.length⟩ h₁
  exact ⟨c₂, h₂, halike₁.trans halike₂⟩

theorem table?_link_self (g : Graph W α) {upstream downstream : PortRef}
    (hup : upstream.direction = .output) (hdown : downstream.direction = .input)
    (direction : Direction) :
    (g.link upstream downstream).table? (ends upstream downstream direction).component direction =
      (g.table? (ends upstream downstream direction).component direction).map
        (·.attach (ends upstream downstream direction).index (some ⟨g.connections.length⟩)) := by
  unfold link
  cases direction with
  | output =>
    rw [table?_attach_of_ne _ fun _ => by rw [hdown]; decide]
    simp only [ends]
    rw [← hup, table?_attach_self]
    rfl
  | input =>
    simp only [ends]
    rw [← hdown, table?_attach_self, table?_attach_of_ne _ fun _ => by rw [hup, hdown]; decide]
    rfl

theorem table?_link_of_ne (g : Graph W α) {upstream downstream : PortRef}
    (hup : upstream.direction = .output) (hdown : downstream.direction = .input)
    {id : ComponentId} {direction : Direction}
    (hid : id ≠ (ends upstream downstream direction).component) :
    (g.link upstream downstream).table? id direction = g.table? id direction := by
  have hfirst : id = upstream.component → direction ≠ upstream.direction := by
    intro h hdirection
    rw [hup] at hdirection
    subst hdirection
    exact hid h
  have hlast : id = downstream.component → direction ≠ downstream.direction := by
    intro h hdirection
    rw [hdown] at hdirection
    subst hdirection
    exact hid h
  unfold link
  rw [table?_attach_of_ne _ hlast, table?_attach_of_ne _ hfirst]
  rfl

theorem isSome_port?_link (g : Graph W α) (upstream downstream ref : PortRef) :
    ((g.link upstream downstream).port? ref).isSome = (g.port? ref).isSome := by
  unfold link
  rw [isSome_port?_attach, isSome_port?_attach]
  rfl

theorem port?_link_of_ne (g : Graph W α) {upstream downstream ref : PortRef}
    (hup : ref ≠ upstream) (hdown : ref ≠ downstream) :
    (g.link upstream downstream).port? ref = g.port? ref := by
  unfold link
  rw [port?_attach_of_ne _ hdown, port?_attach_of_ne _ hup]
  rfl

theorem port?_link_of_end (g : Graph W α) {upstream downstream ref : PortRef}
    (hne : upstream ≠ downstream) (h : ref = upstream ∨ ref = downstream) :
    (g.link upstream downstream).port? ref =
      (g.port? ref).map fun port => { port with connection := some ⟨g.connections.length⟩ } := by
  unfold link
  rcases h with rfl | rfl
  · rw [port?_attach_of_ne _ hne, port?_attach_self]
    rfl
  · rw [port?_attach_self, port?_attach_of_ne _ hne.symm]
    rfl

theorem holds?_link_of_end {g : Graph W α} {upstream downstream ref : PortRef}
    (hne : upstream ≠ downstream) (hend : ref = upstream ∨ ref = downstream)
    (h : (g.port? ref).isSome) :
    (g.link upstream downstream).holds? ref = some ⟨g.connections.length⟩ := by
  obtain ⟨port, hport⟩ := Option.isSome_iff_exists.mp h
  unfold holds?
  rw [port?_link_of_end g hne hend, hport]
  rfl

theorem holds?_link_of_ne (g : Graph W α) {upstream downstream ref : PortRef}
    (hup : ref ≠ upstream) (hdown : ref ≠ downstream) :
    (g.link upstream downstream).holds? ref = g.holds? ref := by
  unfold holds?
  rw [port?_link_of_ne g hup hdown]

/-! ## A row of input ports grows -/

def growInputs (g : Graph W α) (id : ComponentId) (count : Nat) : Graph W α :=
  g.modify id fun c => { c with inputs := c.inputs.grow count }

theorem component?_growInputs_self (g : Graph W α) (id : ComponentId) (count : Nat) :
    (g.growInputs id count).component? id =
      (g.component? id).map fun c => { c with inputs := c.inputs.grow count } :=
  component?_modify_self g id _

theorem component?_growInputs_of_ne (g : Graph W α) {id other : ComponentId} (h : other ≠ id)
    (count : Nat) : (g.growInputs id count).component? other = g.component? other :=
  component?_modify_of_ne g h _

@[simp] theorem kind?_growInputs (g : Graph W α) (id : ComponentId) (count : Nat)
    (other : ComponentId) : (g.growInputs id count).kind? other = g.kind? other := by
  unfold growInputs kind?
  apply map_component?_modify
  intro c
  rfl

@[simp] theorem name?_growInputs (g : Graph W α) (id : ComponentId) (count : Nat)
    (other : ComponentId) : (g.growInputs id count).name? other = g.name? other := by
  unfold growInputs name?
  apply map_component?_modify
  intro c
  rfl

@[simp] theorem ids_growInputs (g : Graph W α) (id : ComponentId) (count : Nat) :
    (g.growInputs id count).ids = g.ids := by
  simp [ids, growInputs, modify]

theorem table?_growInputs_of_ne (g : Graph W α) {id other : ComponentId} (h : other ≠ id)
    (count : Nat) (direction : Direction) :
    (g.growInputs id count).table? other direction = g.table? other direction := by
  unfold table?
  rw [component?_growInputs_of_ne g h]

theorem table?_growInputs_output (g : Graph W α) (id : ComponentId) (count : Nat)
    (other : ComponentId) :
    (g.growInputs id count).table? other .output = g.table? other .output := by
  unfold growInputs table?
  apply map_component?_modify
  intro c
  rfl

theorem table?_growInputs_self (g : Graph W α) (id : ComponentId) (count : Nat) :
    (g.growInputs id count).table? id .input = (g.table? id .input).map (·.grow count) := by
  unfold table?
  rw [component?_growInputs_self, Option.map_map, Option.map_map]
  rfl

theorem table?_growInputs {g : Graph W α} {id : ComponentId} {count : Nat} {other : ComponentId}
    {direction : Direction} {table : PortTable}
    (h : (g.growInputs id count).table? other direction = some table) :
    g.table? other direction = some table ∨
      ∃ old, g.table? other direction = some old ∧ table = old.grow count := by
  by_cases hid : other = id
  · subst hid
    cases direction with
    | output =>
      rw [table?_growInputs_output] at h
      exact .inl h
    | input =>
      rw [table?_growInputs_self] at h
      obtain ⟨old, hold, rfl⟩ := Option.map_eq_some_iff.mp h
      exact .inr ⟨old, hold, rfl⟩
  · rw [table?_growInputs_of_ne g hid] at h
    exact .inl h

theorem portCount_growInputs_of_ne (g : Graph W α) {id other : ComponentId} (h : other ≠ id)
    (count : Nat) (direction : Direction) :
    (g.growInputs id count).portCount other direction = g.portCount other direction := by
  unfold portCount
  rw [table?_growInputs_of_ne g h]

theorem portCount_growInputs_self {g : Graph W α} {id : ComponentId} {size : Nat}
    (h : g.portCount id .input = .ok size) (count : Nat) :
    (g.growInputs id count).portCount id .input = .ok (max size count) := by
  unfold portCount at h ⊢
  rw [table?_growInputs_self]
  cases htable : g.table? id .input with
  | none =>
    rw [htable] at h
    cases h
  | some table =>
    rw [htable] at h
    cases h
    exact congrArg Except.ok (PortTable.size_grow ..)

theorem port?_growInputs (g : Graph W α) (id : ComponentId) (count : Nat) (ref : PortRef) :
    (g.growInputs id count).port? ref = g.port? ref ∨
      g.port? ref = none ∧ ref.component = id ∧ ref.direction = .input ∧
        ∃ c, g.component? id = some c ∧
          (g.growInputs id count).port? ref = some (.fresh c.inputs.direction ref.index) := by
  rw [port?_eq_bind, port?_eq_bind]
  by_cases hc : ref.component = id
  · rw [hc, component?_growInputs_self]
    cases hg : g.component? id with
    | none => exact .inl rfl
    | some c =>
      cases hd : ref.direction with
      | output => exact .inl rfl
      | input =>
        simp only [Option.map_some, Option.bind_some, Component.table]
        by_cases hlt : ref.index < c.inputs.size
        · exact .inl (PortTable.port?_grow_of_lt _ _ hlt)
        · have hnone : c.inputs.port? ref.index = none := by
            rw [← Option.not_isSome_iff_eq_none, PortTable.port?_isSome_iff]
            exact hlt
          rw [PortTable.port?_grow_of_le _ (Nat.le_of_not_lt hlt), hnone]
          by_cases hcount : ref.index < count
          · rw [if_pos hcount]
            exact .inr ⟨rfl, trivial, trivial, c, rfl, rfl⟩
          · rw [if_neg hcount]
            exact .inl rfl
  · rw [component?_growInputs_of_ne _ hc]
    exact .inl rfl

theorem port?_growInputs_of_isSome {g : Graph W α} {ref : PortRef} (h : (g.port? ref).isSome)
    (id : ComponentId) (count : Nat) : (g.growInputs id count).port? ref = g.port? ref := by
  rcases port?_growInputs g id count ref with hsame | ⟨hnone, -⟩
  · exact hsame
  · rw [hnone] at h
    cases h

@[simp] theorem holds?_growInputs (g : Graph W α) (id : ComponentId) (count : Nat)
    (ref : PortRef) : (g.growInputs id count).holds? ref = g.holds? ref := by
  unfold holds?
  rcases port?_growInputs g id count ref with hsame | ⟨hnone, -, -, c, -, hnew⟩
  · rw [hsame]
  · rw [hnone, hnew]
    rfl

end Graph

end TraceFlow
