import Mathlib.Algebra.GroupWithZero.Nat
import TraceFlow.Proofs.Blueprint

/-!
# The wiring of a context, port by port

A context that follows its blueprint has as many connections as the sources have output ports, and
one more. The output ports are numbered source by source; the connection, the output port and the
input port of the filter with one number belong together.
-/

namespace TraceFlow

variable {W α : Type}

theorem getElem?_flatten_mapIdx {β γ : Type} {piece : Nat → β → List γ} {size : β → Nat}
    (hsize : ∀ i item, (piece i item).length = size item) {items : List β} {i place : Nat}
    {item : β} (hi : items[i]? = some item) (hplace : place < size item) :
    (items.mapIdx piece).flatten[((items.take i).map size).sum + place]? =
      (piece i item)[place]? := by
  induction items generalizing i piece with
  | nil => cases hi
  | cons first rest ih =>
    rw [List.mapIdx_cons, List.flatten_cons]
    cases i with
    | zero =>
      cases hi
      rw [List.take_zero, List.map_nil, List.sum_nil, Nat.zero_add, List.getElem?_append_left]
      rw [hsize]
      exact hplace
    | succ i =>
      have hrest := ih (fun i => hsize (i + 1)) hi
      rw [List.take_succ_cons, List.map_cons, List.sum_cons, List.getElem?_append_right]
      · rw [← hrest, hsize]
        congr 1
        omega
      · rw [hsize]
        omega

namespace Fitted

/-- How many output ports come before those of source `i`. -/
def portsBefore (sources : List (Fitted W)) (i : Nat) : Nat :=
  ((sources.take i).map Fitted.ports).sum

def portsOf (sources : List (Fitted W)) : Nat := (sources.map Fitted.ports).sum

@[simp] theorem length_outlets (sources : List (Fitted W)) :
    (outlets sources).length = portsOf sources := by
  unfold outlets portsOf
  rw [List.length_flatten]
  congr 1
  apply List.ext_getElem
  · simp
  · intro i _ _
    simp

theorem getElem?_outlets {sources : List (Fitted W)} {i port : Nat} {fitted : Fitted W}
    (hi : sources[i]? = some fitted) (hport : port < fitted.ports) :
    (outlets sources)[portsBefore sources i + port]? =
      some (fitted, ComponentId.output ⟨i⟩ port) := by
  unfold outlets portsBefore
  rw [getElem?_flatten_mapIdx (by simp) hi hport]
  simp [hport]

theorem mem_outlets {sources : List (Fitted W)} {outlet : Fitted W × PortRef} :
    outlet ∈ outlets sources ↔ ∃ i, sources[i]? = some outlet.1 ∧
      ∃ port < outlet.1.ports, outlet.2 = ComponentId.output ⟨i⟩ port := by
  unfold outlets
  rw [List.mem_flatten]
  constructor
  · rintro ⟨piece, hpiece, houtlet⟩
    obtain ⟨i, hi, rfl⟩ := List.mem_mapIdx.mp hpiece
    obtain ⟨port, hport, rfl⟩ := List.mem_map.mp houtlet
    exact ⟨i, List.getElem?_eq_getElem hi, port, List.mem_range.mp hport, rfl⟩
  · rintro ⟨i, hi, port, hport, hsame⟩
    obtain ⟨hlt, hfitted⟩ := List.getElem?_eq_some_iff.mp hi
    refine ⟨_, List.mem_mapIdx.mpr ⟨i, hlt, rfl⟩, List.mem_map.mpr ⟨port, ?_, ?_⟩⟩
    · rw [hfitted]
      exact List.mem_range.mpr hport
    · rw [hfitted, ← hsame]

theorem nodup_outlets (sources : List (Fitted W)) : ((outlets sources).map Prod.snd).Nodup := by
  unfold outlets
  rw [List.map_flatten, List.nodup_flatten]
  constructor
  · intro piece hpiece
    obtain ⟨_, hmem, rfl⟩ := List.mem_map.mp hpiece
    obtain ⟨i, hi, rfl⟩ := List.mem_mapIdx.mp hmem
    rw [List.map_map]
    refine List.Nodup.map ?_ List.nodup_range
    intro port other hsame
    exact congrArg PortRef.index hsame
  · rw [List.pairwise_iff_getElem]
    intro i j hi hj hij port hfirst hsecond
    simp only [List.getElem_map, List.getElem_mapIdx, List.map_map, List.mem_map] at hfirst hsecond
    obtain ⟨_, -, rfl⟩ := hfirst
    obtain ⟨_, -, hsame⟩ := hsecond
    have hindex := congrArg (fun port : PortRef => port.component.index) hsame
    exact absurd hindex (Nat.ne_of_gt hij)

end Fitted

namespace Blueprint

@[simp] theorem length_outlets (blueprint : Blueprint W) :
    blueprint.outlets.length = Fitted.portsOf blueprint.sources := by
  simp [outlets]

theorem getElem?_components_filter (blueprint : Blueprint W) (config : Config)
    (sink : Sink W α) :
    (blueprint.components config sink)[blueprint.filterId.index]? =
      some (.ofFilter blueprint.filterClass config.filterName config.logLevel blueprint.filter
        blueprint.inputs blueprint.outputs) := by
  simp [components, filterId]

theorem getElem?_components_sink (blueprint : Blueprint W) (config : Config) (sink : Sink W α) :
    (blueprint.components config sink)[blueprint.sinkId.index]? =
      some (.ofSink sink config.sinkName) := by
  simp [components, sinkId]

theorem getElem?_outlets {blueprint : Blueprint W} {i port : Nat} {fitted : Fitted W}
    (hi : blueprint.sources[i]? = some fitted) (hport : port < fitted.ports) :
    blueprint.outlets[Fitted.portsBefore blueprint.sources i + port]? =
      some (ComponentId.output ⟨i⟩ port) := by
  unfold outlets
  rw [List.getElem?_map, Fitted.getElem?_outlets hi hport, Option.map_some]

theorem MadeBy.name {blueprint : Blueprint W} {builder : Builder W} {world : W}
    (h : blueprint.MadeBy builder world) {i : Nat} {fitted : Fitted W}
    (hi : blueprint.sources[i]? = some fitted) :
    fitted.name = builder.config.sourceInstanceName i := by
  obtain ⟨_, _, hreads⟩ := h.sources.exists_reads hi
  rw [Nat.zero_add] at hreads
  exact hreads.name

/-- A port that a wire of the blueprint ends at. -/
def Wires (blueprint : Blueprint W) (port : PortRef) : Prop :=
  (∃ i fitted, blueprint.sources[i]? = some fitted ∧
    ∃ q < fitted.ports, port = ComponentId.output ⟨i⟩ q) ∨
  (∃ k < Fitted.portsOf blueprint.sources, port = blueprint.filterId.input k) ∨
  port = blueprint.filterId.output 0 ∨ port = blueprint.sinkId.input 0

theorem mem_wires {blueprint : Blueprint W} {wire : PortRef × PortRef} :
    wire ∈ blueprint.wires ↔
      (∃ k, blueprint.outlets[k]? = some wire.1 ∧ wire.2 = blueprint.filterId.input k) ∨
      wire = (blueprint.filterId.output 0, blueprint.sinkId.input 0) := by
  unfold wires
  rw [List.mem_append, List.mem_singleton]
  refine or_congr_left ?_
  constructor
  · intro h
    obtain ⟨k, hk, rfl⟩ := List.mem_mapIdx.mp h
    exact ⟨k, List.getElem?_eq_getElem hk, rfl⟩
  · rintro ⟨k, hk, hsame⟩
    obtain ⟨hlt, hport⟩ := List.getElem?_eq_some_iff.mp hk
    refine List.mem_mapIdx.mpr ⟨k, hlt, ?_⟩
    rw [hport, ← hsame]

theorem exists_wire_iff {blueprint : Blueprint W} {port : PortRef} :
    (∃ wire ∈ blueprint.wires, wire.1 = port ∨ wire.2 = port) ↔ blueprint.Wires port := by
  constructor
  · rintro ⟨wire, hwire, hend⟩
    rcases mem_wires.mp hwire with ⟨k, hk, hinput⟩ | rfl
    · rcases hend with rfl | rfl
      · obtain ⟨outlet, houtlet, hport⟩ := List.mem_map.mp (List.mem_of_getElem? hk)
        obtain ⟨i, hi, q, hq, hsame⟩ := Fitted.mem_outlets.mp houtlet
        exact .inl ⟨i, _, hi, q, hq, hport.symm.trans hsame⟩
      · have hlt := (List.getElem?_eq_some_iff.mp hk).1
        rw [length_outlets] at hlt
        exact .inr (.inl ⟨k, hlt, hinput⟩)
    · exact .inr (.inr (hend.imp Eq.symm Eq.symm))
  · rintro (⟨i, fitted, hi, q, hq, rfl⟩ | ⟨k, hk, rfl⟩ | rfl | rfl)
    · exact ⟨(_, _), mem_wires.mpr (.inl ⟨_, getElem?_outlets hi hq, rfl⟩), .inl rfl⟩
    · rw [← length_outlets] at hk
      exact ⟨(_, _), mem_wires.mpr (.inl ⟨k, List.getElem?_eq_getElem hk, rfl⟩), .inr rfl⟩
    · exact ⟨_, mem_wires.mpr (.inr rfl), .inl rfl⟩
    · exact ⟨_, mem_wires.mpr (.inr rfl), .inr rfl⟩

end Blueprint

namespace Context.Follows

variable {context : Context W α} {config : Config} {sink : Sink W α} {blueprint : Blueprint W}

theorem connection? (h : context.Follows config sink blueprint) (k : Nat) :
    context.graph.connections[k]? =
      blueprint.wires[k]?.map fun wire => ⟨⟨k⟩, wire.1, wire.2⟩ := by
  rw [h.laid.connections, List.getElem?_mapIdx]

theorem source_component (h : context.Follows config sink blueprint) {i : Nat}
    {fitted : Fitted W} (hi : blueprint.sources[i]? = some fitted) :
    ∃ c, context.graph.component? ⟨i⟩ = some c ∧ c.name = fitted.name ∧
      c.className = some blueprint.sourceClass.name ∧ c.level = config.logLevel ∧
      c.role = .source fitted.source ∧ c.inputs.size = 0 ∧ c.outputs.size = fitted.ports := by
  have hat : (blueprint.components config sink)[i]? =
      some (fitted.component blueprint.sourceClass config.logLevel) := by
    have hlt := (List.getElem?_eq_some_iff.mp hi).1
    unfold Blueprint.components
    rw [List.getElem?_append_left (by simp; omega), List.getElem?_append_left (by simpa using hlt),
      List.getElem?_map, hi, Option.map_some]
  obtain ⟨c, hc, hgrows, hrole⟩ := h.laid.component i _ hat
  exact ⟨c, hc, hgrows.name, hgrows.className, hgrows.level, hrole,
    hgrows.inputs_eq (fun hkind => by cases hkind),
    hgrows.outputs.trans (PortTable.size_ofCount ..)⟩

theorem filter_component (h : context.Follows config sink blueprint) :
    ∃ c, context.graph.component? context.filter = some c ∧ c.name = config.filterName ∧
      c.className = some blueprint.filterClass.name ∧ c.level = config.logLevel ∧
      c.role = .filter blueprint.filter ∧ c.outputs.size = blueprint.outputs := by
  obtain ⟨c, hc, hgrows, hrole⟩ :=
    h.laid.component _ _ (blueprint.getElem?_components_filter config sink)
  rw [h.filter]
  exact ⟨c, hc, hgrows.name, hgrows.className, hgrows.level, hrole,
    hgrows.outputs.trans (PortTable.size_ofCount ..)⟩

end Context.Follows

namespace Builder

def fork : SourceClass Nat where
  name := "fork"
  description := none
  instantiate _ _ := pure { outputCount := fun _ => 2, iterator := fun _ => pure ⟨pure .ended⟩ }

/-- A filter with one input port more than connections; the world counts these. -/
def funnel : FilterClass Nat where
  name := "funnel"
  description := none
  instantiate _ _ := pure
    { inputCount := (· + 1)
      outputCount := fun _ => 1
      inputConnected := fun _ => (· + 1)
      iterator := fun _ _ => pure ⟨pure .ended⟩ }

def twoForks : Builder Nat where
  registry := ⟨fun _ => pure (some { name := "tools", sources := [fork], filters := [funnel] })⟩
  locators := ["left".toUTF8, "right".toUTF8]
  config := { sourceClass := "fork", filterClass := "funnel" }

theorem twoForks_built :
    ∃ context opened, twoForks.build Graph.cup ⟨.plain 0, .empty⟩ = (.ok context, opened) := by
  have hbuilt : (twoForks.build Graph.cup ⟨.plain 0, .empty⟩).1.toOption.isSome = true := by
    decide +kernel
  rcases h : twoForks.build Graph.cup ⟨.plain 0, .empty⟩ with ⟨e | context, opened⟩
  · rw [h] at hbuilt
    cases hbuilt
  · exact ⟨context, opened, rfl⟩

end Builder

end TraceFlow
