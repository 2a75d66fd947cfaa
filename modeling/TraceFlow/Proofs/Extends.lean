import TraceFlow.Proofs.Changes

/-!
# What is never taken back

A component, a name, a port and a connection that are there stay for good. Only filters get more
input ports, and only a port without a connection takes one.
-/

namespace TraceFlow

/-- What a component may become: a sink moves on, and a filter gets more input ports. -/
structure Component.Grows {W α : Type} (c c' : Component W α) : Prop where
  name : c'.name = c.name
  className : c'.className = c.className
  level : c'.level = c.level
  kind : c'.kind = c.kind
  role : (c'.setPhase .idle).role = (c.setPhase .idle).role
  direction : ∀ d, (c'.table d).direction = (c.table d).direction
  inputs : c.inputs.size ≤ c'.inputs.size
  inputs_eq : c.kind ≠ .filter → c'.inputs.size = c.inputs.size
  outputs : c'.outputs.size = c.outputs.size

namespace Component

variable {W α : Type} {c c' c'' : Component W α}

theorem Grows.refl (c : Component W α) : c.Grows c :=
  ⟨rfl, rfl, rfl, rfl, rfl, fun _ => rfl, Nat.le_refl _, fun _ => rfl, rfl⟩

theorem Grows.trans (h : c.Grows c') (h' : c'.Grows c'') : c.Grows c'' where
  name := h'.name.trans h.name
  className := h'.className.trans h.className
  level := h'.level.trans h.level
  kind := h'.kind.trans h.kind
  role := h'.role.trans h.role
  direction d := (h'.direction d).trans (h.direction d)
  inputs := Nat.le_trans h.inputs h'.inputs
  inputs_eq hkind := (h'.inputs_eq (h.kind ▸ hkind)).trans (h.inputs_eq hkind)
  outputs := h'.outputs.trans h.outputs

theorem role_setPhase_congr (h : c'.role = c.role) (phase : SinkPhase W) :
    (c'.setPhase phase).role = (c.setPhase phase).role := by
  obtain ⟨_, _, _, _, _, role⟩ := c
  obtain ⟨_, _, _, _, _, _⟩ := c'
  cases h
  cases role <;> rfl

theorem Alike.grows (h : c.Alike c') : c.Grows c' where
  name := h.name
  className := h.className
  level := h.level
  kind := by unfold kind; rw [h.role]
  role := role_setPhase_congr h.role .idle
  direction := h.direction
  inputs := Nat.le_of_eq (h.size .input).symm
  inputs_eq _ := h.size .input
  outputs := h.size .output

theorem grows_of_setPhase (h : c'.setPhase .idle = c.setPhase .idle) : c.Grows c' := by
  have htable (d : Direction) : c'.table d = c.table d := by
    rw [← table_setPhase c' .idle, h, table_setPhase]
  have hinputs : c'.inputs = c.inputs := htable .input
  have houtputs : c'.outputs = c.outputs := htable .output
  exact
    { name := by rw [← name_setPhase c' .idle, h, name_setPhase]
      className := by rw [← className_setPhase c' .idle, h, className_setPhase]
      level := by rw [← level_setPhase c' .idle, h, level_setPhase]
      kind := by rw [← kind_setPhase c' .idle, h, kind_setPhase]
      role := by rw [h]
      direction := fun d => by rw [htable]
      inputs := Nat.le_of_eq (by rw [hinputs])
      inputs_eq := fun _ => by rw [hinputs]
      outputs := by rw [houtputs] }

end Component

/-- What a port may become: it keeps the connection that it holds. -/
structure Port.Keeps (port port' : Port) : Prop where
  name : port'.name = port.name
  direction : port'.direction = port.direction
  index : port'.index = port.index
  connection : port.isConnected → port'.connection = port.connection

namespace Port

variable {port port' port'' : Port}

theorem Keeps.refl (port : Port) : port.Keeps port := ⟨rfl, rfl, rfl, fun _ => rfl⟩

theorem Keeps.trans (h : port.Keeps port') (h' : port'.Keeps port'') : port.Keeps port'' where
  name := h'.name.trans h.name
  direction := h'.direction.trans h.direction
  index := h'.index.trans h.index
  connection hheld := by
    have hsame := h.connection hheld
    have hheld' : port'.isConnected := by
      unfold isConnected at hheld ⊢
      rw [hsame]
      exact hheld
    exact (h'.connection hheld').trans hsame

end Port

namespace Graph

variable {W α : Type}

structure Extends (g g' : Graph W α) : Prop where
  connections : g.connections <+: g'.connections
  sinks : g.sinks <+: g'.sinks
  names : ∀ name id, g.find? name = some id → g'.find? name = some id
  component : ∀ id c, g.component? id = some c → ∃ c', g'.component? id = some c' ∧ c.Grows c'
  port : ∀ ref port, g.port? ref = some port → ∃ port', g'.port? ref = some port' ∧ port.Keeps port'

namespace Extends

variable {g g' g'' : Graph W α}

theorem refl (g : Graph W α) : g.Extends g where
  connections := List.prefix_rfl
  sinks := List.prefix_rfl
  names _ _ h := h
  component _ c h := ⟨c, h, .refl c⟩
  port _ port h := ⟨port, h, .refl port⟩

theorem trans (h : g.Extends g') (h' : g'.Extends g'') : g.Extends g'' where
  connections := h.connections.trans h'.connections
  sinks := h.sinks.trans h'.sinks
  names name id hfind := h'.names name id (h.names name id hfind)
  component id c hc := by
    obtain ⟨c', hc', hgrows⟩ := h.component id c hc
    obtain ⟨c'', hc'', hgrows'⟩ := h'.component id c' hc'
    exact ⟨c'', hc'', hgrows.trans hgrows'⟩
  port ref port hp := by
    obtain ⟨port', hp', hkeeps⟩ := h.port ref port hp
    obtain ⟨port'', hp'', hkeeps'⟩ := h'.port ref port' hp'
    exact ⟨port'', hp'', hkeeps.trans hkeeps'⟩

end Extends

/-! ## One change -/

theorem extends_of_bare_eq {g g' : Graph W α} (h : g'.bare = g.bare) : g.Extends g' where
  connections := by
    have hsame : g'.connections = g.connections := by
      rw [← connections_bare g', h, connections_bare]
    exact hsame ▸ List.prefix_rfl
  sinks := by
    have hsame : g'.sinks = g.sinks := by
      rw [← sinks_bare g', h, sinks_bare]
    exact hsame ▸ List.prefix_rfl
  names name id hfind := by
    rw [← find?_bare g', h, find?_bare]
    exact hfind
  component id c hc := by
    have hsame := component?_bare g' id
    rw [h, component?_bare, hc, Option.map_some] at hsame
    obtain ⟨c', hc', hphase⟩ := Option.map_eq_some_iff.mp hsame.symm
    exact ⟨c', hc', Component.grows_of_setPhase hphase⟩
  port ref port hp := by
    refine ⟨port, ?_, .refl port⟩
    rw [← port?_bare g', h, port?_bare]
    exact hp

theorem Fresh.extends_accept {g : Graph W α} {c : Component W α} (h : g.Fresh c) :
    g.Extends (g.accept c) where
  connections := List.prefix_rfl
  sinks := by
    unfold accept
    split
    · exact List.prefix_append _ _
    · exact List.prefix_rfl
  names name id hfind := by
    have hne : name ≠ c.name := by
      rintro rfl
      rw [h.name] at hfind
      cases hfind
    exact (OrderedMap.get?_insert_of_ne _ hne _).trans hfind
  component id c' hc := by
    refine ⟨c', ?_, .refl c'⟩
    exact (component?_place_of_isSome c (Option.isSome_of_eq_some hc)).trans hc
  port ref port hp := by
    refine ⟨port, ?_, .refl port⟩
    exact (port?_place_of_isSome c (Option.isSome_of_eq_some hp)).trans hp

theorem Joinable.extends_link {g : Graph W α} {upstream downstream : PortRef}
    (h : g.Joinable upstream downstream) : g.Extends (g.link upstream downstream) where
  connections := List.prefix_append _ _
  sinks := List.prefix_rfl
  names _ _ hfind := hfind
  component id c hc := by
    obtain ⟨c', hc', halike⟩ := component?_link_alike g upstream downstream hc
    exact ⟨c', hc', halike.grows⟩
  port ref port hp := by
    by_cases hend : ref = upstream ∨ ref = downstream
    · have hfree : g.holds? ref = none := by
        rcases hend with rfl | rfl
        · exact h.upstream_free
        · exact h.downstream_free
      have hport := port?_link_of_end g h.ne hend
      rw [hp, Option.map_some] at hport
      refine ⟨_, hport, rfl, rfl, rfl, ?_⟩
      intro hheld
      unfold holds? at hfree
      rw [hp, Option.bind_some] at hfree
      simp [Port.isConnected, hfree] at hheld
    · obtain ⟨hup, hdown⟩ := not_or.mp hend
      exact ⟨port, (port?_link_of_ne g hup hdown).trans hp, .refl port⟩

theorem extends_growInputs {g : Graph W α} {id : ComponentId} (h : g.kind? id = some .filter)
    (count : Nat) : g.Extends (g.growInputs id count) where
  connections := List.prefix_rfl
  sinks := List.prefix_rfl
  names _ _ hfind := hfind
  component other c hc := by
    by_cases hid : other = id
    · subst hid
      have hkind : c.kind = .filter := by
        unfold kind? at h
        rw [hc] at h
        exact Option.some.inj h
      let c' : Component W α := { c with inputs := c.inputs.grow count }
      refine ⟨c', ?_, ?_⟩
      · rw [component?_growInputs_self, hc, Option.map_some]
      · exact
          { Component.Grows.refl c with
            role := Component.role_setPhase_congr (show c'.role = c.role from rfl) .idle
            direction := fun d => by cases d <;> rfl
            inputs := by rw [PortTable.size_grow]; exact Nat.le_max_left ..
            inputs_eq := fun hno => absurd hkind hno }
    · exact ⟨c, (component?_growInputs_of_ne g hid count).trans hc, .refl c⟩
  port ref port hp := by
    refine ⟨port, ?_, .refl port⟩
    exact (port?_growInputs_of_isSome (Option.isSome_of_eq_some hp) id count).trans hp

theorem Change.extends {g g' : Graph W α} (h : g.Change g') : g.Extends g' := by
  cases h with
  | phases h => exact extends_of_bare_eq h
  | accept h => exact h.extends_accept
  | link h => exact h.extends_link
  | grow h count => exact extends_growInputs h count

theorem ReachedFrom.extends {start g : Graph W α} (h : ReachedFrom start g) : start.Extends g :=
  h.keeps (fun _ _ hchange hext => hext.trans hchange.extends) (.refl start)

end Graph

end TraceFlow
