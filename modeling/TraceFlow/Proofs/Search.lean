import Mathlib.Data.List.Nodup
import TraceFlow.Proofs.Coherent

/-!
# The search for a way back

The search along the connections finds a component exactly when some path leads to it.
-/

namespace TraceFlow

theorem mem_successors {connections : List Connection} {id other : ComponentId} :
    other ∈ successors connections id ↔
      ∃ c ∈ connections, c.upstream.component = id ∧ c.downstream.component = other := by
  unfold successors
  simp only [List.mem_filterMap, Option.ite_none_right_eq_some, Option.some.injEq]

namespace Graph

variable {W α : Type}

def Feeds (g : Graph W α) (id other : ComponentId) : Prop :=
  ∃ c ∈ g.connections, c.upstream.component = id ∧ c.downstream.component = other

theorem mem_ids {g : Graph W α} {id : ComponentId} : id ∈ g.ids ↔ (g.component? id).isSome := by
  rw [component?_isSome_iff]
  unfold ids
  rw [List.mem_map]
  constructor
  · rintro ⟨i, hi, rfl⟩
    exact List.mem_range.mp hi
  · intro h
    exact ⟨id.index, List.mem_range.mpr h, rfl⟩

theorem nodup_ids (g : Graph W α) : g.ids.Nodup := by
  unfold ids
  apply List.Nodup.map
  · intro i j h
    cases h
    rfl
  · exact List.nodup_range

theorem length_ids (g : Graph W α) : g.ids.length = g.componentCount := by
  simp [ids, componentCount]

@[simp] theorem componentCount_link (g : Graph W α) (upstream downstream : PortRef) :
    (g.link upstream downstream).componentCount = g.componentCount := by
  rw [← length_ids, ids_link, length_ids]

theorem Coherent.component_of_feeds {g : Graph W α} (hg : g.Coherent) {id other : ComponentId}
    (h : g.Feeds id other) : (g.component? id).isSome ∧ (g.component? other).isSome := by
  obtain ⟨c, hc, rfl, rfl⟩ := h
  exact ⟨hg.component_of_touches hc (.inl rfl), hg.component_of_touches hc (.inr rfl)⟩

/-! ## What is found is reached -/

theorem reaches_of_searchFrom {g : Graph W α} {target : ComponentId}
    {unseen stack : List ComponentId} (h : searchFrom g.connections target unseen stack = true) :
    ∃ id ∈ stack, Relation.ReflTransGen g.Feeds id target := by
  fun_induction searchFrom g.connections target unseen stack with
  | case1 => cases h
  | case2 unseen rest => exact ⟨target, List.mem_cons_self, .refl⟩
  | case3 unseen current rest _ _ ih =>
    obtain ⟨id, hid, hreach⟩ := ih h
    rcases List.mem_append.mp hid with hnext | hrest
    · exact ⟨current, List.mem_cons_self, hreach.head (mem_successors.mp hnext)⟩
    · exact ⟨id, List.mem_cons_of_mem _ hrest, hreach⟩
  | case4 unseen current rest _ _ ih =>
    obtain ⟨id, hid, hreach⟩ := ih h
    exact ⟨id, List.mem_cons_of_mem _ hid, hreach⟩

/-! ## What is reached is found -/

/-- Where a seen component leads, the search has been or is going to look. -/
def Swept (g : Graph W α) (unseen stack : List ComponentId) : Prop :=
  ∀ id other, id ∉ unseen → g.Feeds id other → other ∉ unseen ∨ other ∈ stack

theorem swept_ids {g : Graph W α}
    (hends : ∀ c ∈ g.connections, (g.component? c.upstream.component).isSome)
    (stack : List ComponentId) : g.Swept g.ids stack := by
  rintro id other hid ⟨c, hc, rfl, -⟩
  exact absurd (mem_ids.mpr (hends c hc)) hid

theorem Swept.congr {g : Graph W α} {unseen later stack next : List ComponentId}
    (h : g.Swept unseen stack) (hunseen : ∀ id, id ∈ later ↔ id ∈ unseen)
    (hstack : ∀ id ∈ stack, id ∈ next) : g.Swept later next := by
  intro id other hid hfeeds
  rw [hunseen] at hid ⊢
  exact (h id other hid hfeeds).imp_right (hstack other)

theorem Swept.look {g : Graph W α} {unseen rest : List ComponentId} {current : ComponentId}
    (h : g.Swept unseen (current :: rest)) (hnodup : unseen.Nodup) :
    g.Swept (unseen.erase current) (successors g.connections current ++ rest) := by
  intro id other hid hfeeds
  by_cases hcurrent : id = current
  · subst hcurrent
    exact .inr (List.mem_append_left _ (mem_successors.mpr hfeeds))
  · have hseen : id ∉ unseen := fun hmem => hid ((List.mem_erase_of_ne hcurrent).mpr hmem)
    rcases h id other hseen hfeeds with hother | hother
    · exact .inl fun hmem => hother (List.mem_of_mem_erase hmem)
    · rcases List.mem_cons.mp hother with rfl | hrest
      · exact .inl hnodup.not_mem_erase
      · exact .inr (List.mem_append_right _ hrest)

theorem Swept.skip {g : Graph W α} {unseen rest : List ComponentId} {current : ComponentId}
    (h : g.Swept unseen (current :: rest)) (hseen : current ∉ unseen) : g.Swept unseen rest := by
  intro id other hid hfeeds
  rcases h id other hid hfeeds with hother | hother
  · exact .inl hother
  · rcases List.mem_cons.mp hother with rfl | hrest
    · exact .inl hseen
    · exact .inr hrest

/-- With nothing left to look at, no path leads from the seen components to an unseen one. -/
theorem Swept.not_mem_of_reaches {g : Graph W α} {unseen : List ComponentId} (h : g.Swept unseen [])
    {id target : ComponentId} (hid : id ∉ unseen)
    (hreach : Relation.ReflTransGen g.Feeds id target) : target ∉ unseen := by
  induction hreach with
  | refl => exact hid
  | tail _ hlast ih =>
    rcases h _ _ ih hlast with hother | hother
    · exact hother
    · cases hother

theorem not_reaches_of_searchFrom {g : Graph W α} {target : ComponentId}
    {unseen stack : List ComponentId} (hnodup : unseen.Nodup) (htarget : target ∈ unseen)
    (hswept : g.Swept unseen stack)
    (h : searchFrom g.connections target unseen stack = false) :
    ∀ id, id ∉ unseen ∨ id ∈ stack → ¬ Relation.ReflTransGen g.Feeds id target := by
  fun_induction searchFrom g.connections target unseen stack with
  | case1 unseen =>
    intro id hid hreach
    rcases hid with hid | hid
    · exact hswept.not_mem_of_reaches hid hreach htarget
    · cases hid
  | case2 => cases h
  | case3 unseen current rest hne hmem ih =>
    have hlater := ih (hnodup.erase current) ((List.mem_erase_of_ne (Ne.symm hne)).mpr htarget)
      (hswept.look hnodup) h
    intro id hid
    apply hlater
    rcases hid with hid | hid
    · exact .inl fun hlast => hid (List.mem_of_mem_erase hlast)
    · rcases List.mem_cons.mp hid with rfl | hrest
      · exact .inl hnodup.not_mem_erase
      · exact .inr (List.mem_append_right _ hrest)
  | case4 unseen current rest hne hseen ih =>
    have hlater := ih hnodup htarget (hswept.skip hseen) h
    intro id hid
    apply hlater
    rcases hid with hid | hid
    · exact .inl hid
    · rcases List.mem_cons.mp hid with rfl | hrest
      · exact .inl hseen
      · exact .inr hrest

theorem leadsTo_iff_reaches {g : Graph W α}
    (hends : ∀ c ∈ g.connections, (g.component? c.upstream.component).isSome)
    {first last : ComponentId} (hlast : (g.component? last).isSome) :
    g.leadsTo first last = true ↔ Relation.ReflTransGen g.Feeds first last := by
  unfold leadsTo
  constructor
  · intro h
    obtain ⟨id, hid, hreach⟩ := reaches_of_searchFrom h
    cases List.mem_singleton.mp hid
    exact hreach
  · intro hreach
    by_contra hfalse
    exact not_reaches_of_searchFrom g.nodup_ids (mem_ids.mpr hlast) (swept_ids hends [first])
      (Bool.eq_false_iff.mpr hfalse) first (.inr (List.mem_singleton.mpr rfl)) hreach

theorem leadsTo_iff {g : Graph W α} (hg : g.Coherent) {first last : ComponentId}
    (hlast : (g.component? last).isSome) :
    g.leadsTo first last = true ↔ Relation.ReflTransGen g.Feeds first last :=
  leadsTo_iff_reaches (fun _ hc => hg.component_of_touches hc (.inl rfl)) hlast

end Graph

end TraceFlow
