import TraceFlow.Proofs.Acyclic

/-!
# The search, pass by pass

The search for a way back marks the components that it has looked at, and keeps a stack of those
that it has come upon. Every pass takes one off the stack. Nothing in a pass tells that there is a
last one: the stack grows, it holds components more than once, and the connections may go round. But
each connection puts a component on the stack only once, so that two passes more than there are
connections are enough. What the search answers then is what the connections say.
-/

namespace TraceFlow

theorem length_successors (connections : List Connection) (id : ComponentId) :
    (successors connections id).length =
      connections.countP fun c => c.upstream.component = id := by
  unfold successors
  rw [List.length_filterMap_eq_countP]
  apply List.countP_congr
  simp

/-- How far a search has come: a mark for every component that it has looked at, by position, and
the components that it has come upon, the last one first. -/
structure Sweep where
  marks : List Bool
  stack : List ComponentId
deriving DecidableEq, Repr

namespace Sweep

def start (count : Nat) (first : ComponentId) : Sweep := ⟨List.replicate count false, [first]⟩

/--
One pass: it comes to an answer, or the search goes on. A component without a mark gets one, and the
components that it feeds go on the stack. One that has its mark, or has no place for any, is passed
over.
-/
def pass (connections : List Connection) (target : ComponentId) : Sweep → Bool ⊕ Sweep
  | ⟨_, []⟩ => .inl false
  | ⟨marks, current :: rest⟩ =>
    if current = target then .inl true
    else if marks[current.index]? = some false then
      .inr ⟨marks.set current.index true, (successors connections current).reverse ++ rest⟩
    else .inr ⟨marks, rest⟩

def answer? (connections : List Connection) (target : ComponentId) : Nat → Sweep → Option Bool
  | 0, _ => none
  | patience + 1, s =>
    match s.pass connections target with
    | .inl answer => some answer
    | .inr later => answer? connections target patience later

/-! ## Components without a mark -/

def unmarked (marks : List Bool) : List ComponentId :=
  ((List.range marks.length).filter fun i => marks[i]? = some false).map ComponentId.mk

theorem mem_unmarked {marks : List Bool} {id : ComponentId} :
    id ∈ unmarked marks ↔ marks[id.index]? = some false := by
  simp only [unmarked, List.mem_map, List.mem_filter, List.mem_range, decide_eq_true_eq]
  constructor
  · rintro ⟨i, ⟨-, hi⟩, rfl⟩
    exact hi
  · intro h
    exact ⟨id.index, ⟨(List.getElem?_eq_some_iff.mp h).1, h⟩, rfl⟩

theorem mem_unmarked_set {marks : List Bool} {current id : ComponentId} :
    id ∈ unmarked (marks.set current.index true) ↔ id ∈ unmarked marks ∧ id ≠ current := by
  rw [mem_unmarked, mem_unmarked]
  by_cases hsame : id = current
  · subst hsame
    simp [List.getElem?_set_self']
  · have hindex : current.index ≠ id.index := fun h => hsame (by cases id; cases current; simp_all)
    simp [List.getElem?_set_ne hindex, hsame]

theorem nodup_unmarked (marks : List Bool) : (unmarked marks).Nodup := by
  unfold unmarked
  refine (List.nodup_range.filter _).map ?_
  intro i j h
  cases h
  rfl

theorem mem_unmarked_start {W α : Type} {g : Graph W α} {first id : ComponentId} :
    id ∈ unmarked (start g.componentCount first).marks ↔ id ∈ g.ids := by
  rw [mem_unmarked, Graph.mem_ids, Graph.component?_isSome_iff]
  simp [start, List.getElem?_replicate, Graph.componentCount]

/-! ## The search stops -/

/-- What a search still has to do at most: what is on the stack, and what will come on it. -/
def work (connections : List Connection) (s : Sweep) : Nat :=
  s.stack.length + connections.countP fun c => c.upstream.component ∈ unmarked s.marks

theorem countP_unmarked_set (connections : List Connection) {marks : List Bool}
    {current : ComponentId} (h : current ∈ unmarked marks) :
    connections.countP (fun c => c.upstream.component ∈ unmarked (marks.set current.index true)) +
        (successors connections current).length =
      connections.countP fun c => c.upstream.component ∈ unmarked marks := by
  rw [length_successors]
  induction connections with
  | nil => rfl
  | cons c rest ih =>
    simp only [List.countP_cons, mem_unmarked_set, ne_eq, decide_eq_true_eq] at ih ⊢
    by_cases hsame : c.upstream.component = current
    · simp only [hsame, h, not_true_eq_false, and_false, if_true, if_false]
      omega
    · simp only [hsame, not_false_eq_true, and_true, if_false]
      omega

theorem work_pass {connections : List Connection} {target : ComponentId} {s later : Sweep}
    (h : s.pass connections target = .inr later) :
    later.work connections + 1 = s.work connections := by
  unfold pass at h
  split at h
  · cases h
  · next marks current rest =>
    split at h
    · cases h
    · split at h
      · next hmark =>
        cases h
        have hdone := countP_unmarked_set connections (mem_unmarked.mpr hmark)
        simp only [work, List.length_append, List.length_reverse, List.length_cons]
        omega
      · cases h
        simp only [work, List.length_cons]
        omega

theorem work_start (connections : List Connection) (count : Nat) (first : ComponentId) :
    (start count first).work connections ≤ connections.length + 1 := by
  have hle := List.countP_le_length (l := connections)
    (p := fun c => decide (c.upstream.component ∈ unmarked (start count first).marks))
  simp only [work, start, List.length_singleton] at hle ⊢
  omega

theorem isSome_answer? {connections : List Connection} (target : ComponentId) {patience : Nat}
    {s : Sweep} (h : s.work connections < patience) :
    (s.answer? connections target patience).isSome := by
  induction patience generalizing s with
  | zero => omega
  | succ patience ih =>
    unfold answer?
    split
    · rfl
    · next later hpass =>
      have hless := work_pass hpass
      exact ih (by omega)

/-! ## What the search answers -/

section

variable {W α : Type} {g : Graph W α} {first target : ComponentId} {s later : Sweep}

/-- A search under way, which has not come to its target. -/
structure Underway (g : Graph W α) (first target : ComponentId) (s : Sweep) : Prop where
  reached : ∀ id ∈ s.stack, Relation.ReflTransGen g.Feeds first id
  swept : g.Swept (unmarked s.marks) s.stack
  begun : first ∉ unmarked s.marks ∨ first ∈ s.stack
  ahead : target ∈ unmarked s.marks

namespace Underway

theorem start (hends : ∀ c ∈ g.connections, (g.component? c.upstream.component).isSome)
    (htarget : (g.component? target).isSome) :
    Underway g first target (start g.componentCount first) where
  reached id hid := by
    cases List.mem_singleton.mp hid
    exact .refl
  swept := (Graph.swept_ids hends [first]).congr (fun _ => mem_unmarked_start) fun _ hid => hid
  begun := .inr List.mem_cons_self
  ahead := mem_unmarked_start.mpr (Graph.mem_ids.mpr htarget)

theorem look {marks : List Bool} {current : ComponentId} {rest : List ComponentId}
    (h : Underway g first target ⟨marks, current :: rest⟩) (hne : current ≠ target) :
    Underway g first target
      ⟨marks.set current.index true, (successors g.connections current).reverse ++ rest⟩ where
  reached id hid := by
    rcases List.mem_append.mp hid with hnext | hrest
    · have hfeeds := mem_successors.mp (List.mem_reverse.mp hnext)
      exact (h.reached current List.mem_cons_self).tail hfeeds
    · exact h.reached id (List.mem_cons_of_mem _ hrest)
  swept := by
    refine (h.swept.look (nodup_unmarked marks)).congr (fun id => ?_) (fun id hid => ?_)
    · rw [mem_unmarked_set, (nodup_unmarked marks).mem_erase_iff, and_comm]
    · simpa using hid
  begun := by
    rw [mem_unmarked_set]
    rcases h.begun with hseen | hstack
    · exact .inl fun hmem => hseen hmem.1
    · rcases List.mem_cons.mp hstack with rfl | hrest
      · exact .inl fun hmem => hmem.2 rfl
      · exact .inr (List.mem_append_right _ hrest)
  ahead := mem_unmarked_set.mpr ⟨h.ahead, hne.symm⟩

theorem skip {marks : List Bool} {current : ComponentId} {rest : List ComponentId}
    (h : Underway g first target ⟨marks, current :: rest⟩) (hseen : current ∉ unmarked marks) :
    Underway g first target ⟨marks, rest⟩ where
  reached id hid := h.reached id (List.mem_cons_of_mem _ hid)
  swept := h.swept.skip hseen
  begun := by
    rcases h.begun with hfirst | hstack
    · exact .inl hfirst
    · rcases List.mem_cons.mp hstack with rfl | hrest
      · exact .inl hseen
      · exact .inr hrest
  ahead := h.ahead

theorem pass (h : Underway g first target s) (hpass : s.pass g.connections target = .inr later) :
    Underway g first target later := by
  unfold Sweep.pass at hpass
  split at hpass
  · cases hpass
  · split at hpass
    · cases hpass
    · next hne =>
      split at hpass
      · cases hpass
        exact h.look hne
      · next hmark =>
        cases hpass
        exact h.skip fun hmem => hmark (mem_unmarked.mp hmem)

theorem reaches_iff (h : Underway g first target s) {answer : Bool}
    (hpass : s.pass g.connections target = .inl answer) :
    answer = true ↔ Relation.ReflTransGen g.Feeds first target := by
  unfold Sweep.pass at hpass
  split at hpass
  · cases hpass
    -- All that is reached has its mark, and the target has none.
    have hfirst : first ∉ unmarked _ := h.begun.resolve_right List.not_mem_nil
    refine ⟨nofun, fun hreach => ?_⟩
    exact absurd h.ahead (h.swept.not_mem_of_reaches hfirst hreach)
  · split at hpass
    · next hsame =>
      cases hpass
      refine ⟨fun _ => ?_, fun _ => rfl⟩
      rw [← hsame]
      exact h.reached _ List.mem_cons_self
    · split at hpass <;> cases hpass

theorem answer?_iff (h : Underway g first target s) {patience : Nat} {answer : Bool}
    (hanswer : s.answer? g.connections target patience = some answer) :
    answer = true ↔ Relation.ReflTransGen g.Feeds first target := by
  induction patience generalizing s with
  | zero => cases hanswer
  | succ patience ih =>
    unfold answer? at hanswer
    split at hanswer
    · next hpass =>
      cases hanswer
      exact h.reaches_iff hpass
    · next hpass => exact ih (h.pass hpass) hanswer

end Underway

end

end Sweep

namespace Graph

variable {W α : Type}

/--
The connections may lead from any components that there are, round and round and twice the same way.
The search comes to an end all the same, within two passes more than there are connections, and it
finds its target exactly if it starts there or if a path of connections leads to it.
-/
theorem search_exact {g : Graph W α}
    (hends : ∀ c ∈ g.connections, (g.component? c.upstream.component).isSome)
    (first : ComponentId) {last : ComponentId} (hlast : (g.component? last).isSome) :
    (∀ patience, g.connections.length + 2 ≤ patience →
      (Sweep.start g.componentCount first).answer? g.connections last patience =
        some (g.leadsTo first last)) ∧
    (g.leadsTo first last = true ↔ last = first ∨ Relation.TransGen g.Feeds first last) := by
  refine ⟨fun patience hpatience => ?_, ?_⟩
  · have hwork := Sweep.work_start g.connections g.componentCount first
    obtain ⟨answer, hanswer⟩ := Option.isSome_iff_exists.mp
      (Sweep.isSome_answer? last (Nat.lt_of_le_of_lt hwork hpatience))
    have hiff := (Sweep.Underway.start hends hlast).answer?_iff hanswer
    rw [← leadsTo_iff_reaches hends hlast] at hiff
    rw [hanswer, Bool.eq_iff_iff.mpr hiff]
  · rw [leadsTo_iff_reaches hends hlast]
    exact Relation.reflTransGen_iff_eq_or_transGen

/-- Twice the way from the first component to the second, which is in a ring with the third. Nothing
leads to the last. -/
def ringed : Graph Nat Unit where
  components := List.replicate 4
    { name := "pipe", className := none, level := .info, inputs := .ofCount .input 3
      outputs := .ofCount .output 2, role := .sink cup .idle }
  connections :=
    [⟨⟨0⟩, ⟨⟨0⟩, .output, 0⟩, ⟨⟨1⟩, .input, 0⟩⟩,
      ⟨⟨1⟩, ⟨⟨0⟩, .output, 1⟩, ⟨⟨1⟩, .input, 1⟩⟩,
      ⟨⟨2⟩, ⟨⟨1⟩, .output, 0⟩, ⟨⟨2⟩, .input, 0⟩⟩,
      ⟨⟨3⟩, ⟨⟨2⟩, .output, 0⟩, ⟨⟨1⟩, .input, 2⟩⟩]

theorem search_exact_ringed :
    (∀ c ∈ ringed.connections, (ringed.component? c.upstream.component).isSome) ∧
      (ringed.component? ⟨2⟩).isSome ∧ (ringed.component? ⟨3⟩).isSome ∧
      (Sweep.start 4 ⟨0⟩).answer? ringed.connections ⟨2⟩ 6 = some true ∧
      Relation.TransGen ringed.Feeds ⟨0⟩ ⟨2⟩ ∧
      (Sweep.start 4 ⟨0⟩).answer? ringed.connections ⟨3⟩ 6 = some false ∧
      ¬ Relation.TransGen ringed.Feeds ⟨0⟩ ⟨3⟩ := by
  have hends : ∀ c ∈ ringed.connections, (ringed.component? c.upstream.component).isSome := by
    decide +kernel
  have hsecond : (ringed.component? ⟨2⟩).isSome := rfl
  have hlast : (ringed.component? ⟨3⟩).isSome := rfl
  have hfound : ringed.leadsTo ⟨0⟩ ⟨2⟩ = true := by decide +kernel
  have hmissed : ringed.leadsTo ⟨0⟩ ⟨3⟩ = false := by decide +kernel
  obtain ⟨hstops, hiff⟩ := search_exact hends ⟨0⟩ hsecond
  obtain ⟨hstops', hiff'⟩ := search_exact hends ⟨0⟩ hlast
  refine ⟨hends, hsecond, hlast, hfound ▸ hstops 6 (by decide),
    (hiff.mp hfound).resolve_left (by decide), hmissed ▸ hstops' 6 (by decide), fun hway => ?_⟩
  exact Bool.false_ne_true (hmissed.symm.trans (hiff'.mpr (.inr hway)))

end Graph

end TraceFlow
