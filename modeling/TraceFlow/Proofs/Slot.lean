import TraceFlow.Proofs.Draws
import TraceFlow.Proofs.Wiring

/-!
# The slot of a reader

A batch goes through the slot: the sink puts it there when it consumes it, and the reader takes it
from there when the pull has come back. The sink leaves the slot alone otherwise, until it tidies up
and clears it. So nothing ever lies in the slot when the reader is not at work.
-/

namespace TraceFlow

variable {W : Type}

/-! ## The sink -/

/-- What lies in the slot after an answer of the iterator. -/
def slotAfter (slot : Slot) : Except Fault Next → Slot
  | .ok (.batch messages) => some messages
  | _ => slot

theorem collector_consume_on (upstream : Iterator W) (world : W) (slot : Slot) :
    ((collector W).consume upstream).on (world, slot) =
      ((upstream.next.on world).1.map Next.status, (upstream.next.on world).2,
        slotAfter slot (upstream.next.on world).1) := by
  unfold collector
  simp only [Act.on_bind, Act.on_beside]
  rcases upstream.next.on world with ⟨_ | ⟨_⟩ | _ | _, _⟩ <;> rfl

/-! ## The graph around it -/

namespace Graph

/-- A graph with a sink, where every sink is a collector. -/
structure Collects (g : Graph W Slot) : Prop where
  only : ∀ c ∈ g.components, ∀ sink phase, c.role = .sink sink phase → sink = collector W
  some : ∃ c ∈ g.components, c.kind = .sink

variable {g : Graph W Slot}

theorem exists_sink_of_setPhase {α : Type} {c : Component W α} {sink : Sink W α}
    {phase phase' : SinkPhase W} (h : (c.setPhase phase).role = .sink sink phase') :
    ∃ before, c.role = .sink sink before := by
  unfold Component.setPhase at h
  split at h
  · next before hrole =>
    cases h
    exact ⟨before, hrole⟩
  · exact ⟨phase', h⟩

theorem Collects.of_bare_eq {later : Graph W Slot} (h : g.Collects) (hbare : later.bare = g.bare) :
    later.Collects := by
  have hcomponents : later.components.map (·.setPhase .idle) =
      g.components.map (·.setPhase .idle) := congrArg Graph.components hbare
  have hback (c : Component W Slot) (hc : c ∈ later.components) :
      ∃ before ∈ g.components, before.setPhase .idle = c.setPhase .idle := by
    have hmem := List.mem_map_of_mem (f := (·.setPhase .idle)) hc
    rw [hcomponents] at hmem
    exact List.mem_map.mp hmem
  obtain ⟨c, hc, hkind⟩ := h.some
  refine ⟨fun c hc sink phase hrole => ?_, ?_⟩
  · obtain ⟨before, hbefore, hsame⟩ := hback c hc
    have hidle : (before.setPhase .idle).role = .sink sink .idle := by
      rw [hsame]
      unfold Component.setPhase
      rw [hrole]
    obtain ⟨phase', hrole'⟩ := exists_sink_of_setPhase hidle
    exact h.only before hbefore sink phase' hrole'
  · have hmem := List.mem_map_of_mem (f := (·.setPhase .idle)) hc
    rw [← hcomponents] at hmem
    obtain ⟨after, hafter, hsame⟩ := List.mem_map.mp hmem
    refine ⟨after, hafter, ?_⟩
    rw [← after.kind_setPhase .idle, hsame, c.kind_setPhase, hkind]

theorem Collects.run (h : g.Collects) (session : Session W Slot) :
    (g.run session).graph.Collects := h.of_bare_eq (g.bare_run session)

theorem shared_tidyUpAt {c : Component W Slot} (hkind : c.kind = .sink)
    (honly : ∀ sink phase, c.role = .sink sink phase → sink = collector W)
    (session : Session W Slot) (id : ComponentId) : (tidyUpAt session c id).shared = none := by
  unfold Component.kind at hkind
  unfold tidyUpAt
  cases hrole : c.role with
  | source | filter =>
    rw [hrole] at hkind
    cases hkind
  | sink sink phase =>
    rw [honly sink phase hrole]
    rfl

theorem tidyUpAt_of_not_sink {c : Component W Slot} (hkind : c.kind ≠ .sink)
    (session : Session W Slot) (id : ComponentId) : tidyUpAt session c id = session := by
  unfold Component.kind at hkind
  unfold tidyUpAt
  cases hrole : c.role with
  | source | filter => rfl
  | sink sink phase =>
    rw [hrole] at hkind
    exact absurd rfl hkind

theorem shared_foldl_tidyUpAt {components : List (Component W Slot)}
    (honly : ∀ c ∈ components, ∀ sink phase, c.role = .sink sink phase → sink = collector W)
    (first : Nat) {session : Session W Slot}
    (h : session.shared = none ∨ ∃ c ∈ components, c.kind = .sink) :
    ((components.zipIdx first).foldl (fun session (c, i) => tidyUpAt session c ⟨i⟩)
      session).shared = none := by
  induction components generalizing first session with
  | nil =>
    rcases h with hnone | ⟨c, hc, -⟩
    · exact hnone
    · cases hc
  | cons c rest ih =>
    refine ih (fun other hother => honly other (List.mem_cons_of_mem _ hother)) (first + 1) ?_
    by_cases hkind : c.kind = .sink
    · exact .inl (shared_tidyUpAt hkind (honly c List.mem_cons_self) session ⟨first⟩)
    · dsimp only
      rw [tidyUpAt_of_not_sink hkind]
      rcases h with hnone | ⟨other, hother, hsink⟩
      · exact .inl hnone
      · rcases List.mem_cons.mp hother with rfl | hrest
        · exact absurd hsink hkind
        · exact .inr ⟨other, hrest, hsink⟩

theorem Collects.shared_close (h : g.Collects) (session : Session W Slot) :
    (g.close session).shared = none := shared_foldl_tidyUpAt h.only 0 (.inr h.some)

end Graph

theorem Context.collects_pull {context : Context W Slot} (h : context.graph.Collects)
    (patience : Nat) (session : Session W Slot) :
    (context.pull patience session).2.1.graph.Collects := by
  induction patience generalizing context session with
  | zero => exact h
  | succ patience ih =>
    have hrun := h.run session
    unfold pull
    rcases hreply : context.graph.run session with ⟨answer, graph, last⟩
    rw [hreply] at hrun
    rcases answer with e | _ | _ | _
    · exact hrun
    · exact hrun
    · exact ih hrun last
    · exact hrun

theorem Context.Wired.collects {context : Context W Slot} {name : String}
    (h : context.Wired (collector W) name) : context.graph.Collects := by
  obtain ⟨own, hown, -, hrole, -⟩ := h.component
  refine ⟨fun c hc sink phase hsink => ?_, own, List.mem_of_getElem? hown, ?_⟩
  · obtain ⟨i, hi⟩ := List.mem_iff_getElem?.mp hc
    have hfound : context.graph.component? ⟨i⟩ = some c := hi
    have hkind : context.graph.kind? ⟨i⟩ = some .sink := by
      unfold Graph.kind? Component.kind
      rw [hfound, Option.map_some, hsink]
      rfl
    -- The list of the sinks leaves none out, and it is a list of one.
    have hlisted : ⟨i⟩ ∈ context.graph.sinks := by
      rw [h.reached.coherent.sinks, List.mem_filter, decide_eq_true_iff]
      exact ⟨Graph.mem_ids.mpr (by rw [hfound]; rfl), hkind⟩
    rw [h.sinks] at hlisted
    rw [List.mem_singleton.mp hlisted] at hfound
    cases hfound.symm.trans hown
    cases hrole.symm.trans hsink
    rfl
  · unfold Component.kind
    rw [hrole]
    rfl

theorem Builder.shared_of_build {α : Type} {builder : Builder W} {sink : Sink W α}
    {session opened : Session W α} {context : Context W α}
    (h : builder.build sink session = (.ok context, opened)) : opened.shared = session.shared := by
  obtain ⟨texts, later, -, hwork⟩ := build_ok h
  exact (steady_assemble builder texts sink).shared hwork

/-! ## The reader -/

namespace Batches

/-- Nothing lies in the slot, and the context that is left, if any, ends in a collector. -/
structure Tidy (batches : Batches W) : Prop where
  slot : batches.slot = none
  collects : ∀ context, batches.context = some context → context.graph.Collects

theorem tidy_of_build {builder : Builder W} {session : Session W Unit} {opened : Session W Slot}
    {context : Context W Slot}
    (h : builder.build (collector W) (session.sharing none) = (.ok context, opened)) :
    (⟨some context, opened.shared⟩ : Batches W).Tidy where
  slot := Builder.shared_of_build h
  collects _ hcontext := by
    cases hcontext
    exact (Builder.wired_of_build h).collects

theorem tidy_of_no_context {slot : Slot} (h : slot = none) : (⟨none, slot⟩ : Batches W).Tidy where
  slot := h
  collects := nofun

theorem tidy_of_draw {patience : Nat} {context : Context W Slot} (h : context.graph.Collects)
    {session last : Session W Slot} {drawn : Drawn Batch} {later : Option (Context W Slot)}
    (hdraw : draw patience context session = (drawn, later, last)) (hcame : drawn ≠ .waiting) :
    (⟨later, last.shared⟩ : Batches W).Tidy := by
  induction patience generalizing context session with
  | zero =>
    cases hdraw
    exact absurd rfl hcame
  | succ patience ih =>
    have hpulled := Context.collects_pull h (patience + 1) session
    unfold draw at hdraw
    split at hdraw
    · next hpull =>
      rw [hpull] at hpulled
      split at hdraw
      · cases hdraw
        refine ⟨rfl, fun context hcontext => ?_⟩
        cases hcontext
        exact hpulled
      · exact ih hpulled hdraw
    · next hpull =>
      rw [hpull] at hpulled
      cases hdraw
      exact tidy_of_no_context (hpulled.shared_close _)
    · next hpull =>
      rw [hpull] at hpulled
      cases hdraw
      exact tidy_of_no_context (hpulled.shared_close _)
    · cases hdraw
      exact absurd rfl hcame

theorem Tidy.of_comes {batches later : Batches W} (h : batches.Tidy)
    {session last : Session W Unit} {drawn : Drawn Batch}
    (hcomes : Comes next batches session (drawn, later, last)) : later.Tidy := by
  obtain ⟨hcame, enough, hnext⟩ := hcomes
  replace hnext := hnext enough (Nat.le_refl _)
  obtain ⟨context, slot⟩ := batches
  cases context with
  | none =>
    cases hnext
    exact h
  | some context =>
    rw [next_some] at hnext
    rcases hdraw : draw enough context (session.sharing slot) with ⟨item, between, opened⟩
    rw [hdraw] at hnext
    cases hnext
    exact tidy_of_draw (h.collects context rfl) hdraw hcame

/-- The slot is empty between any two calls. -/
theorem Tidy.of_reads {batches later : Batches W} (h : batches.Tidy)
    {session last : Session W Unit} {items : List (Drawn Batch)}
    (hreads : Reads next batches session items later last) : later.Tidy := by
  induction hreads with
  | nil => exact h
  | cons hcomes _ ih => exact ih (h.of_comes hcomes)

end Batches

end TraceFlow
