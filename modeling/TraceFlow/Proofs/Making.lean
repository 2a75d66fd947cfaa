import TraceFlow.Proofs.Phases
import TraceFlow.Proofs.Requests

/-!
# In which order iterators are made

Before the iterator behind a port is made, those that feed the component of the port are, in the
order of its input ports, and they are handed over to it. The walk stops at the first iterator that
a component refuses to make.
-/

namespace TraceFlow

variable {W α : Type}

/-! ## Calls for iterators -/

def Hook.made? (port : PortRef) : Hook W → Option (Iterator W)
  | .iterator ref _ (.ok made) => if ref = port then some made else none
  | _ => none

/-- The iterator that was made last behind a port. -/
def lastMade? (calls : List (Hook W)) (port : PortRef) : Option (Iterator W) :=
  (calls.filterMap (Hook.made? port)).getLast?

/-- Iterators were asked for behind these ports, one after the other, up to the first that was
refused: there, and with this fault. -/
inductive InTurn : List PortRef → List (Hook W) → Option (PortRef × Fault) → Prop where
  | done : InTurn [] [] none
  | made {port : PortRef} {ports : List PortRef} {upstream : List (Iterator W)}
      {iterator : Iterator W} {calls : List (Hook W)} {refusal : Option (PortRef × Fault)}
      (h : InTurn ports calls refusal) :
      InTurn (port :: ports) (.iterator port upstream (.ok iterator) :: calls) refusal
  | refused {port : PortRef} {ports : List PortRef} {upstream : List (Iterator W)} {fault : Fault} :
      InTurn (port :: ports) [.iterator port upstream (.error fault)] (some (port, fault))

theorem request?_of_made? {port : PortRef} {hook : Hook W} (h : (hook.made? port).isSome) :
    hook.request? = some port := by
  unfold Hook.made? at h
  split at h
  · split at h
    · next hport =>
      subst hport
      rfl
    · cases h
  · cases h

theorem lastMade?_append (calls more : List (Hook W)) (port : PortRef) :
    lastMade? (calls ++ more) port = (lastMade? more port).or (lastMade? calls port) := by
  unfold lastMade?
  rw [List.filterMap_append, List.getLast?_append]

theorem lastMade?_eq_none {calls : List (Hook W)} {port : PortRef}
    (h : port ∉ calls.filterMap Hook.request?) : lastMade? calls port = none := by
  unfold lastMade?
  rw [List.getLast?_eq_none_iff, List.filterMap_eq_nil_iff]
  intro hook hhook
  rw [← Option.not_isSome_iff_eq_none]
  exact fun hmade => h (List.mem_filterMap.mpr ⟨hook, hhook, request?_of_made? hmade⟩)

theorem lastMade?_concat (calls : List (Hook W)) (port : PortRef) (upstream : List (Iterator W))
    (iterator : Iterator W) :
    lastMade? (calls ++ [.iterator port upstream (.ok iterator)]) port = some iterator := by
  have hmade : Hook.made? port (.iterator port upstream (.ok iterator)) = some iterator :=
    if_pos rfl
  have hlast : lastMade? [.iterator port upstream (.ok iterator)] port = some iterator := by
    unfold lastMade?
    rw [List.filterMap_cons, hmade]
    rfl
  rw [lastMade?_append, hlast, Option.some_or]

theorem map_lastMade?_append {calls more : List (Hook W)} {ports : List PortRef}
    {iterators : List (Iterator W)} (h : ports.map (lastMade? more) = iterators.map some) :
    ports.map (lastMade? (calls ++ more)) = iterators.map some := by
  rw [← h]
  apply List.map_congr_left
  intro port hport
  have hmem : lastMade? more port ∈ iterators.map some := by
    rw [← h]
    exact List.mem_map_of_mem hport
  obtain ⟨iterator, -, hiterator⟩ := List.mem_map.mp hmem
  rw [lastMade?_append, ← hiterator, Option.some_or]

namespace InTurn

variable {ports more : List PortRef} {calls calls' : List (Hook W)}
  {refusal first : Option (PortRef × Fault)} {port : PortRef}

theorem calls_eq_nil_iff (h : InTurn ports calls refusal) : calls = [] ↔ ports = [] := by
  cases h <;> simp

theorem append (h : InTurn ports calls first) (hfirst : first = none)
    (h' : InTurn more calls' refusal) : InTurn (ports ++ more) (calls ++ calls') refusal := by
  induction h with
  | done => exact h'
  | made _ ih => exact .made (ih hfirst)
  | refused => cases hfirst

theorem stop (h : InTurn ports calls refusal) (hrefusal : refusal ≠ none) (more : List PortRef) :
    InTurn (ports ++ more) calls refusal := by
  induction h with
  | done => exact absurd rfl hrefusal
  | made _ ih => exact .made (ih hrefusal)
  | refused => exact .refused

theorem requests_prefix (h : InTurn ports calls refusal) :
    calls.filterMap Hook.request? <+: ports := by
  induction h with
  | done => exact List.prefix_rfl
  | made _ ih => exact (List.prefix_cons_inj _).mpr ih
  | refused => exact (List.prefix_cons_inj _).mpr List.nil_prefix

theorem requests_eq (h : InTurn ports calls refusal) (hrefusal : refusal = none) :
    calls.filterMap Hook.request? = ports := by
  induction h with
  | done => rfl
  | made _ ih => exact congrArg _ (ih hrefusal)
  | refused => cases hrefusal

theorem lastMade?_of_notMem (h : InTurn ports calls refusal) (hport : port ∉ ports) :
    lastMade? calls port = none :=
  lastMade?_eq_none fun hmem => hport (h.requests_prefix.subset hmem)

theorem exists_lastMade? (h : InTurn ports calls refusal) (hrefusal : refusal = none)
    (hport : port ∈ ports) : ∃ iterator, lastMade? calls port = some iterator := by
  induction h with
  | done => cases hport
  | @made first ports upstream iterator calls refusal h ih =>
    rw [← List.singleton_append]
    simp only [lastMade?_append]
    rcases List.mem_cons.mp hport with rfl | hport
    · cases lastMade? calls port with
      | some last => exact ⟨last, rfl⟩
      | none => exact ⟨iterator, lastMade?_concat [] port upstream iterator⟩
    · obtain ⟨last, hlast⟩ := ih hrefusal hport
      exact ⟨last, by rw [hlast, Option.some_or]⟩
  | refused => cases hrefusal

theorem lastMade?_of_refused (h : InTurn (ports ++ [port]) calls refusal) (hport : port ∉ ports)
    (hrefusal : refusal ≠ none) : lastMade? calls port = none := by
  induction ports generalizing calls with
  | nil =>
    cases h with
    | made h =>
      cases h
      exact absurd rfl hrefusal
    | refused => rfl
  | cons first rest ih =>
    obtain ⟨hfirst, hrest⟩ := List.ne_and_not_mem_of_not_mem_cons hport
    cases h with
    | @made _ _ upstream iterator calls _ h =>
      rw [← List.singleton_append, lastMade?_append, ih h hrest, Option.none_or]
      refine lastMade?_eq_none fun hmem => hfirst ?_
      exact List.mem_singleton.mp hmem
    | refused => rfl

end InTurn

namespace Graph

/-- With every call came the iterators of the ports that feed the component, in the order of its
input ports, and each was the one made last behind its port. -/
def Handed (g : Graph W α) (calls : List (Hook W)) : Prop :=
  ∀ before port upstream answer after, calls = before ++ .iterator port upstream answer :: after →
    (g.feedersOf port.component).map (lastMade? before) = upstream.map some

theorem handed_nil (g : Graph W α) : g.Handed [] := by
  intro before port upstream answer after h
  cases before <;> cases h

theorem Handed.append {g : Graph W α} {calls more : List (Hook W)} (h : g.Handed calls)
    (h' : g.Handed more) : g.Handed (calls ++ more) := by
  intro before port upstream answer after hsplit
  rcases List.append_eq_append_iff.mp hsplit with ⟨between, rfl, hmore⟩ | ⟨between, hcalls, hrest⟩
  · exact map_lastMade?_append (h' _ _ _ _ _ hmore)
  · cases between with
    | nil =>
      rw [List.append_nil] at hcalls
      rw [← hcalls, ← List.append_nil calls]
      exact map_lastMade?_append (h' _ _ _ _ _ hrest.symm)
    | cons hook between =>
      cases hrest
      exact h _ _ _ _ _ hcalls

theorem Handed.concat {g : Graph W α} {calls : List (Hook W)} (h : g.Handed calls)
    {port : PortRef} {upstream : List (Iterator W)}
    (hupstream : (g.feedersOf port.component).map (lastMade? calls) = upstream.map some)
    (answer : Except Fault (Iterator W)) :
    g.Handed (calls ++ [.iterator port upstream answer]) := by
  intro before port' upstream' answer' after hsplit
  rcases List.append_eq_append_iff.mp hsplit with ⟨between, rfl, hlast⟩ | ⟨between, hcalls, hrest⟩
  · cases between with
    | nil =>
      cases hlast
      rw [List.append_nil]
      exact hupstream
    | cons hook between => cases between <;> cases hlast
  · cases between with
    | nil =>
      cases hrest
      rw [List.append_nil] at hcalls
      rw [← hcalls]
      exact hupstream
    | cons hook between =>
      cases hrest
      exact h _ _ _ _ _ hcalls

/-! ## Which ports lie above others -/

section

variable {g : Graph W α} {depth : Nat} {id other : ComponentId} {port : PortRef}

structure Outlet (g : Graph W α) (port : PortRef) : Prop where
  direction : port.direction = .output
  there : (g.port? port).isSome

theorem Coherent.outlet_of_feeder (hg : g.Coherent) (h : port ∈ g.feedersOf id) :
    g.Outlet port := by
  obtain ⟨c, hc, rfl, -⟩ := hg.mem_feedersOf.mp h
  exact ⟨(hg.upstream c hc).1, (hg.upstream c hc).2⟩

theorem Coherent.kind_of_outlet (hg : g.Coherent) (h : g.Outlet port) :
    g.kind? port.component ≠ some .sink := by
  intro hkind
  have hnone := portCount_ne_zero h.there
  rw [h.direction] at hnone
  exact hnone (hg.sink_ports _ hkind).2

theorem Coherent.feedersOf_source (hg : g.Coherent) (h : g.kind? id = some .source) :
    g.feedersOf id = [] := by
  rw [List.eq_nil_iff_forall_not_mem]
  intro port hport
  obtain ⟨c, hc, -, hdown⟩ := hg.mem_feedersOf.mp hport
  have hin := portCount_ne_zero (hg.downstream c hc).2
  rw [(hg.downstream c hc).1, hdown] at hin
  exact hin (hg.source_ports _ h)

theorem Coherent.callees_of_outlet (hg : g.Coherent) (h : g.Outlet port) :
    g.callees port = g.feedersOf port.component := by
  unfold callees
  split
  · rfl
  · next hfilter =>
    have hsink := hg.kind_of_outlet h
    cases hkind : g.kind? port.component with
    | none =>
      have hthere := component?_isSome_of_port? h.there
      unfold kind? at hkind
      rw [Option.map_eq_none_iff.mp hkind] at hthere
      cases hthere
    | some kind =>
      cases kind with
      | source => exact (hg.feedersOf_source hkind).symm
      | filter => exact absurd hkind hfilter
      | sink => exact absurd hkind hsink

theorem ordersWithin_eq {depth' : Nat} (h : g.NestsWithin depth port) (hle : depth ≤ depth') :
    g.ordersWithin depth' port = g.ordersWithin depth port := by
  induction depth generalizing depth' port with
  | zero => exact h.elim
  | succ depth ih =>
    obtain ⟨more, rfl⟩ : ∃ more, depth' = more + 1 := ⟨depth' - 1, by omega⟩
    unfold ordersWithin
    congr 1
    apply List.flatMap_congr
    exact fun callee hcallee => ih (h callee hcallee) (by omega)

theorem Coherent.orders_eq (hg : g.Coherent) (hacyclic : g.Acyclic) (h : g.Outlet port) :
    g.orders port = (g.feedersOf port.component).flatMap g.orders ++ [port] := by
  have hnests := nestsWithin_componentCount hg hacyclic (component?_isSome_of_port? h.there)
  have hdeeper : g.orders port = g.ordersWithin (g.componentCount + 1) port :=
    (ordersWithin_eq hnests (Nat.le_succ _)).symm
  rw [hdeeper, ← hg.callees_of_outlet h]
  rfl

theorem feeds_of_reaches (hg : g.Coherent) {last : PortRef}
    (h : Relation.ReflTransGen g.Calls port last) :
    Relation.ReflTransGen g.Feeds last.component port.component := by
  rcases Relation.reflTransGen_iff_eq_or_transGen.mp h with rfl | hpath
  · exact .refl
  · exact (hg.feeds_of_calls hpath).to_reflTransGen

theorem Coherent.between_of_mem_orders (hg : g.Coherent) {later : PortRef}
    (hnests : g.NestsWithin depth later) (hport : port ∈ g.feedersOf id)
    (hmem : port ∈ g.ordersWithin depth later) :
    port = later ∨ ∃ last, Relation.ReflTransGen g.Calls later last ∧ g.Calls last port ∧
      last.component = id := by
  rcases Relation.ReflTransGen.cases_tail ((mem_ordersWithin hnests).mp hmem) with
    hsame | ⟨last, hlast, hcalls⟩
  · exact .inl hsame
  · exact .inr ⟨last, hlast, hcalls, hg.eq_of_feeder (mem_feedersOf_of_callee hcalls) hport⟩

theorem Coherent.notMem_orders_of_sibling (hg : g.Coherent) (hacyclic : g.Acyclic) {later : PortRef}
    (hport : port ∈ g.feedersOf id) (hlater : later ∈ g.feedersOf id) (hne : port ≠ later)
    (hnests : g.NestsWithin depth later) : port ∉ g.ordersWithin depth later := by
  intro hmem
  rcases hg.between_of_mem_orders hnests hport hmem with hsame | ⟨last, hlast, -, hid⟩
  · exact hne hsame
  · -- The component would feed itself.
    have hback := feeds_of_reaches hg hlast
    rw [hid] at hback
    exact hacyclic id (.tail' hback (hg.feeds_of_feeder hlater))

theorem Coherent.pairwise_feedersOf (hg : g.Coherent) (hacyclic : g.Acyclic)
    (hnests : ∀ port ∈ g.feedersOf id, g.NestsWithin depth port) :
    (g.feedersOf id).Pairwise fun port later => port ∉ g.ordersWithin depth later := by
  refine (hg.nodup_feedersOf id).imp_of_mem fun hport hlater hne => ?_
  exact hg.notMem_orders_of_sibling hacyclic hport hlater hne (hnests _ hlater)

theorem Coherent.notMem_orders_of_sinks (hg : g.Coherent) (hacyclic : g.Acyclic) {root : PortRef}
    (hsink : g.kind? id = some .sink) (hne : id ≠ other) (hport : port ∈ g.feedersOf id)
    (hroot : root ∈ g.feedersOf other) : port ∉ g.orders root := by
  intro hmem
  rcases hg.between_of_mem_orders (hg.nests_of_feeder hacyclic hroot) hport hmem with
    rfl | ⟨last, -, hcalls, hid⟩
  · exact hne (hg.eq_of_feeder hport hroot)
  · have hfilter := kind_of_calls hcalls
    rw [hid, hsink] at hfilter
    cases hfilter

theorem Coherent.notMem_orders_of_callee (hg : g.Coherent) (hacyclic : g.Acyclic)
    (h : g.Outlet port) : port ∉ (g.feedersOf port.component).flatMap g.orders := by
  intro hmem
  obtain ⟨callee, hcallee, hport⟩ := List.mem_flatMap.mp hmem
  have hback := (mem_ordersWithin (hg.nests_of_feeder hacyclic hcallee)).mp hport
  rw [← hg.callees_of_outlet h] at hcallee
  exact not_calls_back hg hacyclic hcallee hback

end

/-! ## One walk -/

/-- Between two sessions iterators were asked for in turn, and nothing else was called. -/
structure Asking (g : Graph W α) (orders : List PortRef) (before after : Session W α)
    (calls : List (Hook W)) (refusal : Option (PortRef × Fault)) : Prop where
  hooks : after.journal.hooks = before.journal.hooks ++ calls
  turn : InTurn orders calls refusal
  handed : g.Handed calls

/-- A walk either made what it was to make, with these calls, or a component refused an iterator
and the walk failed with the fault of that component. -/
inductive Yields {β : Type} (g : Graph W α) (orders : List PortRef) (before : Session W α)
    (result : List (Hook W) → β → Prop) : Made W α β → Prop where
  | made {calls : List (Hook W)} {item : β} {after : Session W α}
      (h : g.Asking orders before after calls none) (hresult : result calls item) :
      Yields g orders before result (.ok item, after)
  | refused {calls : List (Hook W)} {port : PortRef} {fault : Fault} {after : Session W α}
      (h : g.Asking orders before after calls (some (port, fault))) :
      Yields g orders before result
        (.error (.component (g.nameOf port.component) fault), after)

section

variable {g : Graph W α} {orders more : List PortRef} {first between last : Session W α}
  {calls calls' : List (Hook W)} {refusal : Option (PortRef × Fault)} {port : PortRef}

theorem asking_nothing (g : Graph W α) (session : Session W α) :
    g.Asking [] session session [] none :=
  ⟨(List.append_nil _).symm, .done, g.handed_nil⟩

theorem Asking.trans (h : g.Asking orders first between calls none)
    (h' : g.Asking more between last calls' refusal) :
    g.Asking (orders ++ more) first last (calls ++ calls') refusal where
  hooks := by rw [h'.hooks, h.hooks, List.append_assoc]
  turn := h.turn.append rfl h'.turn
  handed := h.handed.append h'.handed

theorem Asking.stop (h : g.Asking orders first last calls refusal) (hrefusal : refusal ≠ none)
    (more : List PortRef) : g.Asking (orders ++ more) first last calls refusal :=
  ⟨h.hooks, h.turn.stop hrefusal more, h.handed⟩

theorem Asking.askIterator (h : g.Asking orders first between calls none) {c : Component W α}
    (hc : g.component? port.component = some c) {upstream : List (Iterator W)}
    (hupstream : (g.feedersOf port.component).map (lastMade? calls) = upstream.map some)
    (act : Act W (Iterator W)) :
    g.Yields (orders ++ [port]) first (fun calls iterator => lastMade? calls port = some iterator)
      (Graph.askIterator c.name port upstream act between) := by
  have hhooks := between.hooks_ask act.beside (.iterator port upstream)
  unfold Graph.askIterator
  rcases hask : between.ask act.beside (.iterator port upstream) with ⟨fault | iterator, after⟩
  · rw [hask, h.hooks, List.append_assoc] at hhooks
    have hturn : InTurn [port] [.iterator port upstream (.error fault)] (some (port, fault)) :=
      .refused
    dsimp only
    rw [← nameOf_eq hc]
    exact .refused ⟨hhooks, h.turn.append rfl hturn, h.handed.concat hupstream _⟩
  · rw [hask, h.hooks, List.append_assoc] at hhooks
    have hturn : InTurn [port] [.iterator port upstream (.ok iterator)] none := .made .done
    exact .made ⟨hhooks, h.turn.append rfl hturn, h.handed.concat hupstream _⟩
      (lastMade?_concat ..)

/-- One walk after the other. A later walk asks for nothing behind the ports of the earlier ones. -/
theorem yields_makeEach {make : PortRef → Session W α → Made W α (Iterator W)}
    {orders : PortRef → List PortRef} {ports : List PortRef}
    (hmake : ∀ port ∈ ports, ∀ session, g.Yields (orders port) session
      (fun calls iterator => lastMade? calls port = some iterator) (make port session))
    (hapart : ports.Pairwise fun port later => port ∉ orders later) (session : Session W α) :
    g.Yields (ports.flatMap orders) session
      (fun calls iterators => ports.map (lastMade? calls) = iterators.map some)
      (makeEach make ports session) := by
  induction ports generalizing session with
  | nil => exact .made (g.asking_nothing session) rfl
  | cons port rest ih =>
    obtain ⟨hone, hothers⟩ := List.forall_mem_cons.mp hmake
    obtain ⟨hport, hrest⟩ := List.pairwise_cons.mp hapart
    rw [List.flatMap_cons]
    unfold makeEach
    rcases hmade : make port session with ⟨answer, between⟩
    have hwalk := hone session
    rw [hmade] at hwalk
    cases hwalk with
    | refused h => exact .refused (h.stop (by simp) _)
    | @made calls iterator _ h hlast =>
      dsimp only
      rcases hmades : makeEach make rest between with ⟨answers, after⟩
      have hwalks := ih hothers hrest between
      rw [hmades] at hwalks
      cases hwalks with
      | refused h' => exact .refused (h.trans h')
      | @made calls' iterators _ h' hlasts =>
        refine .made (h.trans h') ?_
        have hnone : lastMade? calls' port = none := by
          apply h'.turn.lastMade?_of_notMem
          rw [List.mem_flatMap]
          rintro ⟨later, hlater, hmem⟩
          exact hport later hlater hmem
        rw [List.map_cons, List.map_cons, map_lastMade?_append hlasts, lastMade?_append, hnone,
          Option.none_or, hlast]

theorem yields_iteratorWithin (hg : g.Coherent) (hacyclic : g.Acyclic) {depth : Nat}
    {port : PortRef} (hport : g.Outlet port) (hnests : g.NestsWithin depth port)
    (session : Session W α) :
    g.Yields (g.ordersWithin depth port) session
      (fun calls iterator => lastMade? calls port = some iterator)
      (g.iteratorWithin depth port session) := by
  induction depth generalizing port session with
  | zero => exact hnests.elim
  | succ depth ih =>
    obtain ⟨c, hc⟩ := Option.isSome_iff_exists.mp (component?_isSome_of_port? hport.there)
    have hkind : g.kind? port.component = some c.kind := by
      unfold kind?
      rw [hc, Option.map_some]
    have hcallees := hg.callees_of_outlet hport
    unfold iteratorWithin walk ordersWithin
    rw [hcallees]
    simp only [hc]
    cases hrole : c.role with
    | source source =>
      have hnone : g.feedersOf port.component = [] := by
        apply hg.feedersOf_source
        rw [hkind, Component.kind, hrole]
        rfl
      rw [hnone]
      exact (g.asking_nothing session).askIterator hc (by rw [hnone]; rfl) _
    | sink sink phase =>
      refine absurd ?_ (hg.kind_of_outlet hport)
      rw [hkind, Component.kind, hrole]
      rfl
    | filter filter =>
      have hbelow (callee : PortRef) (hcallee : callee ∈ g.feedersOf port.component) :
          g.NestsWithin depth callee :=
        hnests callee (hcallees ▸ hcallee)
      have hwalks := yields_makeEach
        (fun callee hcallee => ih (hg.outlet_of_feeder hcallee) (hbelow callee hcallee))
        (hg.pairwise_feedersOf hacyclic hbelow) session
      dsimp only
      rw [← feedersOf_eq hc]
      rcases hmades : makeEach (g.iteratorWithin depth) (g.feedersOf port.component) session with
        ⟨answers, between⟩
      rw [hmades] at hwalks
      cases hwalks with
      | refused h => exact .refused (h.stop (by simp) _)
      | made h hlasts => exact h.askIterator hc hlasts _

end

end Graph

end TraceFlow
