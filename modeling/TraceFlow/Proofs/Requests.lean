import TraceFlow.Proofs.Demand

/-!
# How often an iterator is asked for

The first step asks for the iterators that the sinks demand, in order and up to the first failure.
So whether it asks for one of them twice is a matter of the graph alone.
-/

namespace TraceFlow

variable {W α : Type}

def Hook.request? : Hook W → Option PortRef
  | .iterator port _ _ => some port
  | _ => none

namespace Session

def requests (session : Session W α) : List PortRef :=
  session.journal.hooks.filterMap Hook.request?

@[simp] theorem requests_log (session : Session W α) (line : LogLine) :
    (session.log line).requests = session.requests := by
  unfold requests
  rw [hooks_log]

theorem requests_ask_iterator (session : Session W α) (port : PortRef)
    (upstream : List (Iterator W)) (act : Act (W × α) (Iterator W)) :
    (session.ask act (.iterator port upstream)).2.requests = session.requests ++ [port] := by
  unfold requests
  rw [hooks_ask, List.filterMap_append]
  rfl

theorem requests_ask_of_none {β : Type} (session : Session W α) (act : Act (W × α) β)
    (hook : Except Fault β → Hook W) (h : ∀ answer, (hook answer).request? = none) :
    (session.ask act hook).2.requests = session.requests := by
  unfold requests
  rw [hooks_ask, List.filterMap_append, List.filterMap_cons, h]
  exact List.append_nil _

/-- Between two sessions iterators were asked for as ordered: for all of them if it went well, and
else for some of them from the first on. -/
def Asked (before after : Session W α) (orders : List PortRef) (well : Prop) : Prop :=
  ∃ asked, after.requests = before.requests ++ asked ∧ asked <+: orders ∧ (well → asked = orders)

namespace Asked

variable {first between last : Session W α} {orders more : List PortRef} {well : Prop}

theorem of_requests_eq (h : last.requests = first.requests) : Asked first last [] well :=
  ⟨[], by rw [h, List.append_nil], List.prefix_rfl, fun _ => rfl⟩

theorem nothing (h : last.requests = first.requests) (hfailed : ¬ well) :
    Asked first last orders well :=
  ⟨[], by rw [h, List.append_nil], List.nil_prefix, fun hwell => absurd hwell hfailed⟩

theorem failed (h : Asked first last orders well) {later : Prop} (hfailed : ¬ later) :
    Asked first last (orders ++ more) later := by
  obtain ⟨asked, hasked, hprefix, -⟩ := h
  exact ⟨asked, hasked, hprefix.trans (List.prefix_append _ _), fun hlater => absurd hlater hfailed⟩

theorem trans (h : Asked first between orders well) (hwell : well) {later : Prop}
    (h' : Asked between last more later) : Asked first last (orders ++ more) later := by
  obtain ⟨asked, hasked, -, hall⟩ := h
  obtain ⟨asked', hasked', hprefix, hall'⟩ := h'
  have hfirst : asked = orders := hall hwell
  subst hfirst
  refine ⟨asked ++ asked', ?_, (List.prefix_append_right_inj _).mpr hprefix, ?_⟩
  · rw [hasked', hasked, List.append_assoc]
  · intro hlater
    rw [hall' hlater]

theorem imp (h : Asked first last orders well) {later : Prop} (himp : later → well) :
    Asked first last orders later := by
  obtain ⟨asked, hasked, hprefix, hall⟩ := h
  exact ⟨asked, hasked, hprefix, fun hlater => hall (himp hlater)⟩

theorem of_eq (h : Asked first last orders well) {later : Session W α}
    (heq : later.requests = last.requests) : Asked first later orders well := by
  obtain ⟨asked, hasked, hrest⟩ := h
  exact ⟨asked, heq.trans hasked, hrest⟩

end Asked

end Session

/-- Something was made, or an answer was not an error. -/
def WentWell {β : Type} (answer : Except GraphError β) : Prop := ∃ made, answer = .ok made

theorem not_wentWell {β : Type} (e : GraphError) : ¬ WentWell (.error e : Except GraphError β) := by
  rintro ⟨made, h⟩
  cases h

/-! ## One walk -/

theorem asked_makeEach {ι β : Type} {make : ι → Session W α → Made W α β}
    {orders : ι → List PortRef} {items : List ι}
    (h : ∀ item ∈ items, ∀ session : Session W α, session.Asked (make item session).2 (orders item)
      (WentWell (make item session).1)) (session : Session W α) :
    session.Asked (makeEach make items session).2 (items.flatMap orders)
      (WentWell (makeEach make items session).1) := by
  induction items generalizing session with
  | nil => exact .of_requests_eq rfl
  | cons item rest ih =>
    have hone := h item List.mem_cons_self session
    have hrest := ih fun other hother => h other (List.mem_cons_of_mem _ hother)
    rw [List.flatMap_cons]
    unfold makeEach
    split
    · next hmake =>
      rw [hmake] at hone
      exact hone.failed (not_wentWell _)
    · next made between hmake =>
      rw [hmake] at hone
      have hlater := hone.trans ⟨_, rfl⟩ (hrest between)
      split
      · next hothers =>
        rw [hothers] at hlater
        exact hlater.imp fun hwell => absurd hwell (not_wentWell _)
      · next hothers =>
        rw [hothers] at hlater
        exact hlater.imp fun _ => ⟨_, rfl⟩

namespace Graph

theorem asked_askIterator (name : String) (port : PortRef) (upstream : List (Iterator W))
    (act : Act W (Iterator W)) (session : Session W α) {well : Prop} :
    session.Asked (askIterator name port upstream act session).2 [port] well := by
  have hrequests := session.requests_ask_iterator port upstream act.beside
  unfold askIterator
  split
  · next h =>
    rw [h] at hrequests
    exact ⟨[port], hrequests, List.prefix_rfl, fun _ => rfl⟩
  · next h =>
    rw [h] at hrequests
    exact ⟨[port], hrequests, List.prefix_rfl, fun _ => rfl⟩

theorem asked_iteratorWithin (g : Graph W α) (depth : Nat) (port : PortRef)
    (session : Session W α) :
    session.Asked (g.iteratorWithin depth port session).2 (g.ordersWithin depth port)
      (WentWell (g.iteratorWithin depth port session).1) := by
  induction depth generalizing port session with
  | zero => exact .of_requests_eq rfl
  | succ depth ih =>
    unfold iteratorWithin walk ordersWithin
    split
    · exact .nothing rfl (not_wentWell _)
    · next c hc =>
      rw [callees_of_role hc]
      split
      · next hrole =>
        rw [hrole]
        exact asked_askIterator c.name port _ _ session
      · next hrole =>
        rw [hrole]
        have hcallees := asked_makeEach (fun callee (_ : callee ∈ g.feeders c) => ih callee) session
        split
        · next hmake =>
          rw [hmake] at hcallees
          exact hcallees.failed (not_wentWell _)
        · next hmake =>
          rw [hmake] at hcallees
          exact hcallees.trans ⟨_, rfl⟩ (asked_askIterator c.name port _ _ _)
      · exact .nothing rfl (not_wentWell _)

/-! ## The walks from the sinks -/

theorem feedersOf_bare (g : Graph W α) (id : ComponentId) :
    g.bare.feedersOf id = g.feedersOf id := by
  unfold feedersOf
  rw [component?_bare]
  cases g.component? id with
  | none => rfl
  | some c =>
    have hinputs : (c.setPhase .idle).inputs = c.inputs := c.table_setPhase .idle .input
    simp only [Option.map_some]
    unfold feeders
    rw [hinputs]
    rfl

theorem ordersWithin_bare (g : Graph W α) (depth : Nat) (port : PortRef) :
    g.bare.ordersWithin depth port = g.ordersWithin depth port := by
  induction depth generalizing port with
  | zero => rfl
  | succ depth ih =>
    unfold ordersWithin callees
    rw [kind?_bare, feedersOf_bare, funext ih]

theorem demandOf_bare (g : Graph W α) (ids : List ComponentId) :
    g.bare.demandOf ids = g.demandOf ids := by
  unfold demandOf orders
  simp only [feedersOf_bare, componentCount_bare, funext (ordersWithin_bare g _)]

theorem Coherent.length_feedersOf_sink {g : Graph W α} (hg : g.Coherent) {id : ComponentId}
    (hid : id ∈ g.sinks) : (g.feedersOf id).length ≤ 1 := by
  have hcount := (hg.sink_ports id (hg.kind_of_sink hid)).1
  unfold feedersOf
  split
  · next c hc =>
    unfold portCount table? at hcount
    rw [hc] at hcount
    have hsize : c.inputs.ports.length = 1 := Except.ok.inj hcount
    rw [← hsize]
    exact List.length_filterMap_le ..
  · exact Nat.zero_le _

theorem asked_openSink {g : Graph W α} {id : ComponentId} (hlength : (g.feedersOf id).length ≤ 1)
    (session : Session W α) :
    session.Asked (g.openSink id session).session ((g.feedersOf id).flatMap g.orders)
      (WentWell (g.openSink id session).answer) := by
  unfold openSink
  split
  · exact .nothing rfl (not_wentWell _)
  · next c hc =>
    rw [feedersOf_eq hc] at hlength ⊢
    split
    · exact .nothing rfl (not_wentWell _)
    · next hfeeder =>
      have hnone : g.feeders c = [] := by
        unfold sinkFeeder at hfeeder
        split at hfeeder
        · cases hfeeder
        · exact List.getLast?_eq_none_iff.mp (Except.ok.inj hfeeder)
      rw [hnone]
      exact .of_requests_eq rfl
    · next port hfeeder =>
      have hone : g.feeders c = [port] := by
        have hmem := mem_feeders_of_sinkFeeder hfeeder
        have hpos := List.length_pos_of_mem hmem
        obtain ⟨only, honly⟩ := List.length_eq_one_iff.mp (show (g.feeders c).length = 1 by omega)
        rw [honly] at hmem ⊢
        rw [List.mem_singleton.mp hmem]
      have hasked := asked_iteratorWithin g g.componentCount port session
      rw [hone, List.flatMap_singleton]
      unfold iterator orders
      split
      · next h =>
        rw [h] at hasked
        exact hasked.imp fun hwell => absurd hwell (not_wentWell _)
      · next h =>
        rw [h] at hasked
        exact hasked.imp fun _ => ⟨_, rfl⟩

theorem asked_openSinks {g : Graph W α} {ids : List ComponentId}
    (hlength : ∀ id ∈ ids, (g.feedersOf id).length ≤ 1) (session : Session W α) :
    session.Asked (g.openSinks ids session).session (g.demandOf ids)
      (WentWell (g.openSinks ids session).answer) := by
  induction ids generalizing g session with
  | nil => exact .of_requests_eq rfl
  | cons id rest ih =>
    have hone := asked_openSink (hlength id List.mem_cons_self) session
    have hbare := bare_openSink g id session
    unfold demandOf
    rw [List.flatMap_cons]
    unfold openSinks
    split
    · next h =>
      rw [h] at hone
      exact hone.failed (not_wentWell _)
    · next opened between h =>
      rw [h] at hone hbare
      have hrest : ∀ other ∈ rest, (opened.feedersOf other).length ≤ 1 := by
        intro other hother
        rw [← feedersOf_bare, hbare, feedersOf_bare]
        exact hlength other (List.mem_cons_of_mem _ hother)
      have hdemand : opened.demandOf rest = g.demandOf rest := by
        rw [← demandOf_bare, hbare, demandOf_bare]
      have hlater := ih hrest between
      rw [hdemand] at hlater
      exact hone.trans ⟨_, rfl⟩ hlater

/-! ## The first step -/

theorem requests_setUpSink (g : Graph W α) (id : ComponentId) (session : Session W α) :
    (g.setUpSink id session).2.requests = session.requests := by
  unfold setUpSink
  split
  · next sink _ _ =>
    have hrequests := session.requests_ask_of_none sink.setUp (.setUp id) fun _ => rfl
    split
    · next h => rw [h] at hrequests; exact hrequests
    · next h => rw [h] at hrequests; exact hrequests
  · rfl

theorem requests_settle (g : Graph W α) (otherwise : Status) (session : Session W α) :
    (g.settle otherwise session).session.requests = session.requests := by
  unfold settle
  split
  · exact session.requests_log _
  · rfl

theorem requests_consume (g : Graph W α) (id : ComponentId) (name : String) (sink : Sink W α)
    (upstream : Iterator W) (session : Session W α) :
    (g.consume id name sink upstream session).session.requests = session.requests := by
  have hrequests := session.requests_ask_of_none (sink.consume upstream)
    (.consume id upstream) fun _ => rfl
  unfold consume
  split
  · next h => rw [h] at hrequests; exact hrequests
  · next h => rw [h] at hrequests; exact hrequests
  · next h => rw [h] at hrequests; exact hrequests
  · next h =>
    rw [h] at hrequests
    rw [requests_settle, Session.requests_log]
    exact hrequests

theorem requests_feedWithin (g : Graph W α) (turns : Nat) (session : Session W α) :
    (g.feedWithin turns session).session.requests = session.requests := by
  induction turns generalizing g with
  | zero => exact requests_settle g .again session
  | succ turns ih =>
    unfold feedWithin
    split
    · rfl
    · split
      · rfl
      · split
        · exact requests_consume ..
        · rfl
        · exact ih _

theorem requests_conclude (reply : Reply W α Status) :
    (conclude reply).session.requests = reply.session.requests := by
  unfold conclude
  split <;> exact Session.requests_log ..

theorem asked_configure {g : Graph W α} (hg : g.Coherent) (session : Session W α) :
    session.Asked (g.configure session).session g.demand
      (WentWell (g.openSinks g.sinks session).answer) := by
  have hopen := asked_openSinks (fun id hid => hg.length_feedersOf_sink hid) session
  unfold configure
  split
  · next hempty =>
    have hnil : g.demand = [] := by
      unfold demand demandOf
      rw [List.isEmpty_iff.mp hempty]
      rfl
    rw [hnil]
    exact .of_requests_eq rfl
  · split
    · next h =>
      rw [h] at hopen ⊢
      exact hopen
    · next opened between h =>
      rw [h] at hopen ⊢
      have hsetup := makeEach_keeps Session.requests opened.requests_setUpSink opened.sinks between
      split
      · next hmake =>
        rw [hmake] at hsetup
        exact hopen.of_eq hsetup
      · next hmake =>
        rw [hmake] at hsetup
        exact hopen.of_eq ((Session.requests_log _ _).trans hsetup)

theorem asked_run {g : Graph W α} (hg : g.Coherent) (hstate : g.state = .configuring)
    (session : Session W α) :
    session.Asked (g.run session).session g.demand
      (WentWell (g.openSinks g.sinks session).answer) := by
  have hconfigure := asked_configure hg session
  unfold run
  simp only [hstate]
  split
  · next h =>
    rw [h] at hconfigure
    exact hconfigure.of_eq (Session.requests_log ..)
  · next h =>
    rw [h] at hconfigure
    refine hconfigure.of_eq ?_
    rw [requests_conclude]
    exact requests_feedWithin ..

theorem wentWell_openSinks {g : Graph W α} (hg : g.Coherent) (hacyclic : g.Acyclic)
    (hstate : g.state = .configuring) {session : Session W α}
    (h : ∀ e, (g.run session).answer = .error e → ¬ OpenError e) :
    WentWell (g.openSinks g.sinks session).answer := by
  rcases hanswer : (g.openSinks g.sinks session).answer with e | made
  · have hopen := openSinks_error hg hacyclic (fun _ => hg.component_of_sink) hanswer
    have hrun : (g.run session).answer = .error e := by
      rcases hreply : g.openSinks g.sinks session with ⟨answer, opened, between⟩
      rw [hreply] at hanswer
      cases hanswer
      have hsinks : g.sinks.isEmpty = false := by
        rw [Bool.eq_false_iff]
        intro hempty
        rw [List.isEmpty_iff.mp hempty] at hreply
        cases hreply
      unfold run configure
      simp only [hstate, hsinks, hreply]
      rfl
    exact absurd hopen (h e hrun)
  · exact ⟨made, rfl⟩

/--
The first step asks twice for one iterator only where the graph forks. Where it does, and no
iterator fails to be made for another reason, it does ask twice.
-/
theorem requests_nodup_iff {g : Graph W α} (h : g.Reached) (hstate : g.state = .configuring)
    (session : Session W α) :
    ∃ asked, (g.run session).session.requests = session.requests ++ asked ∧
      asked <+: g.demand ∧
      (¬ g.Forked → asked.Nodup) ∧
      ((∀ e, (g.run session).answer = .error e → ¬ OpenError e) →
        (asked.Nodup ↔ ¬ g.Forked)) := by
  have hg := h.coherent
  have hacyclic := h.acyclic
  obtain ⟨asked, hasked, hprefix, hall⟩ := asked_run hg hstate session
  have hdemand := nodup_demand_iff hg hacyclic
  refine ⟨asked, hasked, hprefix, ?_, ?_⟩
  · intro hfork
    exact (hdemand.mpr hfork).sublist hprefix.sublist
  · intro hwell
    rw [hall (wentWell_openSinks hg hacyclic hstate hwell)]
    exact hdemand

theorem requests_tapAndCup :
    tapAndCup.Reached ∧ tapAndCup.state = .configuring ∧
      (tapAndCup.run ⟨.plain 1, .empty⟩).session.requests = [tapOut] ∧ ¬ tapAndCup.Forked := by
  have hreached : tapAndCup.Reached := reachedFrom_carryOut ..
  have hstate : tapAndCup.state = .configuring := by decide +kernel
  have hrequests : (tapAndCup.run ⟨.plain 1, .empty⟩).session.requests = [tapOut] := by
    decide +kernel
  have hanswer : (tapAndCup.run ⟨.plain 1, .empty⟩).answer = .ok .ended := by decide +kernel
  obtain ⟨asked, hasked, -, -, hiff⟩ := requests_nodup_iff hreached hstate ⟨.plain 1, .empty⟩
  refine ⟨hreached, hstate, hrequests, ?_⟩
  have hfirst : asked = [tapOut] := hasked.symm.trans hrequests
  have hnodup := hiff fun e he => by
    rw [hanswer] at he
    cases he
  rw [hfirst] at hnodup
  exact hnodup.mp (List.nodup_singleton _)

/-- A source whose stream can be taken once; the world keeps whether it was. -/
def onceTap : SourceClass Bool where
  name := "tap"
  description := none
  instantiate _ _ := pure
    { outputCount := fun _ => 1
      iterator := fun _ => do
        if (← get) then throw ⟨"no stream behind output port 0", []⟩
        set true
        pure ⟨pure .ended⟩ }

def tee : FilterClass Bool where
  name := "tee"
  description := none
  instantiate _ _ := pure
    { inputCount := fun _ => 1
      outputCount := fun _ => 2
      inputConnected := fun _ => id
      iterator := fun _ _ => pure ⟨pure .ended⟩ }

/-- The stream goes through the filter to two sinks. -/
def teed : Graph Bool Unit :=
  empty.carryOut ⟨.plain false, .empty⟩
    [.addSource onceTap "tap" .empty .info, .addFilter tee "tee" .empty .info,
      .addSink cup "left", .addSink cup "right",
      .connect tapOut ⟨⟨1⟩, .input, 0⟩, .connect ⟨⟨1⟩, .output, 0⟩ ⟨⟨2⟩, .input, 0⟩,
      .connect ⟨⟨1⟩, .output, 1⟩ ⟨⟨3⟩, .input, 0⟩]

theorem teed_asks_twice :
    teed.Reached ∧ teed.state = .configuring ∧
      (teed.run ⟨.plain false, .empty⟩).session.requests = [tapOut, ⟨⟨1⟩, .output, 0⟩, tapOut] ∧
      (teed.run ⟨.plain false, .empty⟩).answer =
        .error (.component "tap" ⟨"no stream behind output port 0", []⟩) := by
  have hrequests : (teed.run ⟨.plain false, .empty⟩).session.requests =
      [tapOut, ⟨⟨1⟩, .output, 0⟩, tapOut] := by decide +kernel
  have hanswer : (teed.run ⟨.plain false, .empty⟩).answer =
      .error (.component "tap" ⟨"no stream behind output port 0", []⟩) := by decide +kernel
  exact ⟨reachedFrom_carryOut .., by decide +kernel, hrequests, hanswer⟩

end Graph

end TraceFlow
