import Mathlib.Data.List.Rotate
import TraceFlow.Proofs.Demand

/-!
# Whose turn it is

The sinks that have not ended wait in a queue, from the cursor on and around. A step feeds the first
of them, which then goes to the end of the queue, or leaves it if it has ended.
-/

namespace TraceFlow

namespace Graph

variable {W α : Type}

/-! ## Sinks and their phases -/

def sink? (g : Graph W α) (id : ComponentId) : Option (Sink W α × SinkPhase W) :=
  (g.component? id).bind Component.sink?

theorem sink?_eq_some_iff {g : Graph W α} {id : ComponentId} {sink : Sink W α}
    {phase : SinkPhase W} :
    g.sink? id = some (sink, phase) ↔
      ∃ c, g.component? id = some c ∧ c.role = .sink sink phase := by
  unfold sink?
  rw [Option.bind_eq_some_iff]
  refine exists_congr fun c => and_congr_right fun _ => ?_
  unfold Component.sink?
  cases c.role <;> simp

theorem hasEnded_iff {g : Graph W α} {id : ComponentId} :
    g.hasEnded id = true ↔ ∃ sink, g.sink? id = some (sink, .ended) := by
  simp only [sink?_eq_some_iff]
  unfold hasEnded
  cases hc : g.component? id with
  | none => simp
  | some c =>
    obtain ⟨_, _, _, _, _, role⟩ := c
    rcases role with _ | _ | ⟨sink, _ | _ | _⟩ <;> simp [Component.hasEnded]

theorem hasEnded_of_reading {g : Graph W α} {id : ComponentId} {sink : Sink W α}
    {upstream : Iterator W} (h : g.sink? id = some (sink, .reading upstream)) :
    g.hasEnded id = false := by
  rw [Bool.eq_false_iff, ne_eq, hasEnded_iff, h]
  simp

theorem sink?_setPhase_self {g : Graph W α} {id : ComponentId} {sink : Sink W α}
    {phase : SinkPhase W} (h : g.sink? id = some (sink, phase)) (next : SinkPhase W) :
    (g.modify id (·.setPhase next)).sink? id = some (sink, next) := by
  obtain ⟨c, hc, hrole⟩ := sink?_eq_some_iff.mp h
  refine sink?_eq_some_iff.mpr ⟨c.setPhase next, ?_, ?_⟩
  · rw [component?_modify_self, hc, Option.map_some]
  · unfold Component.setPhase
    rw [hrole]

theorem sink?_modify_of_ne (g : Graph W α) {id other : ComponentId} (h : other ≠ id)
    (f : Component W α → Component W α) : (g.modify id f).sink? other = g.sink? other := by
  unfold sink?
  rw [component?_modify_of_ne g h]

theorem hasEnded_congr {g g' : Graph W α} {id : ComponentId} (h : g'.sink? id = g.sink? id) :
    g'.hasEnded id = g.hasEnded id := by
  rw [Bool.eq_iff_iff, hasEnded_iff, hasEnded_iff, h]

/-! ## The queue -/

/-- The sinks that have not ended, in the order of their turns. -/
def waiting (g : Graph W α) : List ComponentId :=
  (g.sinks.rotate g.cursor).filter fun id => !g.hasEnded id

theorem mem_waiting {g : Graph W α} {id : ComponentId} :
    id ∈ g.waiting ↔ id ∈ g.sinks ∧ g.hasEnded id = false := by
  simp [waiting]

theorem nodup_waiting {g : Graph W α} (h : g.sinks.Nodup) : g.waiting.Nodup :=
  (List.nodup_rotate.mpr h).filter _

theorem allEnded_iff {g : Graph W α} : g.allEnded = true ↔ g.waiting = [] := by
  simp [allEnded, waiting, List.filter_eq_nil_iff]

def pass (g : Graph W α) (places : Nat) : Graph W α :=
  { g with cursor := (g.cursor + places) % g.sinks.length }

theorem pass_advance (g : Graph W α) (places : Nat) :
    g.advance.pass places = g.pass (places + 1) := by
  simp [pass, advance, Nat.add_comm 1, Nat.add_assoc]

/-- The sink has the next turn: it stands so many places behind the cursor, around the list of the
sinks, and those before it have ended. -/
structure NextTurn (g : Graph W α) (places : Nat) (id : ComponentId) : Prop where
  place : g.sinks[(g.cursor + places) % g.sinks.length]? = some id
  within : places < g.sinks.length
  live : g.hasEnded id = false
  passed : ∀ j < places, ∀ other,
    g.sinks[(g.cursor + j) % g.sinks.length]? = some other → g.hasEnded other = true

/-- The first in the queue has the next turn, and a turn later it is the last. -/
theorem nextTurn_of_waiting {g : Graph W α} {id : ComponentId} {rest : List ComponentId}
    (h : g.waiting = id :: rest) :
    ∃ places, g.NextTurn places id ∧ (g.pass (places + 1)).waiting = rest ++ [id] := by
  -- From the cursor on, those passed over have ended, and those behind are the rest of the queue.
  obtain ⟨passed, behind, hsplit, hpassed, hlive, hrest⟩ := List.filter_eq_cons_iff.mp h
  have hlength : passed.length < g.sinks.length := by
    have hsame := congrArg List.length hsplit
    simp only [List.length_rotate, List.length_append, List.length_cons] at hsame
    omega
  have hat (j : Nat) (hj : j < g.sinks.length) :
      g.sinks[(g.cursor + j) % g.sinks.length]? = (passed ++ id :: behind)[j]? := by
    rw [← hsplit, List.getElem?_rotate hj, Nat.add_comm]
  refine ⟨passed.length, ⟨?_, hlength, ?_, ?_⟩, ?_⟩
  · rw [hat _ hlength]
    simp
  · simpa using hlive
  · intro j hj other hother
    rw [hat j (by omega), List.getElem?_append_left hj] at hother
    simpa using hpassed other (List.mem_of_getElem? hother)
  · have hrotate : g.sinks.rotate ((g.cursor + (passed.length + 1)) % g.sinks.length) =
        behind ++ (passed ++ [id]) := by
      rw [List.rotate_mod, ← List.rotate_rotate, hsplit, List.append_cons,
        ← List.rotate_append_length_eq (passed ++ [id]) behind]
      simp
    have hnone : passed.filter (fun other => !g.hasEnded other) = [] :=
      List.filter_eq_nil_iff.mpr hpassed
    unfold waiting pass
    change (List.rotate g.sinks _).filter (fun other => !g.hasEnded other) = _
    rw [hrotate, List.filter_append, List.filter_append, hrest, hnone,
      List.filter_singleton, hlive]
    rfl

theorem waiting_of_ended {g : Graph W α} {id : ComponentId} {rest : List ComponentId}
    (hnodup : g.sinks.Nodup) (hwaiting : g.waiting = rest ++ [id]) {sink : Sink W α}
    {phase : SinkPhase W} (hsink : g.sink? id = some (sink, phase)) :
    (g.modify id (·.setPhase .ended)).waiting = rest := by
  have hself : (g.modify id (·.setPhase .ended)).hasEnded id = true :=
    hasEnded_iff.mpr ⟨sink, sink?_setPhase_self hsink .ended⟩
  have hfilter : (g.modify id (·.setPhase .ended)).waiting = g.waiting.filter (· ≠ id) := by
    unfold waiting
    rw [List.filter_filter]
    apply List.filter_congr
    intro other _
    by_cases hother : other = id
    · subst hother
      simp [hself]
    · rw [hasEnded_congr (sink?_modify_of_ne g hother _)]
      simp [hother]
  have hnot : id ∉ rest := by
    have := nodup_waiting hnodup
    rw [hwaiting, List.nodup_append] at this
    exact fun hmem => this.2.2 id hmem id (List.mem_singleton.mpr rfl) rfl
  rw [hfilter, hwaiting, List.filter_append, List.filter_eq_self.mpr]
  · simp
  · intro other hother
    simpa using fun h : other = id => hnot (h ▸ hother)

/-! ## A turn -/

/-- The sinks take turns: every sink reads or has ended, and one at least still reads. -/
structure Underway (g : Graph W α) : Prop where
  nodup : g.sinks.Nodup
  cursor : g.cursor < g.sinks.length
  engaged : ∀ id ∈ g.sinks, (∃ sink upstream, g.sink? id = some (sink, .reading upstream)) ∨
    g.hasEnded id = true
  live : g.waiting ≠ []

theorem NextTurn.here {g : Graph W α} {places : Nat} {id : ComponentId}
    (hcursor : g.cursor < g.sinks.length) (h : g.NextTurn (places + 1) id) :
    ∃ other passed, g.sinks[g.cursor]? = some other ∧ g.sink? other = some (passed, .ended) := by
  have hother := List.getElem?_eq_getElem hcursor
  have hended : g.hasEnded g.sinks[g.cursor] = true := by
    refine h.passed 0 (by omega) _ ?_
    rw [Nat.add_zero, Nat.mod_eq_of_lt hcursor]
    exact hother
  obtain ⟨passed, hpassed⟩ := hasEnded_iff.mp hended
  exact ⟨_, passed, hother, hpassed⟩

theorem NextTurn.advance {g : Graph W α} {places : Nat} {id : ComponentId}
    (h : g.NextTurn (places + 1) id) : g.advance.NextTurn places id := by
  have hshift (j : Nat) : (g.advance.cursor + j) % g.advance.sinks.length =
      (g.cursor + (j + 1)) % g.sinks.length := by
    simp [Graph.advance, Nat.add_comm 1, Nat.add_assoc]
  exact
    { place := by rw [hshift]; exact h.place
      within := Nat.lt_of_succ_lt h.within
      live := h.live
      passed := by
        intro j hj
        rw [hshift]
        exact h.passed (j + 1) (by omega) }

theorem feedWithin_of_turn {g : Graph W α} {places turns : Nat} {id : ComponentId}
    {c : Component W α} {sink : Sink W α} {upstream : Iterator W}
    (hcursor : g.cursor < g.sinks.length) (hturn : g.NextTurn places id)
    (hc : g.component? id = some c) (hrole : c.role = .sink sink (.reading upstream))
    (hturns : places < turns) (session : Session W α) :
    g.feedWithin turns session =
      (g.pass (places + 1)).consume id c.name sink upstream session := by
  obtain ⟨turns, rfl⟩ : ∃ n, turns = n + 1 := ⟨turns - 1, by omega⟩
  induction places generalizing g turns with
  | zero =>
    have hplace := hturn.place
    rw [Nat.add_zero, Nat.mod_eq_of_lt hcursor] at hplace
    unfold feedWithin
    simp only [hplace, hc, hrole]
    rfl
  | succ places ih =>
    have hlength : 0 < g.sinks.length := by omega
    obtain ⟨other, passed, hother, hpassed⟩ := hturn.here hcursor
    obtain ⟨c', hc', hrole'⟩ := sink?_eq_some_iff.mp hpassed
    obtain ⟨turns, rfl⟩ : ∃ n, turns = n + 1 := ⟨turns - 1, by omega⟩
    unfold feedWithin
    simp only [hother, hc', hrole']
    rw [ih (Nat.mod_lt _ hlength) hturn.advance hc turns (by omega), pass_advance]

/-- The sink at the head of the queue, reading, with its place. -/
structure Serves (g : Graph W α) (places : Nat) (id : ComponentId) (c : Component W α)
    (sink : Sink W α) (upstream : Iterator W) : Prop where
  turn : g.NextTurn places id
  component : g.component? id = some c
  role : c.role = .sink sink (.reading upstream)

theorem Underway.feed_eq {g : Graph W α} (h : g.Underway) (session : Session W α) :
    ∃ places id c sink upstream rest, g.Serves places id c sink upstream ∧
      g.waiting = id :: rest ∧ (g.pass (places + 1)).waiting = rest ++ [id] ∧
      g.feed session = (g.pass (places + 1)).consume id c.name sink upstream session := by
  obtain ⟨id, rest, hwaiting⟩ := List.exists_cons_of_ne_nil h.live
  obtain ⟨places, hturn, hlater⟩ := nextTurn_of_waiting hwaiting
  have hid : id ∈ g.sinks := List.mem_of_getElem? hturn.place
  rcases h.engaged id hid with ⟨sink, upstream, hsink⟩ | hended
  · obtain ⟨c, hc, hrole⟩ := sink?_eq_some_iff.mp hsink
    refine ⟨places, id, c, sink, upstream, rest, ⟨hturn, hc, hrole⟩, hwaiting, hlater, ?_⟩
    exact feedWithin_of_turn h.cursor hturn hc hrole hturn.within session
  · rw [hturn.live] at hended
    cases hended

/-! ## What a turn comes to -/

def verdict (name : String) (allEnded : Bool) : Except Fault Status → Except GraphError Status
  | .error fault => .error (.sink name fault)
  | .ok .ended => .ok (if allEnded then .ended else .ok)
  | .ok status => .ok status

/-- The queue before and after some calls of sinks to consume. -/
inductive Turns : List ComponentId → List (Hook W) → List ComponentId → Prop where
  | none (queue : List ComponentId) : Turns queue [] queue
  | stays {id : ComponentId} {rest queue : List ComponentId} {upstream : Iterator W}
      {answer : Except Fault Status} {calls : List (Hook W)} (h : answer ≠ .ok .ended) :
      Turns (rest ++ [id]) calls queue →
        Turns (id :: rest) (.consume id upstream answer :: calls) queue
  | leaves {id : ComponentId} {rest queue : List ComponentId} {upstream : Iterator W}
      {calls : List (Hook W)} :
      Turns rest calls queue → Turns (id :: rest) (.consume id upstream (.ok .ended) :: calls) queue

/-- What a step leaves that fed the sink at the head of the queue. -/
structure TookTurn (g : Graph W α) (session : Session W α) (reply : Reply W α Status)
    (places : Nat) (id : ComponentId) (c : Component W α) (sink : Sink W α)
    (upstream : Iterator W) (answer : Except Fault Status) : Prop where
  serves : g.Serves places id c sink upstream
  asked : ((sink.consume upstream).on (session.world, session.shared)).1 = answer
  hooks : reply.session.journal.hooks =
    session.journal.hooks ++ [.consume id upstream answer]
  cursor : reply.graph.cursor = (g.cursor + (places + 1)) % g.sinks.length
  replied : reply.answer = verdict c.name reply.graph.allEnded answer
  queue : Turns g.waiting [.consume id upstream answer] reply.graph.waiting
  bare : reply.graph.bare = g.bare
  state : (∃ e, reply.answer = .error e) ∧ reply.graph.state = .faulted ∨
    (∃ status, reply.answer = .ok status) ∧
      (reply.graph.state = .ended ∨ reply.graph.state = .running ∧ reply.graph.Underway)

theorem Underway.pass {g : Graph W α} (h : g.Underway) (places : Nat) :
    (g.pass places).Underway where
  nodup := h.nodup
  cursor := Nat.mod_lt _ (Nat.zero_lt_of_lt h.cursor)
  engaged := h.engaged
  live := by
    obtain ⟨id, hid⟩ := List.exists_mem_of_ne_nil _ h.live
    have hboth := mem_waiting.mp hid
    exact List.ne_nil_of_mem (mem_waiting.mpr ⟨hboth.1, hboth.2⟩)

theorem Underway.withSteps {g : Graph W α} (h : g.Underway) (steps : Nat) :
    { g with steps }.Underway :=
  ⟨h.nodup, h.cursor, h.engaged, h.live⟩

theorem Underway.ended {g : Graph W α} (h : g.Underway) {id : ComponentId} {sink : Sink W α}
    {phase : SinkPhase W} (hsink : g.sink? id = some (sink, phase))
    (hlive : (g.modify id (·.setPhase .ended)).waiting ≠ []) :
    (g.modify id (·.setPhase .ended)).Underway where
  nodup := h.nodup
  cursor := h.cursor
  engaged other hother := by
    by_cases hid : other = id
    · subst hid
      exact .inr (hasEnded_iff.mpr ⟨sink, sink?_setPhase_self hsink .ended⟩)
    · have hsame := sink?_modify_of_ne g hid (·.setPhase .ended)
      rw [hsame, hasEnded_congr hsame]
      exact h.engaged other hother
  live := hlive

theorem consume_of_ok {sink : Sink W α} {upstream : Iterator W} {session : Session W α}
    {status : Status} {world : W} {shared : α}
    (h : (sink.consume upstream).on (session.world, session.shared) = (.ok status, world, shared))
    (hstatus : status ≠ .ended) (g : Graph W α) (id : ComponentId) (name : String) :
    g.consume id name sink upstream session =
      ⟨.ok status, g,
        { session with
          world, shared
          journal := session.journal.record (.hook (.consume id upstream (.ok status))) }⟩ := by
  unfold consume Session.ask
  rw [h]
  cases status with
  | ended => exact absurd rfl hstatus
  | ok => rfl
  | again => rfl

/-! ## Every turn

What a turn leaves, by the answer of the sink that stands first in the queue. If it fails it keeps
its place, and the graph is faulted. If it goes on it is the last in the queue then. If it ends it
leaves the queue, and the graph ends with the last of them. -/

section

variable {g : Graph W α} {session : Session W α} {places : Nat} {id : ComponentId}
  {c : Component W α} {sink : Sink W α} {upstream : Iterator W} {rest : List ComponentId}

theorem Serves.tookTurn_of_error (h : g.Serves places id c sink upstream)
    (hwaiting : g.waiting = id :: rest) (hlater : (g.pass (places + 1)).waiting = rest ++ [id])
    {fault : Fault} {world : W} {shared : α}
    (hanswer : (sink.consume upstream).on (session.world, session.shared) =
      (.error fault, world, shared)) :
    g.TookTurn session
      (conclude ((g.pass (places + 1)).consume id c.name sink upstream session))
      places id c sink upstream (.error fault) := by
  have hbare := bare_consume (g.pass (places + 1)) id c.name sink upstream session
  rw [← bare_conclude] at hbare
  unfold consume Session.ask at hbare ⊢
  rw [hanswer] at hbare ⊢
  exact
    { serves := h
      asked := by rw [hanswer]
      hooks := by simp [conclude]
      cursor := rfl
      replied := rfl
      queue := hwaiting ▸ .stays nofun (hlater ▸ .none _)
      bare := hbare
      state := .inl ⟨⟨_, rfl⟩, rfl⟩ }

theorem Serves.tookTurn_of_ok (h : g.Serves places id c sink upstream)
    (hunderway : g.Underway) (hstate : g.state = .running)
    (hwaiting : g.waiting = id :: rest) (hlater : (g.pass (places + 1)).waiting = rest ++ [id])
    {status : Status} {world : W} {shared : α}
    (hanswer : (sink.consume upstream).on (session.world, session.shared) =
      (.ok status, world, shared))
    (hstatus : status ≠ .ended) :
    g.TookTurn session
      (conclude ((g.pass (places + 1)).consume id c.name sink upstream session))
      places id c sink upstream (.ok status) := by
  have hbare := bare_consume (g.pass (places + 1)) id c.name sink upstream session
  rw [← bare_conclude] at hbare
  rw [consume_of_ok hanswer hstatus] at hbare ⊢
  exact
    { serves := h
      asked := by rw [hanswer]
      hooks := by simp [conclude]
      cursor := rfl
      replied := by
        cases status with
        | ended => exact absurd rfl hstatus
        | ok => rfl
        | again => rfl
      queue := hwaiting ▸ .stays (fun hover => hstatus (Except.ok.inj hover)) (hlater ▸ .none _)
      bare := hbare
      state := .inr ⟨⟨_, rfl⟩, .inr ⟨hstate, (hunderway.pass _).withSteps _⟩⟩ }

theorem Serves.tookTurn_of_ended (h : g.Serves places id c sink upstream)
    (hunderway : g.Underway) (hstate : g.state = .running)
    (hwaiting : g.waiting = id :: rest) (hlater : (g.pass (places + 1)).waiting = rest ++ [id])
    {world : W} {shared : α}
    (hanswer : (sink.consume upstream).on (session.world, session.shared) =
      (.ok .ended, world, shared)) :
    g.TookTurn session
      (conclude ((g.pass (places + 1)).consume id c.name sink upstream session))
      places id c sink upstream (.ok .ended) := by
  have hbare := bare_consume (g.pass (places + 1)) id c.name sink upstream session
  rw [← bare_conclude] at hbare
  have hsink : (g.pass (places + 1)).sink? id = some (sink, .reading upstream) :=
    sink?_eq_some_iff.mpr ⟨c, h.component, h.role⟩
  have hrest := waiting_of_ended (hunderway.pass (places + 1)).nodup hlater hsink
  have hqueue : Turns g.waiting [.consume id upstream (.ok .ended)] rest :=
    hwaiting ▸ .leaves (.none _)
  have hreplied (allEnded : Bool)
      (hall : ((g.pass (places + 1)).modify id (·.setPhase .ended)).allEnded = allEnded) :
      verdict c.name ((g.pass (places + 1)).modify id (·.setPhase .ended)).allEnded
        (.ok (.ended : Status)) = .ok (if allEnded then .ended else .ok) := by
    rw [hall]
    rfl
  unfold consume Session.ask settle at hbare ⊢
  rw [hanswer] at hbare ⊢
  by_cases hall : ((g.pass (places + 1)).modify id (·.setPhase .ended)).allEnded = true
  · simp only [hall, if_true] at hbare ⊢
    exact
      { serves := h
        asked := by rw [hanswer]
        hooks := by simp [conclude]
        cursor := rfl
        replied := (hreplied true hall).symm
        queue := hrest ▸ hqueue
        bare := hbare
        state := .inr ⟨⟨_, rfl⟩, .inl rfl⟩ }
  · simp only [hall] at hbare ⊢
    have hothers : ((g.pass (places + 1)).modify id (·.setPhase .ended)).Underway :=
      (hunderway.pass _).ended hsink fun hnone => hall (allEnded_iff.mpr hnone)
    exact
      { serves := h
        asked := by rw [hanswer]
        hooks := by simp [conclude]
        cursor := rfl
        replied := (hreplied false (Bool.eq_false_iff.mpr hall)).symm
        queue := hrest ▸ hqueue
        bare := hbare
        state := .inr ⟨⟨_, rfl⟩, .inr ⟨hstate, hothers.withSteps _⟩⟩ }

end

theorem Underway.tookTurn {g : Graph W α} (h : g.Underway) (hstate : g.state = .running)
    (session : Session W α) :
    ∃ places id c sink upstream answer,
      g.TookTurn session (conclude (g.feed session)) places id c sink upstream answer := by
  obtain ⟨places, id, c, sink, upstream, rest, hserves, hwaiting, hlater, hfeed⟩ :=
    h.feed_eq session
  rcases hanswer : (sink.consume upstream).on (session.world, session.shared) with
    ⟨answer, world, shared⟩
  refine ⟨places, id, c, sink, upstream, answer, ?_⟩
  rw [hfeed]
  rcases answer with fault | status
  · exact hserves.tookTurn_of_error hwaiting hlater hanswer
  · by_cases hstatus : status = .ended
    · subst hstatus
      exact hserves.tookTurn_of_ended h hstate hwaiting hlater hanswer
    · exact hserves.tookTurn_of_ok h hstate hwaiting hlater hanswer hstatus

end Graph

end TraceFlow
