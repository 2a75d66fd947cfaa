import TraceFlow.Proofs.RoundRobin

/-!
# What is final

A graph that has ended stays ended, and one in which a step failed stays faulted: nothing is called
any more and nothing changes. From its first step on a graph cannot be added to.
-/

namespace TraceFlow

variable {W α : Type}

namespace Graph

/-! ## What a step answers, and the state that it leaves -/

/-- The state of a graph after a step that gave this answer. -/
def stateSince : Except GraphError Status → State
  | .error _ => .faulted
  | .ok .ended => .ended
  | .ok _ => .running

theorem stateSince_ok {status : Status} (h : status ≠ .ended) :
    stateSince (.ok status) = .running := by
  cases status with
  | ended => exact absurd rfl h
  | ok => rfl
  | again => rfl

/-- Among the answers of a step that feeds a sink, one alone ends the graph. -/
structure Settled (reply : Reply W α Status) : Prop where
  ended : reply.answer = .ok .ended → reply.graph.state = .ended
  running : reply.answer ≠ .ok .ended → reply.graph.state = .running

theorem Settled.of_running {reply : Reply W α Status} (hanswer : reply.answer ≠ .ok .ended)
    (h : reply.graph.state = .running) : Settled reply :=
  ⟨fun hended => absurd hended hanswer, fun _ => h⟩

theorem settled_settle {g : Graph W α} (h : g.state = .running) {otherwise : Status}
    (hother : otherwise ≠ .ended) (session : Session W α) :
    Settled (g.settle otherwise session) := by
  unfold settle
  split
  · exact ⟨fun _ => rfl, fun hno => absurd rfl hno⟩
  · exact .of_running (fun hended => hother (Except.ok.inj hended)) h

theorem settled_consume {g : Graph W α} (h : g.state = .running) (id : ComponentId) (name : String)
    (sink : Sink W α) (upstream : Iterator W) (session : Session W α) :
    Settled (g.consume id name sink upstream session) := by
  unfold consume
  split
  · exact .of_running (by simp) h
  · exact .of_running (by simp) h
  · exact .of_running (by simp) h
  · exact settled_settle (by exact h) (by simp) _

theorem settled_feedWithin {g : Graph W α} (h : g.state = .running) (turns : Nat)
    (session : Session W α) : Settled (g.feedWithin turns session) := by
  induction turns generalizing g with
  | zero => exact settled_settle h (by simp) session
  | succ turns ih =>
    unfold feedWithin
    split
    · exact .of_running (by simp) h
    · split
      · exact .of_running (by simp) h
      · split
        · exact settled_consume (by exact h) ..
        · exact .of_running (by simp) h
        · exact ih (by exact h)

theorem state_conclude {reply : Reply W α Status} (h : Settled reply) :
    (conclude reply).graph.state = stateSince (conclude reply).answer := by
  obtain ⟨answer, g, session⟩ := reply
  rcases answer with e | status
  · rfl
  · by_cases hstatus : status = .ended
    · subst hstatus
      exact h.ended rfl
    · exact (h.running fun hended => hstatus (Except.ok.inj hended)).trans
        (stateSince_ok hstatus).symm

theorem state_configure {g ready : Graph W α} {session opened : Session W α}
    (h : g.configure session = ⟨.ok (), ready, opened⟩) : ready.state = .running := by
  unfold configure at h
  split at h
  · cases h
  · split at h
    · cases h
    · split at h
      · cases h
      · cases h
        rfl

theorem state_run (g : Graph W α) (session : Session W α) :
    (g.run session).graph.state = stateSince (g.run session).answer := by
  unfold run
  split
  · next hstate => exact hstate
  · next hstate => exact hstate
  · next hstate => exact state_conclude (settled_feedWithin hstate _ session)
  · split
    · rfl
    · next hready => exact state_conclude (settled_feedWithin (state_configure hready) _ _)

theorem stateSince_eq_ended_iff {answer : Except GraphError Status} :
    stateSince answer = .ended ↔ answer = .ok .ended := by
  rcases answer with e | _ | _ | _ <;> simp [stateSince]

theorem stateSince_eq_faulted_iff {answer : Except GraphError Status} :
    stateSince answer = .faulted ↔ ∃ e, answer = .error e := by
  rcases answer with e | _ | _ | _ <;> simp [stateSince]

theorem stateSince_ne_configuring (answer : Except GraphError Status) :
    stateSince answer ≠ .configuring := by
  rcases answer with e | _ | _ | _ <;> simp [stateSince]

theorem run_of_ended {g : Graph W α} (h : g.state = .ended) (session : Session W α) :
    g.run session = ⟨.ok .ended, g, session⟩ := by
  unfold run
  simp only [h]

theorem run_of_faulted {g : Graph W α} (h : g.state = .faulted) (session : Session W α) :
    g.run session = ⟨.error .faulted, g, session⟩ := by
  unfold run
  simp only [h]

theorem Ready.not_ended {g ready : Graph W α} {session opened : Session W α}
    (h : g.Ready session ready opened) : g.state ≠ .ended := by
  cases h with
  | configured hstate => simp [hstate]
  | running hstate => simp [hstate]

/-! ## Nobody ends while a graph is configured -/

theorem endedIn_setUpSink (g : Graph W α) (id : ComponentId) (session : Session W α) :
    endedIn (g.setUpSink id session).2.journal.hooks = endedIn session.journal.hooks := by
  unfold setUpSink
  split
  · next sink _ _ =>
    have hended : endedIn (session.ask sink.setUp (.setUp id)).2.journal.hooks =
        endedIn session.journal.hooks := by
      rw [Session.hooks_ask, endedIn_append]
      exact List.append_nil _
    split
    · next h => rw [h] at hended; exact hended
    · next h => rw [h] at hended; exact hended
  · rfl

theorem endedIn_configure (g : Graph W α) (session : Session W α) :
    endedIn (g.configure session).session.journal.hooks = endedIn session.journal.hooks := by
  have hopen : endedIn (g.openSinks g.sinks session).session.journal.hooks =
      endedIn session.journal.hooks := by
    rw [← endedIn_sinkCalls, ← endedIn_sinkCalls session.journal.hooks]
    exact congrArg endedIn (calls_openSinks g g.sinks session)
  unfold configure
  split
  · rfl
  · split
    · next h => rw [h] at hopen; exact hopen
    · next opened between h =>
      rw [h] at hopen
      have hsetup := makeEach_keeps (fun session => endedIn session.journal.hooks)
        opened.endedIn_setUpSink opened.sinks between
      split
      · next hmake => rw [hmake] at hsetup; exact hsetup.trans hopen
      · next hmake =>
        rw [hmake] at hsetup
        dsimp only
        rw [Session.hooks_log]
        exact hsetup.trans hopen

end Graph

namespace Past

/-! ## What the steps of a life have answered -/

def Stepped (life : List (Deed W α)) (answer : Except GraphError Status) : Prop :=
  ∃ before scene after, life = before ++ ⟨.run, scene⟩ :: after ∧
    ((of before).graph.run ⟨scene, (of before).journal⟩).answer = answer

theorem stepped_concat {life : List (Deed W α)} {deed : Deed W α}
    {answer : Except GraphError Status} :
    Stepped (life ++ [deed]) answer ↔ Stepped life answer ∨
      deed.command = .run ∧
        ((of life).graph.run ⟨deed.scene, (of life).journal⟩).answer = answer := by
  constructor
  · rintro ⟨before, scene, after, hlife, hanswer⟩
    rcases List.eq_nil_or_concat' after with rfl | ⟨after, last, rfl⟩
    · obtain ⟨rfl, hlast⟩ := List.append_inj' hlife rfl
      cases hlast
      exact .inr ⟨rfl, hanswer⟩
    · rw [← List.cons_append, ← List.append_assoc] at hlife
      obtain ⟨rfl, -⟩ := List.append_inj' hlife rfl
      exact .inl ⟨before, scene, after, rfl, hanswer⟩
  · rintro (⟨before, scene, after, rfl, hanswer⟩ | ⟨hcommand, hanswer⟩)
    · exact ⟨before, scene, after ++ [deed], by simp, hanswer⟩
    · obtain ⟨command, scene⟩ := deed
      cases hcommand
      exact ⟨life, scene, [], rfl, hanswer⟩

/-- What a life has come to, by the answers of its steps. -/
structure Stated (life : List (Deed W α)) : Prop where
  started : (∃ answer, Stepped life answer) ↔ (of life).graph.state ≠ .configuring
  ended : Stepped life (.ok .ended) ↔ (of life).graph.state = .ended
  faulted : (∃ e, Stepped life (.error e)) ↔ (of life).graph.state = .faulted

theorem graph_of_concat_run (life : List (Deed W α)) (scene : Scene W α) :
    (of (life ++ [⟨.run, scene⟩])).graph =
      ((of life).graph.run ⟨scene, (of life).journal⟩).graph := by
  rw [of_concat, step_of_run rfl]

theorem Stated.asked {life : List (Deed W α)} (h : Stated life) {command : Command W α}
    (hcommand : command ≠ .run) (scene : Scene W α) : Stated (life ++ [⟨command, scene⟩]) := by
  have hsame (answer : Except GraphError Status) :
      Stepped (life ++ [⟨command, scene⟩]) answer ↔ Stepped life answer := by
    rw [stepped_concat]
    simp [hcommand]
  have hstate : (of (life ++ [⟨command, scene⟩])).graph.state = (of life).graph.state := by
    rw [of_concat]
    exact (Graph.course_on (of life).graph hcommand ⟨scene, (of life).journal⟩).2
  constructor
  · simp only [hsame, hstate, h.started]
  · simp only [hsame, hstate, h.ended]
  · simp only [hsame, hstate, h.faulted]

/-- A step tells by its answer what the life comes to, unless an earlier one has settled it. -/
theorem Stated.stepped {life : List (Deed W α)} (h : Stated life) (scene : Scene W α) :
    Stated (life ++ [⟨.run, scene⟩]) := by
  have hsame (answer : Except GraphError Status) :
      Stepped (life ++ [⟨.run, scene⟩]) answer ↔ Stepped life answer ∨
        ((of life).graph.run ⟨scene, (of life).journal⟩).answer = answer := by
    rw [stepped_concat]
    simp
  have hstate : (of (life ++ [⟨.run, scene⟩])).graph.state =
      Graph.stateSince ((of life).graph.run ⟨scene, (of life).journal⟩).answer := by
    rw [graph_of_concat_run, Graph.state_run]
  constructor
  · rw [hstate]
    exact ⟨fun _ => Graph.stateSince_ne_configuring _, fun _ => ⟨_, (hsame _).mpr (.inr rfl)⟩⟩
  · rw [hsame, hstate, Graph.stateSince_eq_ended_iff, or_iff_right_iff_imp, h.ended]
    intro hended
    rw [Graph.run_of_ended hended]
  · rw [hstate, Graph.stateSince_eq_faulted_iff]
    constructor
    · rintro ⟨e, he⟩
      rcases (hsame _).mp he with hbefore | hnow
      · rw [Graph.run_of_faulted (h.faulted.mp ⟨e, hbefore⟩)]
        exact ⟨_, rfl⟩
      · exact ⟨e, hnow⟩
    · rintro ⟨e, he⟩
      exact ⟨e, (hsame _).mpr (.inr he)⟩

theorem stated_of (life : List (Deed W α)) : Stated life := by
  induction life using List.reverseRecOn with
  | nil =>
    have hnone (answer : Except GraphError Status) :
        ¬ Stepped ([] : List (Deed W α)) answer := by
      rintro ⟨before, scene, after, hlife, -⟩
      simp at hlife
    constructor
    · simp [hnone, of, Graph.empty]
    · simp [hnone, of, Graph.empty]
    · simp [hnone, of, Graph.empty]
  | append_singleton life deed ih =>
    obtain ⟨command, scene⟩ := deed
    by_cases hcommand : command = .run
    · subst hcommand
      exact ih.stepped scene
    · exact ih.asked hcommand scene

/-! ## The end -/

/-- By a step one sink ends that had not ended before, and no other is left. -/
def EndsLast (past : Past W α) (scene : Scene W α) : Prop :=
  ∃ id ∈ past.graph.sinks, id ∉ endedIn past.journal.hooks ∧
    (∀ other ∈ past.graph.sinks, other ≠ id → other ∈ endedIn past.journal.hooks) ∧
    endedIn (past.step ⟨.run, scene⟩).journal.hooks = endedIn past.journal.hooks ++ [id]

theorem not_endsLast_of_endedIn_eq {past : Past W α} {scene : Scene W α}
    (h : endedIn (past.step ⟨.run, scene⟩).journal.hooks = endedIn past.journal.hooks) :
    ¬ past.EndsLast scene := by
  rintro ⟨id, -, -, -, hended⟩
  rw [h, List.self_eq_append_right] at hended
  cases hended

theorem verdict_eq_ended_iff {name : String} {allEnded : Bool}
    {answer : Except Fault Status} :
    Graph.verdict name allEnded answer = .ok .ended ↔ answer = .ok .ended ∧ allEnded = true := by
  rcases answer with fault | _ | _ | _
  · simp [Graph.verdict]
  · simp [Graph.verdict]
  · simp [Graph.verdict]
  · cases allEnded <;> simp [Graph.verdict]

theorem endedIn_consume_eq_singleton {id last : ComponentId} {upstream : Iterator W}
    {answer : Except Fault Status}
    (h : endedIn [.consume id upstream answer] = [last]) :
    answer = .ok .ended ∧ id = last := by
  rcases answer with fault | _ | _ | _
  · cases h
  · cases h
  · cases h
  · exact ⟨rfl, List.singleton_inj.mp h⟩

/-- A step that feeds a sink answers that all has ended exactly when that sink was the last. -/
theorem Orderly.ended_iff {past : Past W α} (h : past.Orderly) (hreached : past.graph.Reached)
    {scene : Scene W α} {ready : Graph W α} {opened : Session W α}
    (hready : past.graph.Ready ⟨scene, past.journal⟩ ready opened) :
    (past.graph.run ⟨scene, past.journal⟩).answer = .ok .ended ↔ past.EndsLast scene := by
  obtain ⟨hsinks, -⟩ := h.ready hreached hready
  obtain ⟨-, hopened⟩ := h.ready_ended hreached hready
  obtain ⟨places, id, c, sink, upstream, answer, hturn, -, hended⟩ := h.turned hreached hready
  have hid : id ∈ past.graph.sinks := hsinks ▸ List.mem_of_getElem? hturn.serves.turn.place
  have hlive : id ∉ endedIn past.journal.hooks := by
    rw [← (hended id (hsinks ▸ hid)).1, hturn.serves.turn.live]
    simp
  have hafter : endedIn (past.step ⟨.run, scene⟩).journal.hooks =
      endedIn past.journal.hooks ++ endedIn [.consume id upstream answer] := by
    rw [step_of_run rfl, hturn.hooks, endedIn_append, hopened]
  have hall : (past.graph.run ⟨scene, past.journal⟩).graph.allEnded = true ↔
      ∀ other ∈ past.graph.sinks, other ∈ endedIn (past.step ⟨.run, scene⟩).journal.hooks := by
    rw [Graph.allEnded, List.all_eq_true,
      Graph.sinks_of_bare_eq (Graph.bare_run past.graph ⟨scene, past.journal⟩)]
    refine forall₂_congr fun other hother => ?_
    rw [← (hended other (hsinks ▸ hother)).2, step_of_run rfl]
  rw [hturn.replied, verdict_eq_ended_iff, hall, hafter]
  constructor
  · rintro ⟨rfl, hnone⟩
    refine ⟨id, hid, hlive, fun other hother hne => ?_, hafter⟩
    rcases List.mem_append.mp (hnone other hother) with hbefore | hnow
    · exact hbefore
    · exact absurd (List.mem_singleton.mp hnow) hne
  · rintro ⟨last, -, -, hothers, hlast⟩
    rw [hafter, List.append_cancel_left_eq] at hlast
    obtain ⟨rfl, rfl⟩ := endedIn_consume_eq_singleton hlast
    refine ⟨rfl, fun other hother => ?_⟩
    by_cases hne : other = id
    · exact List.mem_append_right _ (List.mem_singleton.mpr hne)
    · exact List.mem_append_left _ (hothers other hother hne)

theorem not_endsLast_of_no_turn {past : Past W α} {scene : Scene W α}
    (hno : ∀ ready opened, ¬ past.graph.Ready ⟨scene, past.journal⟩ ready opened) :
    ¬ past.EndsLast scene := by
  apply not_endsLast_of_endedIn_eq
  rcases past.graph.run_cases ⟨scene, past.journal⟩ with
    ⟨-, hrun⟩ | ⟨-, hrun⟩ | ⟨e, failed, between, -, hconfigure, hrun⟩ | ⟨ready, opened, hready⟩
  · rw [step_of_run hrun]
  · rw [step_of_run hrun]
  · have hended := past.graph.endedIn_configure ⟨scene, past.journal⟩
    rw [hconfigure] at hended
    rw [step_of_run hrun]
    dsimp only
    rw [Session.hooks_log]
    exact hended
  · exact absurd hready (hno ready opened)

theorem ended_first_iff (life : List (Deed W α)) (scene : Scene W α) :
    ((of life).graph.run ⟨scene, (of life).journal⟩).answer = .ok .ended ∧
      (of life).graph.state ≠ .ended ↔ (of life).EndsLast scene := by
  by_cases hready : ∃ ready opened,
      (of life).graph.Ready ⟨scene, (of life).journal⟩ ready opened
  · obtain ⟨ready, opened, hready⟩ := hready
    rw [and_iff_left (Graph.Ready.not_ended hready)]
    exact (orderly_of life).ended_iff (reached_of life) hready
  · -- Without a turn no sink ends, and a graph that has not ended does not answer that it has.
    simp only [not_exists] at hready
    refine iff_of_false ?_ (not_endsLast_of_no_turn hready)
    rintro ⟨hanswer, hstate⟩
    rcases (of life).graph.run_cases ⟨scene, (of life).journal⟩ with
      ⟨hended, -⟩ | ⟨-, hrun⟩ | ⟨e, failed, between, -, -, hrun⟩ | ⟨ready, opened, hsome⟩
    · exact hstate hended
    · rw [hrun] at hanswer
      cases hanswer
    · rw [hrun] at hanswer
      cases hanswer
    · exact hready ready opened hsome

/--
A step says for the first time that all has ended when the last sink that had not ended does so, and
then only. Afterwards every step says so, and after a step that failed every one fails: none of them
calls anything or changes anything. Once a step was taken, whatever came of it, every request is
refused and leaves all as it was.
-/
theorem final_states (life : List (Deed W α)) :
    (∀ scene, ((of life).graph.run ⟨scene, (of life).journal⟩).answer = .ok .ended ∧
        ¬ Stepped life (.ok .ended) ↔ (of life).EndsLast scene) ∧
    (Stepped life (.ok .ended) → ∀ scene, (of life).graph.run ⟨scene, (of life).journal⟩ =
      ⟨.ok .ended, (of life).graph, ⟨scene, (of life).journal⟩⟩) ∧
    ((∃ e, Stepped life (.error e)) → ∀ scene, (of life).graph.run ⟨scene, (of life).journal⟩ =
      ⟨.error .faulted, (of life).graph, ⟨scene, (of life).journal⟩⟩) ∧
    ((∃ answer, Stepped life answer) → ∀ command scene, command ≠ .run →
      (of life).reply ⟨command, scene⟩ =
        ⟨.error .alreadyRunning, (of life).graph, ⟨scene, (of life).journal⟩⟩) := by
  have hstated := stated_of life
  refine ⟨fun scene => ?_, fun hended scene => ?_, fun hfailed scene => ?_,
    fun hstarted command scene hcommand => ?_⟩
  · rw [hstated.ended]
    exact ended_first_iff life scene
  · exact Graph.run_of_ended (hstated.ended.mp hended) _
  · exact Graph.run_of_faulted (hstated.faulted.mp hfailed) _
  · exact Graph.on_of_started (hstated.started.mp hstarted) hcommand _

def drained : List (Deed Nat Unit) := sipped ++ [⟨.run, .plain 0⟩]

def hasty : List (Deed Nat Unit) := [⟨.run, .plain 0⟩]

theorem final_states_drained :
    (of sipped).EndsLast (.plain 0) ∧ ¬ Stepped sipped (.ok .ended) ∧
      (∀ scene, (of drained).graph.run ⟨scene, (of drained).journal⟩ =
        ⟨.ok .ended, (of drained).graph, ⟨scene, (of drained).journal⟩⟩) ∧
      (∀ scene, (of hasty).graph.run ⟨scene, (of hasty).journal⟩ =
        ⟨.error .faulted, (of hasty).graph, ⟨scene, (of hasty).journal⟩⟩) ∧
      ∀ scene, (of drained).reply ⟨.addSink sip "late", scene⟩ =
        ⟨.error .alreadyRunning, (of drained).graph, ⟨scene, (of drained).journal⟩⟩ := by
  have hlast : (of sipped).EndsLast (.plain 0) :=
    ⟨⟨2⟩, by decide +kernel, by decide +kernel, by decide +kernel, by decide +kernel⟩
  obtain ⟨hanswer, hnot⟩ := ((final_states sipped).1 (.plain 0)).mpr hlast
  have hended : Stepped drained (.ok .ended) := ⟨sipped, .plain 0, [], rfl, hanswer⟩
  have hfailed : ∃ e, Stepped hasty (.error e) := ⟨_, [], .plain 0, [], rfl, rfl⟩
  obtain ⟨-, hstays, -, hrefuses⟩ := final_states drained
  exact ⟨hlast, hnot, hstays hended, (final_states hasty).2.2.1 hfailed,
    fun scene => hrefuses ⟨_, hended⟩ _ scene nofun⟩

end Past

end TraceFlow
