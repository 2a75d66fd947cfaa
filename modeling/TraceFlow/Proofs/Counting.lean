import TraceFlow.Proofs.Finality

/-!
# What the number of steps counts

A step that feeds a sink and does not fail is counted. A step of a graph that has ended succeeds as
well, but it does nothing and is not counted. So the number of steps falls behind that of the steps
which succeeded by those that came after the end.
-/

namespace TraceFlow

variable {W α : Type}

namespace Graph

/-! ## A step -/

/-- By how much an answer raises the number of steps, unless the graph has ended before. -/
def counted : Except GraphError Status → Nat
  | .ok _ => 1
  | .error _ => 0

theorem steps_conclude (reply : Reply W α Status) :
    (conclude reply).graph.steps = reply.graph.steps + counted (conclude reply).answer := by
  obtain ⟨answer, g, session⟩ := reply
  cases answer <;> rfl

theorem steps_feed (g : Graph W α) (session : Session W α) :
    (g.feed session).graph.steps = g.steps :=
  feedWithin_keeps steps (fun _ _ _ => rfl) (fun _ _ => rfl) (fun _ => rfl) g _ session

theorem steps_run (g : Graph W α) (session : Session W α) :
    (g.run session).graph.steps =
      g.steps + if g.state = .ended then 0 else counted (g.run session).answer := by
  rcases hstate : g.state with _ | _ | _ | _
  · have hconfigure := configure_keeps steps (fun _ _ _ => rfl) (fun _ _ => rfl) g session
    unfold run
    simp only [hstate]
    split
    · next h => rw [h] at hconfigure; exact hconfigure
    · next ready opened h =>
      rw [h] at hconfigure
      rw [if_neg nofun, steps_conclude, steps_feed, ← hconfigure]
  · unfold run
    simp only [hstate]
    rw [if_neg nofun, steps_conclude, steps_feed]
  · rw [run_of_ended hstate]
    rfl
  · rw [run_of_faulted hstate]
    rfl

theorem steps_of_accepted {g g' : Graph W α} (h : g' = g ∨ ∃ c, g.Fresh c ∧ g' = g.accept c) :
    g'.steps = g.steps := by
  rcases h with rfl | ⟨c, -, rfl⟩ <;> rfl

theorem steps_on (g : Graph W α) {command : Command W α} (hcommand : command ≠ .run)
    (session : Session W α) : (command.on g session).graph.steps = g.steps := by
  cases command with
  | addSource cls name params level =>
    exact steps_of_accepted (addSource_graph g cls name params level session)
  | addFilter cls name params level =>
    exact steps_of_accepted (addFilter_graph g cls name params level session)
  | addSink sink name => exact steps_of_accepted (addSink_graph g sink name session)
  | connect upstream downstream =>
    exact connect_keeps steps (fun _ _ _ => rfl) (fun _ _ _ => rfl) g upstream downstream session
  | run => exact absurd rfl hcommand

end Graph

namespace Past

/-! ## The answers of a life -/

def answered (past : Past W α) (deed : Deed W α) : List (Except GraphError Status) :=
  match deed.command with
  | .run => [(past.graph.run ⟨deed.scene, past.journal⟩).answer]
  | _ => []

/-- The deeds that a past goes on with, each with the past that it meets. -/
def momentsFrom (past : Past W α) : List (Deed W α) → List (Past W α × Deed W α)
  | [] => []
  | deed :: rest => (past, deed) :: (past.step deed).momentsFrom rest

/-- The deeds of a life, each with the past that it met. -/
def moments (life : List (Deed W α)) : List (Past W α × Deed W α) := momentsFrom {} life

def answers (life : List (Deed W α)) : List (Except GraphError Status) :=
  (moments life).flatMap fun (past, deed) => past.answered deed

def succeeded (life : List (Deed W α)) : Nat := (answers life).countP (·.isOk)

def ends (life : List (Deed W α)) : Nat :=
  (answers life).countP (Graph.stateSince · = .ended)

theorem momentsFrom_append (past : Past W α) (life more : List (Deed W α)) :
    past.momentsFrom (life ++ more) =
      past.momentsFrom life ++ (life.foldl step past).momentsFrom more := by
  induction life generalizing past with
  | nil => rfl
  | cons deed rest ih =>
    rw [List.cons_append, momentsFrom, ih]
    rfl

theorem moments_concat (life : List (Deed W α)) (deed : Deed W α) :
    moments (life ++ [deed]) = moments life ++ [(of life, deed)] :=
  momentsFrom_append ..

theorem answers_concat (life : List (Deed W α)) (deed : Deed W α) :
    answers (life ++ [deed]) = answers life ++ (of life).answered deed := by
  unfold answers
  rw [moments_concat, List.flatMap_append, List.flatMap_singleton]

theorem answered_of_ne_run {command : Command W α} (h : command ≠ .run) (past : Past W α)
    (scene : Scene W α) : past.answered ⟨command, scene⟩ = [] := by
  cases command <;> first | rfl | exact absurd rfl h

/-- The number of steps, by the answers that were given: it says nothing of those after the end. -/
structure Counted (life : List (Deed W α)) : Prop where
  ended : 0 < ends life ↔ (of life).graph.state = .ended
  steps : (of life).graph.steps + (ends life - 1) = succeeded life

theorem Counted.asked {life : List (Deed W α)} (h : Counted life) {command : Command W α}
    (hcommand : command ≠ .run) (scene : Scene W α) : Counted (life ++ [⟨command, scene⟩]) := by
  have hanswers : answers (life ++ [⟨command, scene⟩]) = answers life := by
    rw [answers_concat, answered_of_ne_run hcommand, List.append_nil]
  have hends : ends (life ++ [⟨command, scene⟩]) = ends life := by
    unfold ends
    rw [hanswers]
  have hsucceeded : succeeded (life ++ [⟨command, scene⟩]) = succeeded life := by
    unfold succeeded
    rw [hanswers]
  have hstate : (of (life ++ [⟨command, scene⟩])).graph.state = (of life).graph.state := by
    rw [of_concat]
    exact (Graph.course_on (of life).graph hcommand _).2
  have hsteps : (of (life ++ [⟨command, scene⟩])).graph.steps = (of life).graph.steps := by
    rw [of_concat]
    exact Graph.steps_on (of life).graph hcommand _
  exact ⟨by rw [hends, hstate, h.ended], by rw [hends, hsucceeded, hsteps, h.steps]⟩

/-- A step is counted once, or it comes after the end and is another one that tells of it. -/
theorem Counted.stepped {life : List (Deed W α)} (h : Counted life) (scene : Scene W α) :
    Counted (life ++ [⟨.run, scene⟩]) := by
  generalize hreply : (of life).graph.run ⟨scene, (of life).journal⟩ = reply
  have hanswers : answers (life ++ [⟨.run, scene⟩]) = answers life ++ [reply.answer] := by
    rw [answers_concat, ← hreply]
    rfl
  have hends : ends (life ++ [⟨.run, scene⟩]) =
      ends life + if Graph.stateSince reply.answer = .ended then 1 else 0 := by
    unfold ends
    rw [hanswers, List.countP_append, List.countP_singleton]
    simp
  have hsucceeded : succeeded (life ++ [⟨.run, scene⟩]) =
      succeeded life + Graph.counted reply.answer := by
    unfold succeeded
    rw [hanswers, List.countP_append, List.countP_singleton]
    cases reply.answer <;> rfl
  have hstate := Graph.state_run (of life).graph ⟨scene, (of life).journal⟩
  have hsteps := Graph.steps_run (of life).graph ⟨scene, (of life).journal⟩
  rw [← graph_of_concat_run, hreply] at hstate hsteps
  by_cases hended : (of life).graph.state = .ended
  · have hanswer : reply.answer = .ok .ended := by rw [← hreply, Graph.run_of_ended hended]
    have hpos := h.ended.mpr hended
    have hbefore := h.steps
    rw [hanswer] at hends hsucceeded hstate hsteps
    rw [if_pos hended] at hsteps
    refine ⟨iff_of_true ?_ hstate, ?_⟩
    · rw [hends]
      exact Nat.succ_pos _
    · rw [hends, hsucceeded, hsteps]
      simp only [Graph.stateSince, Graph.counted, if_true]
      omega
  · have hnone : ends life = 0 := Nat.eq_zero_of_not_pos fun hpos => hended (h.ended.mp hpos)
    have hbefore := h.steps
    rw [if_neg hended] at hsteps
    rw [hnone] at hends hbefore
    refine ⟨?_, ?_⟩
    · rw [hends, hstate]
      split <;> simp_all
    · rw [hends, hsucceeded, hsteps]
      split <;> omega

theorem counted_of (life : List (Deed W α)) : Counted life := by
  induction life using List.reverseRecOn with
  | nil => exact ⟨by simp [ends, answers, moments, momentsFrom, of, Graph.empty], rfl⟩
  | append_singleton life deed ih =>
    obtain ⟨command, scene⟩ := deed
    by_cases hcommand : command = .run
    · subst hcommand
      exact ih.stepped scene
    · exact ih.asked hcommand scene

/--
The number of steps falls behind that of the steps that succeeded by those that were taken after the
graph had ended, and so it is right as long as there are none.
-/
theorem steps_counted (life : List (Deed W α)) :
    (of life).graph.steps + (ends life - 1) = succeeded life ∧
      ((of life).graph.steps = succeeded life ↔ ends life ≤ 1) := by
  have hsteps := (counted_of life).steps
  exact ⟨hsteps, by omega⟩

/-- The only sink ends in the first step, and one more step is taken. -/
def overrun : List (Deed Nat Unit) :=
  [⟨.addSource Graph.tap "tap" .empty .info, .plain 0⟩, ⟨.addSink sip "out", .plain 0⟩,
    ⟨.connect Graph.tapOut ⟨⟨1⟩, .input, 0⟩, .plain 0⟩, ⟨.run, .plain 0⟩, ⟨.run, .plain 0⟩]

theorem steps_overrun :
    (of overrun).graph.steps = 1 ∧ succeeded overrun = 2 := by
  decide +kernel

end Past

end TraceFlow
