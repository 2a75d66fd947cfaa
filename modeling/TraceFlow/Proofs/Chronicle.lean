import TraceFlow.Proofs.Telling

/-!
# The log tells the history of a graph

What a graph logs in its life follows a grammar: it is put together, then it runs or fails to, then
its steps are told one after the other until it ends or fails. So the state of a graph, the number
of its steps and the sinks that have ended can be read from its log.
-/

namespace TraceFlow

variable {W α : Type}

/-! ## The grammar of a log -/

/-- The log of a graph, by its state, the number of its steps, the names of the sinks that have
ended, in the order in which they did, and the line that tells that it runs, if there is one. -/
inductive Log : State → Nat → List String → List LogLine → List LogLine → Prop where
  | new : Log .configuring 0 [] [] []
  | assembled {lines : List LogLine} {line : LogLine} (hline : line.Assembles) :
      Log .configuring 0 [] [] lines → Log .configuring 0 [] [] (lines ++ [line])
  | refused {lines : List LogLine} (e : GraphError) :
      Log .configuring 0 [] [] lines → Log .faulted 0 [] [] (lines ++ [.configurationFailed e])
  | opened {lines : List LogLine} (components connections sinks : Nat) :
      Log .configuring 0 [] [] lines →
      Log .running 0 [] [.running components connections sinks]
        (lines ++ [.running components connections sinks])
  | stepped {steps : Nat} {ended : List String} {opening lines : List LogLine}
      (status : Status) :
      Log .running steps ended opening lines →
      Log .running (steps + 1) ended opening (lines ++ [.step (steps + 1) status])
  | sinkEnded {steps : Nat} {ended : List String} {opening lines : List LogLine} (name : String) :
      Log .running steps ended opening lines →
      Log .running (steps + 1) (ended ++ [name]) opening
        (lines ++ [.sinkEnded name, .step (steps + 1) .ok])
  | allEnded {steps : Nat} {ended : List String} {opening lines : List LogLine} (name : String) :
      Log .running steps ended opening lines →
      Log .ended (steps + 1) (ended ++ [name]) opening
        (lines ++ [.sinkEnded name, .allEnded (steps + 1), .step (steps + 1) .ended])
  | failed {steps : Nat} {ended : List String} {opening lines : List LogLine} (e : GraphError) :
      Log .running steps ended opening lines →
      Log .faulted steps ended opening (lines ++ [.stepFailed e])

namespace Log

variable {state : State} {steps : Nat} {ended : List String} {opening lines : List LogLine}

theorem numbers (h : Log state steps ended opening lines) :
    lines.filterMap LogLine.number? = List.range' 1 steps := by
  induction h with
  | new => rfl
  | assembled hline _ ih =>
    rw [List.filterMap_append, ih]
    cases hline <;> rfl
  | refused | opened | failed =>
    rename_i ih
    rw [List.filterMap_append, ih]
    exact List.append_nil _
  | stepped | sinkEnded | allEnded =>
    rename_i ih
    rw [List.filterMap_append, ih, List.range'_1_concat, Nat.add_comm 1]
    rfl

theorem errors (h : Log state steps ended opening lines) :
    lines.countP (·.severity = .error) = if state = .faulted then 1 else 0 := by
  induction h with
  | new => rfl
  | assembled hline _ ih =>
    rw [List.countP_append, ih]
    cases hline <;> rfl
  | refused | opened | stepped | sinkEnded | allEnded | failed =>
    rename_i ih
    rw [List.countP_append, ih]
    rfl

theorem info (h : Log state steps ended opening lines) :
    lines.filter (·.severity = .info) =
      opening ++ if state = .ended then [.allEnded steps] else [] := by
  induction h with
  | new => rfl
  | assembled hline _ ih =>
    rw [List.filter_append, ih]
    cases hline <;> rfl
  | refused | opened | stepped | sinkEnded | allEnded | failed =>
    rename_i ih
    rw [List.filter_append, ih]
    simp [LogLine.severity]

theorem ended_eq (h : Log state steps ended opening lines) :
    lines.filterMap LogLine.ended? = ended := by
  induction h with
  | new => rfl
  | assembled hline _ ih =>
    rw [List.filterMap_append, ih]
    cases hline <;> rfl
  | refused | opened | stepped | failed =>
    rename_i ih
    rw [List.filterMap_append, ih]
    exact List.append_nil _
  | sinkEnded | allEnded =>
    rename_i ih
    rw [List.filterMap_append, ih]
    rfl

theorem open_ended (h : Log state steps ended opening lines) :
    ∀ line ∈ lines, line.severity ≠ .warn ∧ line.tidied? = none := by
  induction h with
  | new => exact fun _ hline => absurd hline List.not_mem_nil
  | assembled hline _ ih =>
    refine List.forall_mem_append.mpr ⟨ih, ?_⟩
    cases hline <;> simp [LogLine.severity, LogLine.tidied?]
  | refused | opened | stepped | sinkEnded | allEnded | failed =>
    rename_i ih
    exact List.forall_mem_append.mpr ⟨ih, by simp [LogLine.severity, LogLine.tidied?]⟩

theorem silent (h : Log state 0 ended opening lines) : ∀ line ∈ lines, line.number? = none :=
  List.filterMap_eq_nil_iff.mp h.numbers

/-- Before the line that tells that the graph runs no step is told, and without it none is. -/
theorem parted (h : Log state steps ended opening lines) :
    ∃ first body, lines = first ++ opening ++ body ∧
      (∀ line ∈ first ++ opening, line.number? = none) ∧
      (state = .running → opening ≠ []) ∧ (opening = [] → body = []) := by
  have hlonger {old first opening body : List LogLine} (new : List LogLine)
      (hold : old = first ++ opening ++ body) : old ++ new = first ++ opening ++ (body ++ new) := by
    rw [hold, List.append_assoc _ body]
  induction h with
  | new => exact ⟨[], [], rfl, nofun, nofun, fun _ => rfl⟩
  | assembled hline h =>
    refine ⟨_, [], by rw [List.append_nil, List.append_nil], ?_, nofun, fun _ => rfl⟩
    rw [List.append_nil]
    exact (assembled hline h).silent
  | refused e h =>
    refine ⟨_, [], by rw [List.append_nil, List.append_nil], ?_, nofun, fun _ => rfl⟩
    rw [List.append_nil]
    exact (refused e h).silent
  | opened components connections sinks h =>
    exact ⟨_, [], (List.append_nil _).symm, (opened components connections sinks h).silent, by simp,
      fun _ => rfl⟩
  | stepped | sinkEnded =>
    rename_i ih
    obtain ⟨first, body, hlines, hnone, hrunning, -⟩ := ih
    exact ⟨first, _, hlonger _ hlines, hnone, hrunning, fun hempty => absurd hempty (hrunning rfl)⟩
  | allEnded | failed =>
    rename_i ih
    obtain ⟨first, body, hlines, hnone, hrunning, -⟩ := ih
    exact ⟨first, _, hlonger _ hlines, hnone, nofun, fun hempty => absurd hempty (hrunning rfl)⟩

theorem opening_of_step (h : Log state steps ended opening lines) {before after : List LogLine}
    {number : Nat} {status : Status} (heq : lines = before ++ .step number status :: after) :
    opening ≠ [] ∧ ∀ line ∈ opening, line ∈ before := by
  obtain ⟨first, body, hlines, hnone, -, hbody⟩ := h.parted
  have hnot : .step number status ∉ first ++ opening := fun hmem => nomatch hnone _ hmem
  obtain ⟨between, hbefore, hrest⟩ := split_right (hlines.symm.trans heq) hnot
  constructor
  · intro hempty
    rw [hbody hempty] at hrest
    simp at hrest
  · intro line hline
    rw [hbefore]
    exact List.mem_append_left _ (List.mem_append_right _ hline)

theorem of_configuring (h : Log state steps ended opening lines) (hstate : state = .configuring) :
    steps = 0 ∧ Log .configuring 0 [] [] lines := by
  cases h with
  | new => exact ⟨rfl, .new⟩
  | assembled hline h => exact ⟨rfl, .assembled hline h⟩
  | refused | opened | stepped | sinkEnded | allEnded | failed => cases hstate

theorem turn (h : Log .running steps ended opening lines) (nameOf : ComponentId → String)
    (id : ComponentId) (upstream : Iterator W) (last : Bool) (answer : Except Fault Status) :
    Log (Graph.stateSince (Graph.verdict (nameOf id) last answer))
      (steps + Graph.counted (Graph.verdict (nameOf id) last answer))
      (ended ++ (endedIn [.consume id upstream answer]).map nameOf) opening
      (lines ++ Graph.turnLines (nameOf id) steps last answer) := by
  have hnone : ended ++ [] = ended := List.append_nil _
  rcases answer with fault | handed | _ | _
  · exact hnone.symm ▸ h.failed _
  · exact hnone.symm ▸ h.stepped _
  · exact hnone.symm ▸ h.stepped _
  · cases last with
    | true => exact h.allEnded _
    | false => exact h.sinkEnded _

end Log

theorem Graph.Called.endedIn {sinks : List ComponentId} {calls : List (Hook W)}
    (h : Called sinks calls) (hnodup : sinks.Nodup) :
    (endedIn calls).Nodup ∧ endedIn calls ⊆ sinks := by
  have hready (done : List ComponentId) : TraceFlow.endedIn (done.map (Hook.ready (W := W))) = [] :=
    filterMap_map_of_none (fun _ => rfl) done
  cases h with
  | untouched => exact ⟨List.nodup_nil, List.nil_subset _⟩
  | @refused done rest id fault hsplit =>
    rw [endedIn_append, hready]
    exact ⟨List.nodup_nil, List.nil_subset _⟩
  | fed hturns =>
    rw [endedIn_append, hready, List.nil_append]
    have hboth := hturns.perm.nodup_iff.mpr hnodup
    refine ⟨(List.nodup_append.mp hboth).1, fun id hid => ?_⟩
    exact hturns.perm.subset (List.mem_append_left _ hid)

namespace Past

/-! ## What a deed adds to the log -/

/-- What a deed adds to the log of a past: a request tells that it was granted, and a step tells
what `run_cases` leaves it to do. -/
inductive Tells (past : Past W α) : Deed W α → List LogLine → Prop where
  | request {command : Command W α} {scene : Scene W α} (hcommand : command ≠ .run)
      {new : List LogLine}
      (h : new = [] ∨ ∃ line : LogLine, line.Assembles ∧ new = [line]) :
      Tells past ⟨command, scene⟩ new
  | spent {scene : Scene W α} (h : past.graph.state = .ended ∨ past.graph.state = .faulted) :
      Tells past ⟨.run, scene⟩ []
  | refused {scene : Scene W α} {e : GraphError} {failed : Graph W α} {between : Session W α}
      (hstate : past.graph.state = .configuring)
      (h : past.graph.configure ⟨scene, past.journal⟩ = ⟨.error e, failed, between⟩) :
      Tells past ⟨.run, scene⟩ [.configurationFailed e]
  | turn {scene : Scene W α} {ready : Graph W α} {opened : Session W α} {places : Nat}
      {id : ComponentId} {c : Component W α} {sink : Sink W α} {upstream : Iterator W}
      {answer : Except Fault Status}
      (hready : past.graph.Ready ⟨scene, past.journal⟩ ready opened)
      (h : ready.TookTurn opened (past.graph.run ⟨scene, past.journal⟩) places id c sink upstream
        answer) :
      Tells past ⟨.run, scene⟩
        ((if past.graph.state = .configuring then [past.graph.opening] else []) ++
          Graph.turnLines c.name past.graph.steps
            (past.graph.run ⟨scene, past.journal⟩).graph.allEnded answer)

theorem lines_ready {past : Past W α} {scene : Scene W α} {ready : Graph W α} {opened : Session W α}
    (h : past.graph.Ready ⟨scene, past.journal⟩ ready opened) :
    opened.journal.lines = past.journal.lines ++
      if past.graph.state = .configuring then [past.graph.opening] else [] := by
  cases h with
  | configured hstate h =>
    have hlines := past.graph.lines_configure ⟨scene, past.journal⟩
    rw [h] at hlines
    rw [if_pos hstate]
    exact hlines
  | running hstate =>
    rw [if_neg (by rw [hstate]; nofun)]
    exact (List.append_nil _).symm

theorem steps_ready {past : Past W α} {scene : Scene W α} {ready : Graph W α} {opened : Session W α}
    (h : past.graph.Ready ⟨scene, past.journal⟩ ready opened) :
    ready.steps = past.graph.steps := by
  cases h with
  | configured hstate h =>
    have hsteps := Graph.configure_keeps Graph.steps (fun _ _ _ => rfl) (fun _ _ => rfl)
      past.graph ⟨scene, past.journal⟩
    rw [h] at hsteps
    exact hsteps
  | running => rfl

theorem exists_tells {past : Past W α} (hreached : past.graph.Reached) (deed : Deed W α) :
    ∃ new, past.Tells deed new ∧ (past.step deed).journal.lines = past.journal.lines ++ new := by
  obtain ⟨command, scene⟩ := deed
  by_cases hcommand : command = .run
  · subst hcommand
    rcases past.graph.run_cases ⟨scene, past.journal⟩ with
      ⟨hstate, hrun⟩ | ⟨hstate, hrun⟩ | ⟨e, failed, between, hstate, hconfigure, hrun⟩ |
      ⟨ready, opened, hready⟩
    · refine ⟨[], .spent (.inl hstate), ?_⟩
      rw [step_of_run hrun]
      exact (List.append_nil _).symm
    · refine ⟨[], .spent (.inr hstate), ?_⟩
      rw [step_of_run hrun]
      exact (List.append_nil _).symm
    · refine ⟨_, .refused hstate hconfigure, ?_⟩
      have hlines := past.graph.lines_configure ⟨scene, past.journal⟩
      rw [hconfigure] at hlines
      rw [step_of_run hrun]
      dsimp only at hlines ⊢
      rw [Session.lines_log, hlines, List.append_nil]
    · obtain ⟨hrunning, hunderway, hrun⟩ := hready.underway hreached.coherent hreached.phased
      obtain ⟨places, id, c, sink, upstream, answer, hturn⟩ := hunderway.tookTurn hrunning opened
      have hlines := hturn.lines hunderway.cursor
      rw [← hrun] at hturn hlines
      refine ⟨_, .turn hready hturn, ?_⟩
      rw [step_of_run rfl, ← List.append_assoc, ← lines_ready hready, ← steps_ready hready]
      exact hlines
  · rcases past.graph.lines_on hcommand ⟨scene, past.journal⟩ with hsame | ⟨line, hline, hmore⟩
    · exact ⟨[], .request hcommand (.inl rfl), hsame.trans (List.append_nil _).symm⟩
    · exact ⟨[line], .request hcommand (.inr ⟨line, hline, rfl⟩), hmore⟩

/-! ## The log of a life -/

/-- By the deed the graph comes to run: it is a first step and the configuration succeeds. -/
def configures (past : Past W α) (deed : Deed W α) : Bool :=
  match deed.command with
  | .run => past.graph.state = .configuring &&
    (past.graph.configure ⟨deed.scene, past.journal⟩).answer.isOk
  | _ => false

/-- In the course of a life the graph has come to run. -/
def configured (life : List (Deed W α)) : Bool :=
  (moments life).any fun (past, deed) => past.configures deed

def opening (life : List (Deed W α)) : List LogLine :=
  if configured life then [(of life).graph.opening] else []

theorem configured_concat (life : List (Deed W α)) (deed : Deed W α) :
    configured (life ++ [deed]) = (configured life || (of life).configures deed) := by
  unfold configured
  rw [moments_concat, List.any_append, List.any_cons, List.any_nil, Bool.or_false]

theorem configures_of_ne_run {command : Command W α} (h : command ≠ .run) (past : Past W α)
    (scene : Scene W α) : past.configures ⟨command, scene⟩ = false := by
  cases command <;> first | rfl | exact absurd rfl h

theorem configures_of_started {past : Past W α} (h : past.graph.state ≠ .configuring)
    (deed : Deed W α) : past.configures deed = false := by
  obtain ⟨command, scene⟩ := deed
  cases command <;> simp [configures, h]

theorem not_configured {life : List (Deed W α)} (h : (of life).graph.state = .configuring) :
    configured life = false := by
  induction life using List.reverseRecOn with
  | nil => rfl
  | append_singleton life deed ih =>
    rw [configured_concat]
    obtain ⟨command, scene⟩ := deed
    rw [of_concat] at h
    by_cases hcommand : command = .run
    · subst hcommand
      rw [step_of_run rfl, Graph.state_run] at h
      exact absurd h (Graph.stateSince_ne_configuring _)
    · rw [configures_of_ne_run hcommand, Bool.or_false]
      refine ih ?_
      rw [← (Graph.course_on (of life).graph hcommand ⟨scene, (of life).journal⟩).2]
      exact h

/-- What the log of a life has come to. -/
def Logged (life : List (Deed W α)) : Prop :=
  Log (of life).graph.state (of life).graph.steps
    ((endedIn (of life).journal.hooks).map (of life).graph.nameOf) (opening life)
    (of life).journal.lines

section

variable {life : List (Deed W α)} {scene : Scene W α}

theorem endedIn_of_configuring (hstate : (of life).graph.state = .configuring) :
    endedIn (of life).journal.hooks = [] := by
  have hidle : sinkCalls (of life).journal.hooks = [] := (orderly_of life).idle hstate
  rw [← endedIn_sinkCalls, hidle]
  rfl

theorem Logged.asked (h : Logged life) {command : Command W α} (hcommand : command ≠ .run)
    {new : List LogLine} (hnew : new = [] ∨ ∃ line : LogLine, line.Assembles ∧ new = [line])
    (hlines : ((of life).step ⟨command, scene⟩).journal.lines = (of life).journal.lines ++ new) :
    Logged (life ++ [⟨command, scene⟩]) := by
  by_cases hstate : (of life).graph.state = .configuring
  · have hlater : (of (life ++ [⟨command, scene⟩])).graph.state = .configuring := by
      rw [of_concat, ← hstate]
      exact (Graph.course_on (of life).graph hcommand _).2
    obtain ⟨hzero, hlog⟩ := Log.of_configuring h hstate
    have hsteps : (of (life ++ [⟨command, scene⟩])).graph.steps = 0 := by
      rw [of_concat, ← hzero]
      exact Graph.steps_on (of life).graph hcommand _
    unfold Logged opening
    rw [hlater, hsteps, endedIn_of_configuring hlater, not_configured hlater, of_concat, hlines]
    rcases hnew with rfl | ⟨line, hline, rfl⟩
    · exact (List.append_nil _).symm ▸ hlog
    · exact hlog.assembled hline
  · have hsame : of (life ++ [⟨command, scene⟩]) = of life := by
      rw [of_concat, step_of_reply (Graph.on_of_started hstate hcommand _)]
    unfold Logged opening
    rw [configured_concat, configures_of_started hstate, Bool.or_false, hsame]
    exact h

theorem Logged.spent (h : Logged life)
    (hstate : (of life).graph.state = .ended ∨ (of life).graph.state = .faulted) :
    Logged (life ++ [⟨.run, scene⟩]) := by
  have hstarted : (of life).graph.state ≠ .configuring := by
    rcases hstate with hstate | hstate <;> simp [hstate]
  have hsame : of (life ++ [⟨.run, scene⟩]) = of life := by
    rw [of_concat]
    rcases hstate with hstate | hstate
    · rw [step_of_run (Graph.run_of_ended hstate _)]
    · rw [step_of_run (Graph.run_of_faulted hstate _)]
  unfold Logged opening
  rw [configured_concat, configures_of_started hstarted, Bool.or_false, hsame]
  exact h

theorem Logged.refused (h : Logged life) {e : GraphError} {failed : Graph W α}
    {between : Session W α} (hstate : (of life).graph.state = .configuring)
    (hconfigure : (of life).graph.configure ⟨scene, (of life).journal⟩ =
      ⟨.error e, failed, between⟩) : Logged (life ++ [⟨.run, scene⟩]) := by
  obtain ⟨hzero, hlog⟩ := Log.of_configuring h hstate
  have hrun : (of life).graph.run ⟨scene, (of life).journal⟩ =
      ⟨.error e, { failed with state := .faulted }, between.log (.configurationFailed e)⟩ := by
    unfold Graph.run
    simp only [hstate, hconfigure]
  have hsteps : failed.steps = 0 := by
    have hkept := Graph.configure_keeps Graph.steps (fun _ _ _ => rfl) (fun _ _ => rfl)
      (of life).graph ⟨scene, (of life).journal⟩
    rw [hconfigure] at hkept
    exact hkept.trans hzero
  have hended : endedIn between.journal.hooks = [] := by
    have hkept := (of life).graph.endedIn_configure ⟨scene, (of life).journal⟩
    rw [hconfigure] at hkept
    exact hkept.trans (endedIn_of_configuring hstate)
  have hlines : between.journal.lines = (of life).journal.lines := by
    have hconfigured := (of life).graph.lines_configure ⟨scene, (of life).journal⟩
    rw [hconfigure] at hconfigured
    exact hconfigured.trans (List.append_nil _)
  have hopening : opening (life ++ [⟨.run, scene⟩]) = [] := by
    unfold opening
    rw [configured_concat, not_configured hstate]
    unfold configures
    simp [hconfigure, Except.isOk, Except.toBool]
  unfold Logged
  rw [hopening, of_concat, step_of_run hrun]
  dsimp only
  rw [hsteps, Session.hooks_log, hended, Session.lines_log, hlines]
  exact hlog.refused e

theorem Logged.ready (h : Logged life) {ready : Graph W α} {opened : Session W α}
    (hready : (of life).graph.Ready ⟨scene, (of life).journal⟩ ready opened) :
    Log .running (of life).graph.steps
      ((endedIn (of life).journal.hooks).map (of life).graph.nameOf)
      (opening (life ++ [⟨.run, scene⟩])) opened.journal.lines := by
  have hsame : (of (life ++ [⟨.run, scene⟩])).graph.opening = (of life).graph.opening := by
    rw [graph_of_concat_run]
    exact Graph.opening_of_bare_eq (Graph.bare_run ..)
  rw [lines_ready hready]
  unfold opening
  rw [configured_concat, hsame]
  cases hready with
  | configured hstate hconfigure =>
    obtain ⟨hzero, hlog⟩ := Log.of_configuring h hstate
    have hnow : (of life).configures ⟨.run, scene⟩ = true := by
      simp [configures, hstate, hconfigure, Except.isOk, Except.toBool]
    rw [hnow, Bool.or_true, if_pos rfl, if_pos hstate, hzero, endedIn_of_configuring hstate]
    exact hlog.opened ..
  | running hstate =>
    have hstarted : (of life).graph.state ≠ .configuring := by simp [hstate]
    unfold Logged at h
    rw [hstate] at h
    rw [configures_of_started hstarted, Bool.or_false, if_neg hstarted, List.append_nil]
    exact h

theorem Logged.turn (h : Logged life) {ready : Graph W α} {opened : Session W α} {places : Nat}
    {id : ComponentId} {c : Component W α} {sink : Sink W α} {upstream : Iterator W}
    {answer : Except Fault Status}
    (hready : (of life).graph.Ready ⟨scene, (of life).journal⟩ ready opened)
    (hturn : ready.TookTurn opened ((of life).graph.run ⟨scene, (of life).journal⟩) places id c sink
      upstream answer)
    (hlines : ((of life).step ⟨.run, scene⟩).journal.lines = opened.journal.lines ++
      Graph.turnLines c.name (of life).graph.steps
        ((of life).graph.run ⟨scene, (of life).journal⟩).graph.allEnded answer) :
    Logged (life ++ [⟨.run, scene⟩]) := by
  have hbare := Graph.bare_run (of life).graph ⟨scene, (of life).journal⟩
  have hname : (of life).graph.nameOf id = c.name := by
    rw [← Graph.nameOf_of_bare_eq hbare, Graph.nameOf_of_bare_eq hturn.bare]
    exact Graph.nameOf_eq hturn.serves.component
  have hended : endedIn (of (life ++ [⟨.run, scene⟩])).journal.hooks =
      endedIn (of life).journal.hooks ++ endedIn [.consume id upstream answer] := by
    obtain ⟨-, hbefore⟩ := (orderly_of life).ready_ended (reached_of life) hready
    rw [of_concat, step_of_run rfl, hturn.hooks, endedIn_append, hbefore]
  have hnames : (of (life ++ [⟨.run, scene⟩])).graph.nameOf = (of life).graph.nameOf := by
    rw [graph_of_concat_run]
    exact funext (Graph.nameOf_of_bare_eq hbare)
  have hlog := (h.ready hready).turn (of life).graph.nameOf id upstream
    ((of life).graph.run ⟨scene, (of life).journal⟩).graph.allEnded answer
  rw [hname, ← hturn.replied, ← Graph.state_run, ← hlines] at hlog
  have hsteps := Graph.steps_run (of life).graph ⟨scene, (of life).journal⟩
  rw [if_neg (Graph.Ready.not_ended hready)] at hsteps
  unfold Logged
  rw [hended, hnames, List.map_append, graph_of_concat_run, hsteps, of_concat]
  exact hlog

end

theorem logged_of (life : List (Deed W α)) : Logged life := by
  induction life using List.reverseRecOn with
  | nil => exact .new
  | append_singleton life deed ih =>
    obtain ⟨new, htells, hlines⟩ := exists_tells (reached_of life) deed
    cases htells with
    | request hcommand h => exact ih.asked hcommand h hlines
    | spent h => exact ih.spent h
    | refused hstate h => exact ih.refused hstate h
    | turn hready h =>
      rw [← List.append_assoc, ← lines_ready hready] at hlines
      exact ih.turn hready h hlines

/-! ## What the log tells -/

def told (life : List (Deed W α)) (scene : Scene W α) : List LogLine :=
  ((of life).graph.close ⟨scene, (of life).journal⟩).journal.lines

theorem told_eq (life : List (Deed W α)) (scene : Scene W α) :
    told life scene = (of life).journal.lines ++ (of life).graph.closing :=
  Graph.lines_close (coherent_of life) _

theorem Tells.of_error {past : Past W α} {deed : Deed W α} {new : List LogLine}
    (h : past.Tells deed new) {line : LogLine} (hline : line ∈ new)
    (hsevere : line.severity = .error) :
    deed.command = .run ∧ ∃ e, (past.reply deed).answer = .error e ∧
      (line = .configurationFailed e ∨ line = .stepFailed e) := by
  have hanswer {scene : Scene W α} {e : GraphError}
      (hrun : (past.graph.run ⟨scene, past.journal⟩).answer = .error e) :
      (past.reply ⟨.run, scene⟩).answer = .error e := by
    simp only [reply, Command.on, Reply.map, hrun, Except.map]
  cases h with
  | request hcommand h =>
    rcases h with rfl | ⟨line, hassembles, rfl⟩
    · cases hline
    · cases List.mem_singleton.mp hline
      cases hassembles <;> cases hsevere
  | spent h => cases hline
  | refused hstate hconfigure =>
    cases List.mem_singleton.mp hline
    refine ⟨rfl, _, hanswer ?_, .inl rfl⟩
    unfold Graph.run
    simp only [hstate, hconfigure]
  | turn hready hturn =>
    refine ⟨rfl, ?_⟩
    rcases List.mem_append.mp hline with hfirst | hlast
    · split at hfirst
      · cases List.mem_singleton.mp hfirst
        cases hsevere
      · cases hfirst
    · obtain ⟨fault, rfl, rfl⟩ := Graph.severe_of_mem_turnLines hlast hsevere
      exact ⟨_, hanswer hturn.replied, .inr rfl⟩

/-- A deed adds lines to the log, among them an error exactly if the graph faults by it. The error
is the answer of the step that failed. -/
structure Admits (past : Past W α) (deed : Deed W α) (new : List LogLine) : Prop where
  lines : (past.step deed).journal.lines = past.journal.lines ++ new
  faults : (∃ line ∈ new, line.severity = .error) ↔
    past.graph.state ≠ .faulted ∧ (past.step deed).graph.state = .faulted
  blames : ∀ line ∈ new, line.severity = .error → deed.command = .run ∧
    ∃ e, (past.reply deed).answer = .error e ∧
      (line = .configurationFailed e ∨ line = .stepFailed e)

theorem exists_admits (life : List (Deed W α)) (deed : Deed W α) :
    ∃ new, (of life).Admits deed new := by
  obtain ⟨new, htells, hlines⟩ := exists_tells (reached_of life) deed
  refine ⟨new, hlines, ?_, fun line => htells.of_error⟩
  have hbefore := (logged_of life).errors
  have hafter := (logged_of (life ++ [deed])).errors
  rw [of_concat, hlines, List.countP_append, hbefore] at hafter
  have hsome : (∃ line ∈ new, line.severity = .error) ↔ 0 < new.countP (·.severity = .error) := by
    rw [List.countP_pos_iff]
    simp
  rw [hsome]
  by_cases hstate : (of life).graph.state = .faulted
  · by_cases hlater : ((of life).step deed).graph.state = .faulted
    · rw [if_pos hstate, if_pos hlater] at hafter
      exact iff_of_false (by omega) fun h => h.1 hstate
    · rw [if_pos hstate, if_neg hlater] at hafter
      omega
  · by_cases hlater : ((of life).step deed).graph.state = .faulted
    · rw [if_neg hstate, if_pos hlater] at hafter
      exact iff_of_true (by omega) ⟨hstate, hlater⟩
    · rw [if_neg hstate, if_neg hlater] at hafter
      exact iff_of_false (by omega) fun h => hlater h.2

/-- By its log a graph tells what it has been through. -/
structure Faithful (life : List (Deed W α)) (lines : List LogLine) : Prop where
  errors : lines.countP (·.severity = .error) = if (of life).graph.state = .faulted then 1 else 0
  info : lines.filter (·.severity = .info) = (if configured life then [(of life).graph.opening]
    else []) ++ if (of life).graph.state = .ended then [.allEnded (of life).graph.steps] else []
  numbers : lines.filterMap LogLine.number? = List.range' 1 (of life).graph.steps
  opened : ∀ before number status after, lines = before ++ .step number status :: after →
    (of life).graph.opening ∈ before
  ended : lines.filterMap LogLine.ended? =
    (endedIn (of life).journal.hooks).map (of life).graph.nameOf
  warnings : lines.filter (·.severity = .warn) =
    if (of life).graph.state = .running then [.tornDown (of life).graph.steps] else []
  tidied : lines.filterMap LogLine.tidied? = (of life).graph.sinks.map (of life).graph.nameOf

theorem faithful_told (life : List (Deed W α)) (scene : Scene W α) :
    Faithful life (told life scene) := by
  have hlog := logged_of life
  unfold Logged at hlog
  rw [told_eq]
  have hquiet (severity : Severity) (hwarn : severity ≠ .warn) (hdebug : severity ≠ .debug) :
      ∀ line ∈ (of life).graph.closing, line.severity ≠ severity := by
    intro line hline
    rcases Graph.severity_of_mem_closing hline with h | h
    · rw [h]
      exact hwarn.symm
    · rw [h]
      exact hdebug.symm
  have hwarnings : (of life).journal.lines.filter (·.severity = .warn) = [] := by
    rw [List.filter_eq_nil_iff]
    exact fun line hline => by simpa using (hlog.open_ended line hline).1
  have htidied : (of life).journal.lines.filterMap LogLine.tidied? = [] :=
    List.filterMap_eq_nil_iff.mpr fun line hline => (hlog.open_ended line hline).2
  constructor
  · have hnone : (of life).graph.closing.countP (·.severity = .error) = 0 := by
      rw [List.countP_eq_zero]
      simpa using hquiet .error nofun nofun
    rw [List.countP_append, hlog.errors, hnone, Nat.add_zero]
  · have hnone : (of life).graph.closing.filter (·.severity = .info) = [] := by
      rw [List.filter_eq_nil_iff]
      simpa using hquiet .info nofun nofun
    rw [List.filter_append, hlog.info, hnone, List.append_nil]
    rfl
  · rw [List.filterMap_append, hlog.numbers,
      Graph.filterMap_closing _ (fun _ => rfl) (fun _ => rfl) (fun _ _ => rfl), List.append_nil]
  · intro before number status after heq
    have hnot : .step number status ∉ (of life).graph.closing := fun hmem =>
      hquiet .trace nofun nofun _ hmem rfl
    obtain ⟨between, hlines, -⟩ := split_left heq hnot
    obtain ⟨hsome, hbefore⟩ := hlog.opening_of_step hlines
    unfold opening at hsome hbefore
    split at hsome
    · next hconfigured =>
      rw [if_pos hconfigured] at hbefore
      exact hbefore _ (List.mem_singleton.mpr rfl)
    · exact absurd rfl hsome
  · rw [List.filterMap_append, hlog.ended_eq,
      Graph.filterMap_closing _ (fun _ => rfl) (fun _ => rfl) (fun _ _ => rfl), List.append_nil]
  · rw [List.filter_append, hwarnings, Graph.warnings_closing, List.nil_append]
  · rw [List.filterMap_append, htidied, Graph.tidied_closing, List.nil_append]

/--
The log tells the life of a graph, to its end: that it ran, if it came to that, then its steps by
their numbers and the sinks that ended, each once, and that all had ended or that it was torn down
before. An error is told by the deed by which the graph faults, and by no other. The end alone tells
that sinks tidied up, in the order of the components, and warns if the graph still ran.
-/
theorem log_faithful (life : List (Deed W α)) (scene : Scene W α) :
    Faithful life (told life scene) ∧
    (told life scene = (of life).journal.lines ++ (of life).graph.closing ∧
      ∀ line ∈ (of life).journal.lines, line.severity ≠ .warn ∧ line.tidied? = none) ∧
    ((endedIn (of life).journal.hooks).Nodup ∧
      endedIn (of life).journal.hooks ⊆ (of life).graph.sinks ∧
      (of life).graph.sinks =
        (of life).graph.ids.filter ((of life).graph.kind? · = some .sink)) ∧
    ∀ before deed after, life = before ++ deed :: after → ∃ new, (of before).Admits deed new := by
  have hsinks := coherent_of life
  obtain ⟨hnodup, hknown⟩ := (orderly_of life).called.endedIn hsinks.nodup_sinks
  rw [calls, endedIn_sinkCalls] at hnodup hknown
  exact ⟨faithful_told life scene, ⟨told_eq life scene, Log.open_ended (logged_of life)⟩,
    ⟨hnodup, hknown, hsinks.sinks⟩, fun before deed _ _ => exists_admits before deed⟩

theorem log_faithful_drained :
    configured drained ∧ (of drained).graph.state = .ended ∧
      (told drained (.plain 0)).drop 6 =
        [.running 4 2 2, .step 1 .again, .step 2 .again, .step 3 .again, .sinkEnded "right",
          .step 4 .ok, .step 5 .again, .step 6 .again, .sinkEnded "left", .allEnded 7,
          .step 7 .ended, .sinkTidied "left", .sinkTidied "right", .dropped 4 2] ∧
      Faithful drained (told drained (.plain 0)) ∧
      ((endedIn (of drained).journal.hooks).Nodup ∧
        endedIn (of drained).journal.hooks = [⟨3⟩, ⟨2⟩]) ∧
      ∃ new, (of sipped).Admits ⟨.run, .plain 0⟩ new := by
  obtain ⟨hfaithful, -, ⟨hnodup, -⟩, hadmits⟩ := log_faithful drained (.plain 0)
  exact ⟨by decide +kernel, by decide +kernel, by decide +kernel, hfaithful,
    ⟨hnodup, by decide +kernel⟩, hadmits sipped _ [] rfl⟩

end Past

end TraceFlow
