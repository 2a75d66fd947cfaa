import TraceFlow.Proofs.Adding
import TraceFlow.Proofs.Counting

/-!
# What a graph logs

A request tells that it was granted. The first step tells that the graph runs, or why it does not.
Every step that feeds a sink tells what came of it, and the end of a graph tells of its sinks.
-/

namespace TraceFlow

variable {W α : Type}

namespace LogLine

def number? : LogLine → Option Nat
  | step number _ => some number
  | _ => none

def ended? : LogLine → Option String
  | sinkEnded name => some name
  | _ => none

def tidied? : LogLine → Option String
  | sinkTidied name => some name
  | _ => none

end LogLine

namespace Session

@[simp] theorem lines_log (session : Session W α) (line : LogLine) :
    (session.log line).journal.lines = session.journal.lines ++ [line] :=
  Journal.lines_record_line ..

@[simp] theorem lines_tell (session : Session W α) (change : W × α → W × α) (hook : Hook W) :
    (session.tell change hook).journal.lines = session.journal.lines :=
  Journal.lines_record_hook ..

@[simp] theorem lines_ask {β : Type} (session : Session W α) (act : Act (W × α) β)
    (hook : Except Fault β → Hook W) :
    (session.ask act hook).2.journal.lines = session.journal.lines :=
  Journal.lines_record_hook ..

end Session

/-! ## Requests -/

/-- The line tells of a request that was granted. -/
inductive LogLine.Assembles : LogLine → Prop where
  | added {kind : Kind} {name : String} {id : ComponentId} {className : Option String}
      {inputs outputs : Nat} {level : LogLevel} :
      Assembles (.added kind name id className inputs outputs level)
  | connected {upstream downstream : String} {output input : Nat} {id : ConnectionId} :
      Assembles (.connected upstream output downstream input id)

theorem Addition.lines_on (request : Addition W α) (g : Graph W α) (session : Session W α) :
    (request.on g session).session.journal.lines = session.journal.lines ∨
      ∃ line : LogLine, line.Assembles ∧
        (request.on g session).session.journal.lines = session.journal.lines ++ [line] := by
  have hopened (after : W) :
      (request.opened session after).journal.lines = session.journal.lines := by
    cases request with
    | source cls name params level => exact Journal.lines_record_hook ..
    | filter cls name params level => exact Journal.lines_record_hook ..
    | sink taker name => rfl
  rw [on_eq]
  unfold outcome
  split
  · exact .inl rfl
  · split
    · exact .inl (hopened _)
    · split
      · exact .inl (hopened _)
      · exact .inr ⟨_, .added, (Session.lines_log ..).trans (congrArg (· ++ _) (hopened _))⟩

namespace Graph

theorem lines_announce (g : Graph W α) (port : PortRef) (session : Session W α) :
    (g.announce port session).2.journal.lines = session.journal.lines := by
  unfold announce
  split
  · dsimp only
    split <;> exact session.lines_tell _ _
  · rfl

theorem lines_connect (g : Graph W α) (upstream downstream : PortRef) (session : Session W α) :
    (g.connect upstream downstream session).session.journal.lines = session.journal.lines ∨
      ∃ line : LogLine, line.Assembles ∧
        (g.connect upstream downstream session).session.journal.lines =
          session.journal.lines ++ [line] := by
  have hannounce := (g.link upstream downstream).lines_announce downstream session
  unfold connect
  split
  · exact .inl rfl
  · split
    · exact .inl rfl
    · dsimp only
      split
      · next h =>
        rw [h] at hannounce
        exact .inl hannounce
      · next h =>
        rw [h] at hannounce
        exact .inr ⟨_, .connected, (Session.lines_log ..).trans (congrArg (· ++ _) hannounce)⟩

theorem lines_on (g : Graph W α) {command : Command W α} (hcommand : command ≠ .run)
    (session : Session W α) :
    (command.on g session).session.journal.lines = session.journal.lines ∨
      ∃ line : LogLine, line.Assembles ∧
        (command.on g session).session.journal.lines = session.journal.lines ++ [line] := by
  cases command with
  | addSource cls name params level =>
    exact Addition.lines_on (.source cls name params level) g session
  | addFilter cls name params level =>
    exact Addition.lines_on (.filter cls name params level) g session
  | addSink sink name => exact Addition.lines_on (.sink sink name) g session
  | connect upstream downstream => exact lines_connect g upstream downstream session
  | run => exact absurd rfl hcommand

/-! ## The first step -/

/-- The line that tells that the graph runs. -/
def opening (g : Graph W α) : LogLine :=
  .running g.components.length g.connections.length g.sinks.length

theorem opening_of_bare_eq {g g' : Graph W α} (h : g'.bare = g.bare) : g'.opening = g.opening := by
  have hcount : g'.componentCount = g.componentCount := by
    rw [← componentCount_bare g', h, componentCount_bare]
  have hconnections : g'.connections = g.connections := by
    rw [← connections_bare g', h, connections_bare]
  unfold opening
  rw [show g'.components.length = g.components.length from hcount, hconnections,
    sinks_of_bare_eq h]

theorem lines_setUpSink (g : Graph W α) (id : ComponentId) (session : Session W α) :
    (g.setUpSink id session).2.journal.lines = session.journal.lines := by
  unfold setUpSink
  split
  · next sink _ _ =>
    have hask := session.lines_ask sink.setUp (.setUp id)
    split
    · next h => rw [h] at hask; exact hask
    · next h => rw [h] at hask; exact hask
  · rfl

theorem lines_configure (g : Graph W α) (session : Session W α) :
    (g.configure session).session.journal.lines = session.journal.lines ++
      match (g.configure session).answer with
      | .ok () => [g.opening]
      | .error _ => [] := by
  have hopen := openSinks_session_keeps (fun session => session.journal.lines)
    (fun session act _ _ => session.lines_ask act _) g g.sinks session
  have hbare := bare_openSinks g g.sinks session
  unfold configure
  split
  · exact (List.append_nil _).symm
  · split
    · next h =>
      rw [h] at hopen
      exact hopen.trans (List.append_nil _).symm
    · next opened between h =>
      rw [h] at hopen hbare
      have hsetup := makeEach_keeps (fun session => session.journal.lines) opened.lines_setUpSink
        opened.sinks between
      split
      · next hmake =>
        rw [hmake] at hsetup
        exact (hsetup.trans hopen).trans (List.append_nil _).symm
      · next hmake =>
        rw [hmake] at hsetup
        dsimp only at hsetup hopen ⊢
        rw [Session.lines_log, hsetup, hopen, ← opening_of_bare_eq hbare]
        rfl

/-! ## Every step -/

/-- What a step tells that fed the sink of that name, by the answer of the sink and by whether it
was the last to end. -/
def turnLines (name : String) (steps : Nat) (last : Bool) : Except Fault Status → List LogLine
  | .error fault => [.stepFailed (.sink name fault)]
  | .ok .ended => .sinkEnded name ::
    if last then [.allEnded (steps + 1), .step (steps + 1) .ended]
    else [.step (steps + 1) .ok]
  | .ok status => [.step (steps + 1) status]

theorem severe_of_mem_turnLines {name : String} {steps : Nat} {last : Bool}
    {answer : Except Fault Status} {line : LogLine} (h : line ∈ turnLines name steps last answer)
    (hsevere : line.severity = .error) :
    ∃ fault, answer = .error fault ∧ line = .stepFailed (.sink name fault) := by
  have hquiet (harmless : ∀ line ∈ turnLines name steps last answer, line.severity ≠ .error) :
      ∃ fault, answer = .error fault ∧ line = .stepFailed (.sink name fault) :=
    absurd hsevere (harmless line h)
  rcases answer with fault | _ | _ | _
  · exact ⟨fault, rfl, List.mem_singleton.mp h⟩
  · exact hquiet (by simp [turnLines, LogLine.severity])
  · exact hquiet (by simp [turnLines, LogLine.severity])
  · cases last <;> exact hquiet (by simp [turnLines, LogLine.severity])

theorem lines_conclude_settle (g : Graph W α) (session : Session W α) :
    (conclude (g.settle .ok session)).session.journal.lines = session.journal.lines ++
      if (conclude (g.settle .ok session)).graph.allEnded then
        [.allEnded (g.steps + 1), .step (g.steps + 1) .ended]
      else [.step (g.steps + 1) .ok] := by
  have hsame : (conclude (g.settle .ok session)).graph.allEnded = g.allEnded := by
    unfold settle
    split <;> rfl
  rw [hsame]
  unfold settle
  split <;> simp [conclude]

theorem lines_conclude_consume (g : Graph W α) (id : ComponentId) (name : String)
    (sink : Sink W α) (upstream : Iterator W) (session : Session W α) :
    (conclude (g.consume id name sink upstream session)).session.journal.lines =
      session.journal.lines ++ turnLines name g.steps
        (conclude (g.consume id name sink upstream session)).graph.allEnded
        ((sink.consume upstream).on (session.world, session.shared)).1 := by
  rcases hon : (sink.consume upstream).on (session.world, session.shared) with ⟨answer, after⟩
  unfold consume Session.ask
  rw [hon]
  rcases answer with fault | _ | _ | _
  · simp [conclude, turnLines]
  · simp [conclude, turnLines]
  · simp [conclude, turnLines]
  · dsimp only
    rw [lines_conclude_settle, Session.lines_log, List.append_assoc]
    exact congrArg (· ++ _) (Journal.lines_record_hook ..)

theorem TookTurn.lines {g : Graph W α} {session : Session W α} {places : Nat} {id : ComponentId}
    {c : Component W α} {sink : Sink W α} {upstream : Iterator W}
    {answer : Except Fault Status} (hcursor : g.cursor < g.sinks.length)
    (h : g.TookTurn session (conclude (g.feed session)) places id c sink upstream answer) :
    (conclude (g.feed session)).session.journal.lines = session.journal.lines ++
      turnLines c.name g.steps (conclude (g.feed session)).graph.allEnded answer := by
  have hserves := h.serves
  have hfeed : g.feed session = (g.pass (places + 1)).consume id c.name sink upstream session :=
    feedWithin_of_turn hcursor hserves.turn hserves.component hserves.role hserves.turn.within
      session
  have hlines := lines_conclude_consume (g.pass (places + 1)) id c.name sink upstream session
  rw [← hfeed, h.asked] at hlines
  exact hlines

/-! ## The end -/

theorem lines_tidyUpAt (session : Session W α) (c : Component W α) (id : ComponentId) :
    (tidyUpAt session c id).journal.lines =
      session.journal.lines ++ if c.kind = .sink then [.sinkTidied c.name] else [] := by
  unfold tidyUpAt Component.kind
  cases c.role <;> simp [Role.kind]

theorem lines_foldl_tidyUpAt (components : List (Component W α)) (session : Session W α) :
    (components.zipIdx.foldl (fun session (c, i) => tidyUpAt session c ⟨i⟩)
        session).journal.lines =
      session.journal.lines ++
        (components.filter (·.kind = .sink)).map (.sinkTidied ·.name) := by
  induction components using List.reverseRecOn with
  | nil => exact (List.append_nil _).symm
  | append_singleton components c ih =>
    rw [List.zipIdx_append, List.foldl_append, List.filter_append, List.map_append,
      ← List.append_assoc, ← ih]
    simp only [List.zipIdx_singleton, List.foldl_cons, List.foldl_nil, Nat.zero_add]
    rw [lines_tidyUpAt, List.filter_singleton]
    split <;> simp_all

theorem map_sinkPlaces {β : Type} {about : Component W α → β} {place : Nat → β}
    {components : List (Component W α)}
    (h : ∀ (i : Nat) (c : Component W α), components[i]? = some c → place i = about c) :
    (sinkPlaces components).map place = (components.filter (·.kind = .sink)).map about := by
  induction components using List.reverseRecOn with
  | nil => rfl
  | append_singleton components c ih =>
    have hbefore : ∀ (i : Nat) (c' : Component W α), components[i]? = some c' →
        place i = about c' := fun i c' hi =>
      h i c' (by rw [List.getElem?_append_left (List.getElem?_eq_some_iff.mp hi).1, hi])
    have hlast : place components.length = about c := h _ c List.getElem?_concat_length
    rw [sinkPlaces_concat, List.map_append, ih hbefore, List.filter_append, List.map_append,
      List.filter_singleton]
    split <;> simp_all

def closing (g : Graph W α) : List LogLine :=
  (if g.state = .running then [.tornDown g.steps] else []) ++
    (g.sinks.map (.sinkTidied ∘ g.nameOf) ++
      [.dropped g.components.length g.connections.length])

theorem lines_close {g : Graph W α} (hg : g.Coherent) (session : Session W α) :
    (g.close session).journal.lines = session.journal.lines ++ g.closing := by
  have hfirst : (if g.state = .running then session.log (.tornDown g.steps)
      else session).journal.lines =
      session.journal.lines ++ if g.state = .running then [.tornDown g.steps] else [] := by
    split
    · exact session.lines_log _
    · exact (List.append_nil _).symm
  have htidied : g.sinks.map (LogLine.sinkTidied ∘ g.nameOf) =
      (g.components.filter (·.kind = .sink)).map (LogLine.sinkTidied ·.name) := by
    rw [hg.sinks_eq, List.map_map]
    refine map_sinkPlaces fun i c hc => ?_
    have hcomponent : g.component? ⟨i⟩ = some c := hc
    simp only [Function.comp, nameOf, hcomponent]
  unfold close closing
  dsimp only
  rw [Session.lines_log, lines_foldl_tidyUpAt, hfirst, htidied]
  simp only [List.append_assoc]

section

variable {g : Graph W α} {line : LogLine}

theorem cases_of_mem_closing (h : line ∈ g.closing) :
    (∃ steps, line = .tornDown steps) ∨ (∃ name, line = .sinkTidied name) ∨
      ∃ components connections, line = .dropped components connections := by
  rcases List.mem_append.mp h with hfirst | hrest
  · split at hfirst
    · exact .inl ⟨_, List.mem_singleton.mp hfirst⟩
    · cases hfirst
  · rcases List.mem_append.mp hrest with htidied | hlast
    · obtain ⟨id, -, rfl⟩ := List.mem_map.mp htidied
      exact .inr (.inl ⟨_, rfl⟩)
    · exact .inr (.inr ⟨_, _, List.mem_singleton.mp hlast⟩)

theorem severity_of_mem_closing (h : line ∈ g.closing) :
    line.severity = .warn ∨ line.severity = .debug := by
  rcases cases_of_mem_closing h with ⟨_, rfl⟩ | ⟨_, rfl⟩ | ⟨_, _, rfl⟩
  · exact .inl rfl
  · exact .inr rfl
  · exact .inr rfl

theorem filterMap_closing {β : Type} {about : LogLine → Option β} (g : Graph W α)
    (htorn : ∀ steps, about (.tornDown steps) = none)
    (htidied : ∀ name, about (.sinkTidied name) = none)
    (hdropped : ∀ components connections, about (.dropped components connections) = none) :
    g.closing.filterMap about = [] := by
  refine List.filterMap_eq_nil_iff.mpr fun line hline => ?_
  rcases cases_of_mem_closing hline with ⟨steps, rfl⟩ | ⟨name, rfl⟩ | ⟨_, _, rfl⟩
  · exact htorn steps
  · exact htidied name
  · exact hdropped _ _

theorem warnings_closing (g : Graph W α) : g.closing.filter (·.severity = .warn) =
    if g.state = .running then [.tornDown g.steps] else [] := by
  have hrest : (g.sinks.map (LogLine.sinkTidied ∘ g.nameOf) ++
      [LogLine.dropped g.components.length g.connections.length]).filter
        (fun line => line.severity = .warn) = [] := by
    simp [LogLine.severity]
  unfold closing
  rw [List.filter_append, hrest, List.append_nil]
  split <;> rfl

theorem tidied_closing (g : Graph W α) :
    g.closing.filterMap LogLine.tidied? = g.sinks.map g.nameOf := by
  have htidied : (g.sinks.map (LogLine.sinkTidied ∘ g.nameOf)).filterMap LogLine.tidied? =
      g.sinks.map g.nameOf := by
    rw [List.filterMap_map]
    exact congrFun List.filterMap_eq_map' g.sinks
  unfold closing
  rw [List.filterMap_append, List.filterMap_append, htidied]
  split <;> exact List.append_nil _

end

end Graph

end TraceFlow
