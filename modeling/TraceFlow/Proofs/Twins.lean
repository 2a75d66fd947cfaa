import Mathlib.Data.List.Forall2
import TraceFlow.Proofs.Extends

/-!
# Two graphs side by side

Worlds may differ in something that no component of a graph can tell, and graphs in something that
no step looks at: how the connections are numbered. Side by side two such graphs in two such worlds
take the same steps, call the same and answer the same.
-/

namespace TraceFlow

variable {W α β : Type}

/-! ## Worlds that cannot be told apart -/

/-- In worlds that are the same an action gives one answer and leaves worlds that are the same;
what it makes, if it does not fail, is good. -/
def Act.Blind (same : W → W → Prop) (good : β → Prop) (act : Act W β) : Prop :=
  ∀ world other, same world other →
    (act.on other).1 = (act.on world).1 ∧ same (act.on world).2 (act.on other).2 ∧
      ∀ made, (act.on world).1 = .ok made → good made

theorem Act.blind_pure (same : W → W → Prop) {good : β → Prop} {made : β} (h : good made) :
    (pure made : Act W β).Blind same good := by
  refine fun world other hsame => ⟨rfl, hsame, fun b hb => ?_⟩
  cases hb
  exact h

/-- The worlds are the same, and one thing lies beside both of them. -/
def SameBeside (same : W → W → Prop) (scene other : W × α) : Prop :=
  same scene.1 other.1 ∧ other.2 = scene.2

theorem Act.Blind.beside {same : W → W → Prop} {good : β → Prop} {act : Act W β}
    (h : act.Blind same good) : (Act.beside (α := α) act).Blind (SameBeside same) good := by
  rintro ⟨world, shared⟩ ⟨other, _⟩ ⟨hsame, rfl⟩
  obtain ⟨hanswer, hlater, hgood⟩ := h world other hsame
  exact ⟨hanswer, ⟨hlater, rfl⟩, hgood⟩

def Iterator.Blind (same : W → W → Prop) (iterator : Iterator W) : Prop :=
  iterator.next.Blind same fun _ => True

structure Sink.Blind (same : W → W → Prop) (sink : Sink W α) : Prop where
  setUp : sink.setUp.Blind (SameBeside same) fun _ => True
  consume : ∀ upstream : Iterator W, upstream.Blind same →
    (sink.consume upstream).Blind (SameBeside same) fun _ => True
  tidyUp : ∀ scene other, SameBeside same scene other →
    SameBeside same (sink.tidyUp scene) (sink.tidyUp other)

def SinkPhase.Blind (same : W → W → Prop) : SinkPhase W → Prop
  | .reading upstream => upstream.Blind same
  | _ => True

/-- A component that does not tell worlds apart: nor do the iterators that it makes from such
ones. -/
def Role.Blind (same : W → W → Prop) : Role W α → Prop
  | .source s => ∀ port, (s.iterator port).Blind same (Iterator.Blind same)
  | .filter f => ∀ port upstream, (∀ iterator ∈ upstream, iterator.Blind same) →
      (f.iterator port upstream).Blind same (Iterator.Blind same)
  | .sink s phase => s.Blind same ∧ phase.Blind same

namespace Graph

def Blind (same : W → W → Prop) (g : Graph W α) : Prop :=
  ∀ id c, g.component? id = some c → c.role.Blind same

theorem Blind.modify_setPhase {same : W → W → Prop} {g : Graph W α} (h : g.Blind same)
    (id : ComponentId) (phase : SinkPhase W) (hphase : phase.Blind same) :
    (g.modify id (·.setPhase phase)).Blind same := by
  intro other c hc
  by_cases hid : other = id
  · subst hid
    rw [component?_modify_self] at hc
    obtain ⟨old, hold, rfl⟩ := Option.map_eq_some_iff.mp hc
    have hblind := h _ _ hold
    unfold Component.setPhase
    split
    · next hrole =>
      rw [hrole] at hblind
      exact ⟨hblind.1, hphase⟩
    · exact hblind
  · rw [component?_modify_of_ne g hid] at hc
    exact h _ _ hc

/-! ## Graphs that look alike -/

/-- Two components look alike to a step, each in its graph. -/
structure Looks (g g' : Graph W α) (c c' : Component W α) : Prop where
  name : c'.name = c.name
  role : c'.role = c.role
  feeders : g'.feeders c' = g.feeders c
  sinkFeeder : g'.sinkFeeder c' = g.sinkFeeder c

/-- Two graphs look alike to a step. -/
structure Twin (g g' : Graph W α) : Prop where
  sinks : g'.sinks = g.sinks
  cursor : g'.cursor = g.cursor
  state : g'.state = g.state
  steps : g'.steps = g.steps
  count : g'.componentCount = g.componentCount
  component : ∀ id c, g.component? id = some c →
    ∃ c', g'.component? id = some c' ∧ g.Looks g' c c'

namespace Twin

variable {g g' : Graph W α}

theorem none (h : g.Twin g') {id : ComponentId} (hid : g.component? id = .none) :
    g'.component? id = .none := by
  have hcount : g'.components.length = g.components.length := h.count
  unfold component? at hid ⊢
  rw [List.getElem?_eq_none_iff] at hid ⊢
  omega

theorem nameOf (h : g.Twin g') (id : ComponentId) : g'.nameOf id = g.nameOf id := by
  unfold Graph.nameOf
  cases hc : g.component? id with
  | none => rw [h.none hc]
  | some c =>
    obtain ⟨c', hc', hlooks⟩ := h.component id c hc
    rw [hc']
    exact hlooks.name

theorem hasEnded (h : g.Twin g') (id : ComponentId) : g'.hasEnded id = g.hasEnded id := by
  unfold Graph.hasEnded
  cases hc : g.component? id with
  | none => rw [h.none hc]
  | some c =>
    obtain ⟨c', hc', hlooks⟩ := h.component id c hc
    rw [hc']
    simp only [Component.hasEnded, hlooks.role]

theorem allEnded (h : g.Twin g') : g'.allEnded = g.allEnded := by
  unfold Graph.allEnded
  rw [h.sinks, funext h.hasEnded]

theorem modify_setPhase (h : g.Twin g') (id : ComponentId) (phase : SinkPhase W) :
    (g.modify id (·.setPhase phase)).Twin (g'.modify id (·.setPhase phase)) where
  sinks := h.sinks
  cursor := h.cursor
  state := h.state
  steps := h.steps
  count := by rw [componentCount_modify, componentCount_modify, h.count]
  component other c hc := by
    by_cases hid : other = id
    · subst hid
      rw [component?_modify_self] at hc ⊢
      obtain ⟨old, hold, rfl⟩ := Option.map_eq_some_iff.mp hc
      obtain ⟨old', hold', hlooks⟩ := h.component _ _ hold
      have hinputs (c : Component W α) : (c.setPhase phase).inputs = c.inputs :=
        c.table_setPhase phase .input
      refine ⟨_, by rw [hold', Option.map_some], ?_, ?_, ?_, ?_⟩
      · rw [Component.name_setPhase, Component.name_setPhase, hlooks.name]
      · exact Component.role_setPhase_congr hlooks.role phase
      · have hfeeders := hlooks.feeders
        unfold feeders at hfeeders ⊢
        rw [hinputs, hinputs]
        exact hfeeders
      · have hfeeder := hlooks.sinkFeeder
        unfold sinkFeeder feeders at hfeeder ⊢
        rw [hinputs, hinputs, Component.name_setPhase, Component.name_setPhase]
        exact hfeeder
    · rw [component?_modify_of_ne g hid] at hc
      rw [component?_modify_of_ne g' hid]
      obtain ⟨c', hc', hlooks⟩ := h.component _ _ hc
      exact ⟨c', hc', hlooks.name, hlooks.role, hlooks.feeders, hlooks.sinkFeeder⟩

theorem moved (h : g.Twin g') {cursor cursor' steps steps' : Nat} {state state' : State}
    (hcursor : cursor' = cursor) (hstate : state' = state) (hsteps : steps' = steps) :
    ({ g with cursor, state, steps } : Graph W α).Twin
      { g' with cursor := cursor', state := state', steps := steps' } where
  sinks := h.sinks
  cursor := hcursor
  state := hstate
  steps := hsteps
  count := h.count
  component id c hc := by
    obtain ⟨c', hc', hlooks⟩ := h.component id c hc
    exact ⟨c', hc', hlooks.name, hlooks.role, hlooks.feeders, hlooks.sinkFeeder⟩

theorem advance (h : g.Twin g') : g.advance.Twin g'.advance :=
  h.moved (by rw [h.cursor, h.sinks]) h.state h.steps

theorem withState (h : g.Twin g') (state : State) :
    ({ g with state } : Graph W α).Twin { g' with state } :=
  h.moved h.cursor rfl h.steps

theorem counted (h : g.Twin g') :
    ({ g with steps := g.steps + 1 } : Graph W α).Twin { g' with steps := g'.steps + 1 } :=
  h.moved h.cursor h.state (congrArg (· + 1) h.steps)

end Twin

end Graph

/-! ## Sessions side by side -/

/-- Worlds that are the same, with one thing shared; after what either session had seen before, the
same calls. -/
structure Session.Beside (same : W → W → Prop) (past past' : List (Hook W))
    (session other : Session W α) : Prop where
  scene : SameBeside same (session.world, session.shared) (other.world, other.shared)
  calls : ∃ calls, session.journal.hooks = past ++ calls ∧ other.journal.hooks = past' ++ calls

/-- One answer, something good if something was made, in sessions side by side. -/
structure MadeBeside {ε : Type} (same : W → W → Prop) (past past' : List (Hook W))
    (good : β → Prop) (made made' : Except ε β × Session W α) : Prop where
  answer : made'.1 = made.1
  session : made.2.Beside same past past' made'.2
  good : ∀ b, made.1 = .ok b → good b

/-- One answer, graphs that look alike and do not tell worlds apart, in sessions side by side. -/
structure Reply.Beside (same : W → W → Prop) (past past' : List (Hook W))
    (reply reply' : Reply W α β) : Prop where
  answer : reply'.answer = reply.answer
  twin : reply.graph.Twin reply'.graph
  blind : reply.graph.Blind same
  session : reply.session.Beside same past past' reply'.session

section

variable {same : W → W → Prop} {past past' : List (Hook W)} {session other : Session W α}

namespace Session.Beside

theorem log (h : session.Beside same past past' other) (line line' : LogLine) :
    (session.log line).Beside same past past' (other.log line') where
  scene := h.scene
  calls := by
    rw [hooks_log, hooks_log]
    exact h.calls

theorem ask (h : session.Beside same past past' other) {good : β → Prop} {act : Act (W × α) β}
    (hact : act.Blind (SameBeside same) good) (hook : Except Fault β → Hook W) :
    MadeBeside same past past' good (session.ask act hook) (other.ask act hook) := by
  obtain ⟨hanswer, hscene, hgood⟩ := hact _ _ h.scene
  obtain ⟨calls, hcalls, hcalls'⟩ := h.calls
  have hsame : (other.ask act hook).1 = (session.ask act hook).1 := hanswer
  refine ⟨hsame, ⟨hscene, calls ++ [hook (session.ask act hook).1], ?_, ?_⟩, hgood⟩
  · rw [hooks_ask, hcalls, List.append_assoc]
  · rw [hooks_ask, hcalls', hsame, List.append_assoc]

theorem tell (h : session.Beside same past past' other) {change : W × α → W × α}
    (hchange : ∀ scene other, SameBeside same scene other →
      SameBeside same (change scene) (change other)) (hook : Hook W) :
    (session.tell change hook).Beside same past past' (other.tell change hook) := by
  obtain ⟨calls, hcalls, hcalls'⟩ := h.calls
  refine ⟨hchange _ _ h.scene, calls ++ [hook], ?_, ?_⟩
  · rw [hooks_tell, hcalls, List.append_assoc]
  · rw [hooks_tell, hcalls', List.append_assoc]

end Session.Beside

theorem makeEach_beside {ι : Type} {good : β → Prop} {make make' : ι → Session W α → Made W α β}
    (items : List ι)
    (hmake : ∀ item ∈ items, ∀ session other : Session W α, session.Beside same past past' other →
      MadeBeside same past past' good (make item session) (make' item other))
    (h : session.Beside same past past' other) :
    MadeBeside same past past' (fun made => ∀ one ∈ made, good one)
      (makeEach make items session) (makeEach make' items other) := by
  induction items generalizing session other with
  | nil =>
    refine ⟨rfl, h, fun made hmade => ?_⟩
    cases hmade
    exact fun _ hone => absurd hone List.not_mem_nil
  | cons item rest ih =>
    have hfirst := hmake item List.mem_cons_self session other h
    unfold makeEach
    revert hfirst
    rcases make item session with ⟨answer, between⟩
    rcases make' item other with ⟨answer', between'⟩
    rintro ⟨hanswer, hbetween, hgood⟩
    cases hanswer
    cases answer with
    | error e => exact ⟨rfl, hbetween, fun _ hmade => by cases hmade⟩
    | ok made =>
      have hrest := ih (fun other hother => hmake other (List.mem_cons_of_mem _ hother)) hbetween
      dsimp only
      revert hrest
      rcases makeEach make rest between with ⟨answers, after⟩
      rcases makeEach make' rest between' with ⟨answers', after'⟩
      rintro ⟨hanswers, hafter, hothers⟩
      cases hanswers
      cases answers with
      | error e => exact ⟨rfl, hafter, fun _ hmade => by cases hmade⟩
      | ok others =>
        refine ⟨rfl, hafter, fun all hall => ?_⟩
        cases hall
        exact List.forall_mem_cons.mpr ⟨hgood made rfl, hothers others rfl⟩

namespace Graph

variable {g g' : Graph W α}

/-! ## The iterators -/

theorem askIterator_beside (name : String) (h : session.Beside same past past' other)
    (port : PortRef) (upstream : List (Iterator W)) {act : Act W (Iterator W)}
    (hact : act.Blind same (Iterator.Blind same)) :
    MadeBeside same past past' (Iterator.Blind same) (askIterator name port upstream act session)
      (askIterator name port upstream act other) := by
  have hask := h.ask hact.beside (.iterator port upstream)
  unfold askIterator
  revert hask
  rcases session.ask act.beside (.iterator port upstream) with ⟨answer, asked⟩
  rcases other.ask act.beside (.iterator port upstream) with ⟨answer', asked'⟩
  rintro ⟨hanswer, hasked, hgood⟩
  cases hanswer
  cases answer with
  | error fault => exact ⟨rfl, hasked, fun _ hmade => by cases hmade⟩
  | ok iterator =>
    refine ⟨rfl, hasked, fun made hmade => ?_⟩
    cases hmade
    exact hgood iterator rfl

theorem Twin.iteratorWithin_beside (hblind : g.Blind same) (htwin : g.Twin g') (depth : Nat)
    (port : PortRef) (h : session.Beside same past past' other) :
    MadeBeside same past past' (Iterator.Blind same) (g.iteratorWithin depth port session)
      (g'.iteratorWithin depth port other) := by
  -- The graphs stay as they are; what goes along the walk is that the sessions stand side by side.
  induction depth generalizing port session other with
  | zero =>
    unfold iteratorWithin
    exact ⟨by rw [htwin.nameOf], h, fun _ hmade => by cases hmade⟩
  | succ depth ih =>
    unfold iteratorWithin walk
    cases hc : g.component? port.component with
    | none =>
      rw [htwin.none hc]
      exact ⟨rfl, h, fun _ hmade => by cases hmade⟩
    | some c =>
      obtain ⟨c', hc', hlooks⟩ := htwin.component _ _ hc
      have hrole := hblind _ _ hc
      rw [hc']
      dsimp only
      rw [hlooks.role, hlooks.name]
      cases hkind : c.role with
      | source source =>
        rw [hkind] at hrole
        exact askIterator_beside c.name h port [] (hrole port.index)
      | filter filter =>
        rw [hkind] at hrole
        have hupstream :=
          makeEach_beside (g.feeders c) (fun callee _ _ _ hbeside => ih callee hbeside) h
        dsimp only
        rw [hlooks.feeders]
        revert hupstream
        rcases makeEach (g.iteratorWithin depth) (g.feeders c) session with ⟨answer, between⟩
        rcases makeEach (g'.iteratorWithin depth) (g.feeders c) other with ⟨answer', between'⟩
        rintro ⟨hanswer, hbetween, hgood⟩
        cases hanswer
        cases answer with
        | error e => exact ⟨rfl, hbetween, fun _ hmade => by cases hmade⟩
        | ok upstream =>
          exact askIterator_beside c.name hbetween port upstream
            (hrole port.index upstream (hgood upstream rfl))
      | sink sink phase => exact ⟨rfl, h, fun _ hmade => by cases hmade⟩

/-! ## The first step -/

theorem Twin.openSink_beside (hblind : g.Blind same) (htwin : g.Twin g') (id : ComponentId)
    (h : session.Beside same past past' other) :
    (g.openSink id session).Beside same past past' (g'.openSink id other) := by
  unfold openSink
  cases hc : g.component? id with
  | none =>
    rw [htwin.none hc]
    exact ⟨rfl, htwin, hblind, h⟩
  | some c =>
    obtain ⟨c', hc', hlooks⟩ := htwin.component _ _ hc
    rw [hc']
    dsimp only
    rw [hlooks.sinkFeeder]
    rcases g.sinkFeeder c with e | _ | port
    · exact ⟨rfl, htwin, hblind, h⟩
    · exact ⟨rfl, htwin, hblind, h⟩
    · have hmade := htwin.iteratorWithin_beside hblind g.componentCount port h
      dsimp only
      unfold iterator
      rw [htwin.count]
      revert hmade
      rcases g.iteratorWithin g.componentCount port session with ⟨answer, between⟩
      rcases g'.iteratorWithin g.componentCount port other with ⟨answer', between'⟩
      rintro ⟨hanswer, hbetween, hgood⟩
      cases hanswer
      cases answer with
      | error e => exact ⟨rfl, htwin, hblind, hbetween⟩
      | ok upstream =>
        exact ⟨rfl, htwin.modify_setPhase id _,
          hblind.modify_setPhase id (.reading upstream) (hgood upstream rfl), hbetween⟩

theorem Twin.openSinks_beside (hblind : g.Blind same) (htwin : g.Twin g') (ids : List ComponentId)
    (h : session.Beside same past past' other) :
    (g.openSinks ids session).Beside same past past' (g'.openSinks ids other) := by
  induction ids generalizing g g' session other with
  | nil => exact ⟨rfl, htwin, hblind, h⟩
  | cons id rest ih =>
    have hfirst := htwin.openSink_beside hblind id h
    unfold openSinks
    revert hfirst
    rcases g.openSink id session with ⟨answer, opened, between⟩
    rcases g'.openSink id other with ⟨answer', opened', between'⟩
    rintro ⟨hanswer, hopened, hstill, hbetween⟩
    cases hanswer
    cases answer with
    | error e => exact ⟨rfl, hopened, hstill, hbetween⟩
    | ok _ => exact ih hstill hopened hbetween

theorem Twin.setUpSink_beside (hblind : g.Blind same) (htwin : g.Twin g') (id : ComponentId)
    (h : session.Beside same past past' other) :
    MadeBeside same past past' (fun _ => True) (g.setUpSink id session)
      (g'.setUpSink id other) := by
  unfold setUpSink
  cases hc : g.component? id with
  | none =>
    rw [htwin.none hc]
    exact ⟨rfl, h, fun _ _ => trivial⟩
  | some c =>
    obtain ⟨c', hc', hlooks⟩ := htwin.component _ _ hc
    have hrole := hblind _ _ hc
    obtain ⟨name, _, _, _, _, role⟩ := c
    obtain ⟨_, _, _, _, _, _⟩ := c'
    cases hlooks.name
    cases hlooks.role
    rw [hc']
    cases role with
    | source | filter => exact ⟨rfl, h, fun _ _ => trivial⟩
    | sink sink phase =>
      have hask := h.ask hrole.1.setUp (.setUp id)
      dsimp only
      revert hask
      rcases session.ask sink.setUp (.setUp id) with ⟨answer, asked⟩
      rcases other.ask sink.setUp (.setUp id) with ⟨answer', asked'⟩
      rintro ⟨hanswer, hasked, -⟩
      cases hanswer
      cases answer with
      | error fault => exact ⟨rfl, hasked, fun _ _ => trivial⟩
      | ok _ => exact ⟨rfl, hasked, fun _ _ => trivial⟩

theorem Twin.configure_beside (hblind : g.Blind same) (htwin : g.Twin g')
    (h : session.Beside same past past' other) :
    (g.configure session).Beside same past past' (g'.configure other) := by
  have hopen := htwin.openSinks_beside hblind g.sinks h
  unfold configure
  rw [htwin.sinks]
  by_cases hempty : g.sinks.isEmpty
  · rw [if_pos hempty, if_pos hempty]
    exact ⟨rfl, htwin, hblind, h⟩
  · rw [if_neg hempty, if_neg hempty]
    revert hopen
    rcases g.openSinks g.sinks session with ⟨answer, opened, between⟩
    rcases g'.openSinks g.sinks other with ⟨answer', opened', between'⟩
    rintro ⟨hanswer, hopened, hstill, hbetween⟩
    cases hanswer
    cases answer with
    | error e => exact ⟨rfl, hopened, hstill, hbetween⟩
    | ok _ =>
      have hsetup := makeEach_beside opened.sinks
        (fun id _ _ _ => hopened.setUpSink_beside hstill id) hbetween
      have hsame : makeEach opened'.setUpSink opened'.sinks between' =
          makeEach opened'.setUpSink opened.sinks between' := by rw [hopened.sinks]
      dsimp only
      rw [hsame]
      revert hsetup
      rcases makeEach opened.setUpSink opened.sinks between with ⟨answer, after⟩
      rcases makeEach opened'.setUpSink opened.sinks between' with ⟨answer', after'⟩
      rintro ⟨hanswer, hafter, -⟩
      cases hanswer
      cases answer with
      | error e => exact ⟨rfl, hopened, hstill, hafter⟩
      | ok _ => exact ⟨rfl, hopened.withState .running, hstill, hafter.log _ _⟩

/-! ## Every step -/

theorem Twin.settle_beside (hblind : g.Blind same) (htwin : g.Twin g') (otherwise : Status)
    (h : session.Beside same past past' other) :
    (g.settle otherwise session).Beside same past past' (g'.settle otherwise other) := by
  unfold settle
  rw [htwin.allEnded]
  by_cases hended : g.allEnded
  · rw [if_pos hended, if_pos hended]
    exact ⟨rfl, htwin.withState .ended, hblind, h.log _ _⟩
  · rw [if_neg hended, if_neg hended]
    exact ⟨rfl, htwin, hblind, h⟩

theorem Twin.consume_beside (hblind : g.Blind same) (htwin : g.Twin g') (id : ComponentId)
    (name : String) {sink : Sink W α} {upstream : Iterator W} (hsink : sink.Blind same)
    (hupstream : upstream.Blind same) (h : session.Beside same past past' other) :
    (g.consume id name sink upstream session).Beside same past past'
      (g'.consume id name sink upstream other) := by
  have hask := h.ask (hsink.consume upstream hupstream) (.consume id upstream)
  unfold consume
  revert hask
  rcases session.ask (sink.consume upstream) (.consume id upstream) with
    ⟨answer, asked⟩
  rcases other.ask (sink.consume upstream) (.consume id upstream) with
    ⟨answer', asked'⟩
  rintro ⟨hanswer, hasked, -⟩
  cases hanswer
  rcases answer with fault | _ | _ | _
  · exact ⟨rfl, htwin, hblind, hasked⟩
  · exact ⟨rfl, htwin, hblind, hasked⟩
  · exact ⟨rfl, htwin, hblind, hasked⟩
  · exact (htwin.modify_setPhase id .ended).settle_beside
      (hblind.modify_setPhase id .ended trivial) _ (hasked.log _ _)

theorem Twin.feedWithin_beside (hblind : g.Blind same) (htwin : g.Twin g') (turns : Nat)
    (h : session.Beside same past past' other) :
    (g.feedWithin turns session).Beside same past past' (g'.feedWithin turns other) := by
  -- Both cursors pass over the same components, so the two graphs look alike at every turn.
  induction turns generalizing g g' with
  | zero => exact htwin.settle_beside hblind .again h
  | succ turns ih =>
    unfold feedWithin
    rw [htwin.sinks, htwin.cursor]
    cases g.sinks[g.cursor]? with
    | none => exact ⟨rfl, htwin, hblind, h⟩
    | some id =>
      dsimp only
      cases hc : g.component? id with
      | none =>
        rw [htwin.none hc]
        exact ⟨rfl, htwin.advance, hblind, h⟩
      | some c =>
        obtain ⟨c', hc', hlooks⟩ := htwin.component _ _ hc
        have hrole := hblind _ _ hc
        rw [hc']
        dsimp only
        rw [hlooks.role]
        cases hkind : c.role with
        | source | filter => exact ih hblind htwin.advance
        | sink sink phase =>
          rw [hkind] at hrole
          cases phase with
          | idle => exact ⟨by rw [hlooks.name], htwin.advance, hblind, h⟩
          | ended => exact ih hblind htwin.advance
          | reading upstream =>
            dsimp only
            rw [hlooks.name]
            exact htwin.advance.consume_beside (show g.advance.Blind same from hblind) id c.name
              hrole.1 hrole.2 h

theorem conclude_beside {reply reply' : Reply W α Status}
    (h : reply.Beside same past past' reply') :
    (conclude reply).Beside same past past' (conclude reply') := by
  obtain ⟨answer, g, session⟩ := reply
  obtain ⟨answer', g', other⟩ := reply'
  obtain ⟨hanswer, htwin, hblind, hsession⟩ := h
  cases hanswer
  cases answer with
  | error e => exact ⟨rfl, htwin.withState .faulted, hblind, hsession.log _ _⟩
  | ok status => exact ⟨rfl, htwin.counted, hblind, hsession.log _ _⟩

theorem Twin.feed_beside (hblind : g.Blind same) (htwin : g.Twin g')
    (h : session.Beside same past past' other) :
    (g.feed session).Beside same past past' (g'.feed other) := by
  unfold feed
  rw [htwin.sinks]
  exact htwin.feedWithin_beside hblind _ h

theorem Twin.run_beside (hblind : g.Blind same) (htwin : g.Twin g')
    (h : session.Beside same past past' other) :
    (g.run session).Beside same past past' (g'.run other) := by
  unfold run
  rw [htwin.state]
  cases g.state with
  | ended => exact ⟨rfl, htwin, hblind, h⟩
  | faulted => exact ⟨rfl, htwin, hblind, h⟩
  | running => exact conclude_beside (htwin.feed_beside hblind h)
  | configuring =>
    have hconfigure := htwin.configure_beside hblind h
    dsimp only
    revert hconfigure
    rcases g.configure session with ⟨answer, ready, opened⟩
    rcases g'.configure other with ⟨answer', ready', opened'⟩
    rintro ⟨hanswer, hready, hstill, hopened⟩
    cases hanswer
    cases answer with
    | error e => exact ⟨rfl, hready.withState .faulted, hstill, hopened.log _ _⟩
    | ok _ => exact conclude_beside (hready.feed_beside hstill hopened)

/-! ## To the end -/

structure Paired (same : W → W → Prop) (c c' : Component W α) : Prop where
  name : c'.name = c.name
  role : c'.role = c.role
  blind : c.role.Blind same

theorem tidyUpAt_beside {c c' : Component W α} (hpaired : Paired same c c')
    (h : session.Beside same past past' other) (id : ComponentId) :
    (tidyUpAt session c id).Beside same past past' (tidyUpAt other c' id) := by
  obtain ⟨hname, hrole, hblind⟩ := hpaired
  unfold tidyUpAt
  rw [hrole]
  cases hkind : c.role with
  | source | filter => exact h
  | sink sink phase =>
    rw [hkind] at hblind
    dsimp only
    rw [hname]
    exact (h.tell hblind.1.tidyUp _).log _ _

theorem tidyUpEach_beside {components components' : List (Component W α)}
    (hpaired : List.Forall₂ (Paired same) components components') (first : Nat)
    (h : session.Beside same past past' other) :
    ((components.zipIdx first).foldl (fun session (c, i) => tidyUpAt session c ⟨i⟩)
        session).Beside same past past'
      ((components'.zipIdx first).foldl (fun session (c, i) => tidyUpAt session c ⟨i⟩)
        other) := by
  induction hpaired generalizing first session other with
  | nil => exact h
  | cons hc _ ih => exact ih (first + 1) (tidyUpAt_beside hc h ⟨first⟩)

theorem Twin.paired (hblind : g.Blind same) (htwin : g.Twin g') :
    List.Forall₂ (Paired same) g.components g'.components := by
  refine List.forall₂_iff_get.mpr ⟨htwin.count.symm, fun i hi hi' => ?_⟩
  have hc : g.component? ⟨i⟩ = some g.components[i] := List.getElem?_eq_getElem hi
  obtain ⟨c', hc', hlooks⟩ := htwin.component _ _ hc
  have hget : g'.component? ⟨i⟩ = some g'.components[i] := List.getElem?_eq_getElem hi'
  cases hc'.symm.trans hget
  exact ⟨hlooks.name, hlooks.role, hblind _ _ hc⟩

theorem Twin.close_beside (hblind : g.Blind same) (htwin : g.Twin g')
    (h : session.Beside same past past' other) :
    (g.close session).Beside same past past' (g'.close other) := by
  unfold close
  rw [htwin.state]
  refine (tidyUpEach_beside (htwin.paired hblind) 0 ?_).log _ _
  split
  · exact h.log _ _
  · exact h

/-- Takes one step after the other, and before each of them the world and what is shared are
stirred; then takes the graph down. The answers of the steps, and the session after it all. -/
def liveOut (g : Graph W α) :
    List (W × α → W × α) → Session W α → List (Except GraphError Status) × Session W α
  | [], session => ([], g.close session)
  | stir :: rest, session =>
    let reply := g.run (session.stir stir)
    let later := reply.graph.liveOut rest reply.session
    (reply.answer :: later.1, later.2)

theorem Twin.liveOut_beside (hblind : g.Blind same) (htwin : g.Twin g')
    {stirs : List (W × α → W × α)}
    (hstirs : ∀ stir ∈ stirs, ∀ scene other, SameBeside same scene other →
      SameBeside same (stir scene) (stir other))
    (h : session.Beside same past past' other) :
    (g'.liveOut stirs other).1 = (g.liveOut stirs session).1 ∧
      (g.liveOut stirs session).2.Beside same past past' (g'.liveOut stirs other).2 := by
  induction stirs generalizing g g' session other with
  | nil => exact ⟨rfl, htwin.close_beside hblind h⟩
  | cons stir rest ih =>
    have hstirred : (session.stir stir).Beside same past past' (other.stir stir) :=
      ⟨hstirs stir List.mem_cons_self _ _ h.scene, h.calls⟩
    have hrun := htwin.run_beside hblind hstirred
    obtain ⟨hanswers, hlater⟩ := ih hrun.blind hrun.twin
      (fun other hother => hstirs other (List.mem_cons_of_mem _ hother)) hrun.session
    unfold liveOut
    exact ⟨congrArg₂ List.cons hrun.answer hanswers, hlater⟩

end Graph

end

end TraceFlow
