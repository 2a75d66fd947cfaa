import TraceFlow.Proofs.Adding
import TraceFlow.Proofs.Assembly

/-!
# Before there is a graph

A build first checks what it can tell without a graph, and then reserves room for the list of its
sources and for the graph. If nothing of this fails, the rest is work on an empty graph.
-/

namespace TraceFlow

variable {W α : Type}

/-- There is room for whatever a table may hold. -/
def Memory.Generous (memory : Memory) : Prop :=
  ∀ request : Reservation, request.overflows = false → memory.reserve request = .ok ()

theorem Memory.generous_ample : Memory.ample.Generous := fun _ => reserve_ample

theorem Memory.Generous.reserve_ports {memory : Memory} (h : memory.Generous) (owner : ComponentId)
    (direction : Direction) {count : Nat}
    (hfits : count * Reservation.portSize ≤ Reservation.byteLimit) :
    memory.reserve ⟨.ports owner direction, 0, count⟩ = .ok () :=
  h _ (decide_eq_false (Nat.not_lt.mpr hfits))

theorem Memory.Generous.reserve_row {memory : Memory} (h : memory.Generous) {table : Table}
    (htable : table = .components ∨ table = .connections ∨ table = .sinks) (held : Nat) :
    memory.reserve (.next table held) = .ok () := by
  rcases htable with rfl | rfl | rfl <;> exact h _ rfl

namespace Builder

/-! ## The checks -/

theorem readLocators_append {good : List ByteArray} {texts : List String}
    (h : good.map String.fromUTF8? = texts.map some) (rest : List ByteArray) :
    readLocators (good ++ rest) = (readLocators rest).map (texts ++ ·) := by
  induction good generalizing texts with
  | nil =>
    obtain rfl := List.map_eq_nil_iff.mp h.symm
    rw [List.nil_append]
    cases readLocators rest <;> rfl
  | cons locator others ih =>
    cases texts with
    | nil => cases h
    | cons text later =>
      obtain ⟨hfirst, hothers⟩ := List.cons.inj h
      simp only [List.cons_append, readLocators, hfirst, ih hothers]
      cases readLocators rest <;> rfl

theorem texts_or_bad (locators : List ByteArray) :
    (∃ texts : List String, locators.map String.fromUTF8? = texts.map some) ∨
      ∃ (texts : List String) (good : List ByteArray) (bad : ByteArray) (rest : List ByteArray),
        locators = good ++ bad :: rest ∧
        good.map String.fromUTF8? = texts.map some ∧ String.fromUTF8? bad = none := by
  induction locators with
  | nil => exact .inl ⟨[], rfl⟩
  | cons locator others ih =>
    cases htext : String.fromUTF8? locator with
    | none => exact .inr ⟨[], [], locator, others, rfl, rfl, htext⟩
    | some text =>
      rcases ih with ⟨texts, htexts⟩ | ⟨texts, good, bad, rest, rfl, hgood, hbad⟩
      · exact .inl ⟨text :: texts, by rw [List.map_cons, List.map_cons, htext, htexts]⟩
      · refine .inr ⟨text :: texts, locator :: good, bad, rest, rfl, ?_, hbad⟩
        rw [List.map_cons, List.map_cons, htext, hgood]

theorem map_fromUTF8_of_readLocators {locators : List ByteArray} {texts : List String}
    (h : readLocators locators = .ok texts) :
    locators.map String.fromUTF8? = texts.map some := by
  induction locators generalizing texts with
  | nil =>
    cases h
    rfl
  | cons locator rest ih =>
    unfold readLocators at h
    cases htext : String.fromUTF8? locator with
    | none =>
      rw [htext] at h
      cases h
    | some text =>
      rw [htext] at h
      cases hrest : readLocators rest with
      | error e =>
        rw [hrest] at h
        cases h
      | ok others =>
        rw [hrest] at h
        cases h
        rw [List.map_cons, List.map_cons, htext, ih hrest]

/-- Nothing is wrong with the configuration, and the locators are these texts. -/
structure Checked (builder : Builder W) (texts : List String) : Prop where
  config : builder.config.validate = .ok ()
  some : builder.locators ≠ []
  read : builder.locators.map String.fromUTF8? = texts.map .some

section

variable {builder : Builder W}

theorem Checked.check {texts : List String} (h : builder.Checked texts) :
    builder.check = .ok texts := by
  have hread := readLocators_append h.read []
  rw [List.append_nil] at hread
  unfold Builder.check
  rw [h.config, List.isEmpty_eq_false_iff.mpr h.some, hread]
  exact congrArg Except.ok (List.append_nil texts)

theorem check_of_invalid {e : ConfigError} (h : builder.config.validate = .error e) :
    builder.check = .error e := by
  unfold Builder.check
  rw [h]
  rfl

theorem check_of_no_locators (hconfig : builder.config.validate = .ok ())
    (h : builder.locators = []) : builder.check = .error .noInput := by
  unfold Builder.check
  rw [hconfig, h]
  rfl

theorem check_of_bad {texts : List String} {good rest : List ByteArray} {bad : ByteArray}
    (hconfig : builder.config.validate = .ok ()) (hall : builder.locators = good ++ bad :: rest)
    (hgood : good.map String.fromUTF8? = texts.map some) (hbad : String.fromUTF8? bad = none) :
    builder.check = .error (.locatorNotText bad) := by
  have hsome : builder.locators.isEmpty = false := by
    rw [hall]
    simp
  have hread : readLocators builder.locators = .error (.locatorNotText bad) := by
    rw [hall, readLocators_append hgood]
    simp only [readLocators, hbad]
    rfl
  unfold Builder.check
  rw [hconfig, hsome, hread]
  rfl

theorem Checked.of_check {texts : List String} (h : builder.check = .ok texts) :
    builder.Checked texts := by
  unfold Builder.check at h
  rcases hvalid : builder.config.validate with e | ⟨⟩
  · rw [hvalid] at h
    cases h
  · cases hempty : builder.locators.isEmpty with
    | true =>
      rw [hvalid, hempty] at h
      cases h
    | false =>
      rw [hvalid, hempty] at h
      exact ⟨hvalid, by simpa using hempty, map_fromUTF8_of_readLocators h⟩

theorem Checked.length_eq {texts : List String} (h : builder.Checked texts) :
    texts.length = builder.locators.length := by
  have htexts := congrArg List.length h.read
  rw [List.length_map, List.length_map] at htexts
  exact htexts.symm

end

/-! ## Room for the graph -/

def roomForGraph : List Reservation :=
  [.initial .components, .initial .connections]

/-- There is room, too, for the list of the sources and for a graph. -/
structure Prepared (builder : Builder W) (memory : Memory) (texts : List String) : Prop
    extends Checked builder texts where
  list : memory.reserve ⟨.sources, 0, texts.length⟩ = .ok ()
  graph : memory.reserveAll roomForGraph = .ok ()

/-- There is no room for the list of the sources, for this reason. -/
def Unlisted (builder : Builder W) (memory : Memory) (reason : String) : Prop :=
  ∃ texts, builder.Checked texts ∧ memory.reserve ⟨.sources, 0, texts.length⟩ = .error reason

theorem Checked.prepared {builder : Builder W} {memory : Memory} {texts : List String}
    (h : builder.Checked texts) (hmemory : memory.Generous) : builder.Prepared memory texts where
  toChecked := h
  list := hmemory _ rfl
  graph := Memory.reserveAll_eq_ok_iff.mpr <|
    List.forall_mem_cons.mpr ⟨hmemory _ rfl, List.forall_mem_singleton.mpr (hmemory _ rfl)⟩

theorem create_eq (memory : Memory) :
    Graph.create (W := W) (α := α) memory =
      match memory.reserveAll roomForGraph with
      | .error reason => .error (.allocation reason)
      | .ok () => .ok .empty := by
  unfold Graph.create roomForGraph
  simp only [Memory.reserveAll]
  cases memory.reserve (.initial .components) with
  | error reason => rfl
  | ok _ => cases memory.reserve (.initial .connections) <;> rfl

section

variable {builder : Builder W} {session : Session W α} {texts : List String} {reason : String}

theorem build_of_refused {e : ConfigError} (hcheck : builder.check = .error e)
    (sink : Sink W α) : builder.build sink session = (.error (.config e), session) := by
  unfold build
  rw [hcheck]

theorem build_of_no_list (hchecked : builder.Checked texts)
    (h : session.memory.reserve ⟨.sources, 0, texts.length⟩ = .error reason) (sink : Sink W α) :
    builder.build sink session = (.error (.allocationFailure reason), session) := by
  unfold build
  rw [hchecked.check]
  dsimp only
  rw [h]

theorem build_of_no_graph (hchecked : builder.Checked texts)
    (hlist : session.memory.reserve ⟨.sources, 0, texts.length⟩ = .ok ())
    (h : session.memory.reserveAll roomForGraph = .error reason) (sink : Sink W α) :
    builder.build sink session = (.error (.graphCreation (.allocation reason)), session) := by
  unfold build
  rw [hchecked.check]
  dsimp only
  rw [hlist]
  dsimp only
  rw [create_eq, h]

theorem build_of_prepared (h : builder.Prepared session.memory texts)
    (sink : Sink W α) :
    builder.build sink session =
      match (builder.assemble texts sink).on .empty session with
      | (.ok context, _, last) => (.ok context, last)
      | (.error e, g, last) => (.error e, g.close last) := by
  have hcreate : Graph.create session.memory = .ok (Graph.empty (W := W) (α := α)) := by
    rw [create_eq, h.graph]
  unfold build
  rw [h.check]
  dsimp only
  rw [h.list]
  dsimp only
  generalize Graph.create session.memory = created at hcreate ⊢
  subst hcreate
  rfl

/-- Either all is prepared, or the build has failed and has touched nothing. -/
theorem prepared_or_failed (builder : Builder W) (sink : Sink W α) (session : Session W α) :
    (∃ texts, builder.Prepared session.memory texts) ∨
    (∃ e, builder.build sink session = (.error (.config e), session)) ∨
    (∃ reason, builder.Unlisted session.memory reason ∧
      builder.build sink session = (.error (.allocationFailure reason), session)) ∨
    ∃ reason, session.memory.reserveAll roomForGraph = .error reason ∧
      builder.build sink session = (.error (.graphCreation (.allocation reason)), session) := by
  rcases hcheck : builder.check with e | texts
  · exact .inr (.inl ⟨e, build_of_refused hcheck sink⟩)
  have hchecked := Checked.of_check hcheck
  rcases hlist : session.memory.reserve ⟨.sources, 0, texts.length⟩ with reason | ⟨⟩
  · exact .inr (.inr (.inl ⟨reason, ⟨texts, hchecked, hlist⟩,
      build_of_no_list hchecked hlist sink⟩))
  rcases hgraph : session.memory.reserveAll roomForGraph with reason | ⟨⟩
  · exact .inr (.inr (.inr ⟨reason, rfl, build_of_no_graph hchecked hlist hgraph sink⟩))
  · exact .inl ⟨texts, hchecked, hlist, hgraph⟩

theorem build_ok {sink : Sink W α} {opened : Session W α} {context : Context W α}
    (h : builder.build sink session = (.ok context, opened)) :
    ∃ texts later, builder.Prepared session.memory texts ∧
      (builder.assemble texts sink).on .empty session = (.ok context, later, opened) := by
  rcases builder.prepared_or_failed sink session with
    ⟨texts, hprepared⟩ | ⟨_, hfails⟩ | ⟨_, -, hfails⟩ | ⟨_, -, hfails⟩
  · rw [build_of_prepared hprepared] at h
    split at h
    · next hwork =>
      cases h
      exact ⟨texts, _, hprepared, hwork⟩
    · cases h
  · cases hfails.symm.trans h
  · cases hfails.symm.trans h
  · cases hfails.symm.trans h

theorem error_of_build (hprepared : builder.Prepared session.memory texts) {sink : Sink W α}
    {e : TraceError} (h : (builder.build sink session).1 = .error e) :
    ∃ later last, (builder.assemble texts sink).on .empty session = (.error e, later, last) := by
  rw [build_of_prepared hprepared] at h
  split at h
  · cases h
  · next hwork =>
    cases h
    exact ⟨_, _, hwork⟩

end

end Builder

end TraceFlow
