import Mathlib
import TraceFlow.Proofs.Refusals
import TraceFlow.Proofs.Topology

/-!
# Names that are taken

The sources of a context are numbered, and so are all of their names but the first. No two of them
are the same. An accepted configuration can still give the filter or the sink the name of a numbered
source: then no context can be built of that many sources.
-/

namespace TraceFlow

variable {W α : Type}

namespace Config

theorem sourceInstanceName_succ (c : Config) (i : Nat) :
    c.sourceInstanceName (i + 1) = c.sourceName ++ "-" ++ Nat.repr (i + 1) := rfl

theorem sourceInstanceName_injective (c : Config) {i j : Nat}
    (h : c.sourceInstanceName i = c.sourceInstanceName j) : i = j := by
  -- A name with a number is longer than the one without.
  have hlonger (k : Nat) : c.sourceName ≠ c.sourceName ++ "-" ++ Nat.repr (k + 1) := by
    intro hsame
    have hlength := congrArg String.length hsame
    rw [String.length_append, String.length_append] at hlength
    have : "-".length = 1 := rfl
    omega
  cases i with
  | zero =>
    cases j with
    | zero => rfl
    | succ j => exact absurd h (hlonger j)
  | succ i =>
    cases j with
    | zero => exact absurd h.symm (hlonger i)
    | succ j =>
      rw [sourceInstanceName_succ, sourceInstanceName_succ, String.append_right_inj] at h
      exact Nat.repr_inj.mp h

/-- One of the first `count` sources has the name of the filter or of the sink. -/
def Collides (c : Config) (count : Nat) : Prop :=
  ∃ i < count, c.sourceInstanceName i = c.filterName ∨ c.sourceInstanceName i = c.sinkName

instance (c : Config) (count : Nat) : Decidable (c.Collides count) :=
  inferInstanceAs (Decidable (∃ i < count, _))

end Config

namespace Builder

/-! ## What a name can be taken by -/

section

variable {g later : Graph W α} {components : List (Component W α)}
  {wires : List (PortRef × PortRef)} {session last : Session W α} {config : Config}

/-- Every component so far has the name of the source in its place. -/
def Numbered (config : Config) (components : List (Component W α)) : Prop :=
  ∀ i c, components[i]? = some c → c.name = config.sourceInstanceName i

theorem Numbered.concat (h : Numbered config components) {c : Component W α}
    (hc : c.name = config.sourceInstanceName components.length) :
    Numbered config (components ++ [c]) := by
  intro i other hi
  rcases Nat.lt_trichotomy i components.length with hlt | rfl | hgt
  · rw [List.getElem?_append_left hlt] at hi
    exact h i other hi
  · rw [List.getElem?_concat_length] at hi
    cases hi
    exact hc
  · rw [List.getElem?_eq_none (by simpa using hgt)] at hi
    cases hi

theorem Numbered.of_allRead {sources : List (Fitted W)} {cls : SourceClass W}
    {locators : List String} {start : W}
    (h : Fitted.AllRead sources config cls 0 locators start) :
    Numbered (α := α) config (sources.map (·.component cls config.logLevel)) := by
  intro i c hi
  rw [List.getElem?_map] at hi
  obtain ⟨fitted, hfitted, rfl⟩ := Option.map_eq_some_iff.mp hi
  obtain ⟨_, _, hread⟩ := h.exists_reads hfitted
  rw [Nat.zero_add] at hread
  exact hread.name

theorem Numbered.exists_of_mem (h : Numbered config components) {c : Component W α}
    (hc : c ∈ components) : ∃ i < components.length, c.name = config.sourceInstanceName i := by
  obtain ⟨i, hlt, hi⟩ := List.mem_iff_getElem.mp hc
  exact ⟨i, hlt, h i c (List.getElem?_eq_some_iff.mpr ⟨hlt, hi⟩)⟩

theorem Numbered.free (h : Numbered config components) :
    ∀ c ∈ components, c.name ≠ config.sourceInstanceName components.length := by
  intro c hc hname
  obtain ⟨i, hlt, hi⟩ := h.exists_of_mem hc
  have hsame := config.sourceInstanceName_injective (hi.symm.trans hname)
  omega

theorem sourceFails_of_addSources {cls : SourceClass W} {locators : List String} {e : TraceError}
    (h : (addSources config cls 0 locators).on .empty session = (.error e, later, last)) :
    ∃ i locator before, SourceFails config cls session.memory i locator before e := by
  obtain ⟨read, locator, rest, added, between, opened, rfl, hread, hfails⟩ := addSources_error h
  obtain ⟨sources, hall, -, -, hlaid, -⟩ := addSources_ok Graph.laid_empty hread
  rw [List.nil_append] at hlaid
  have hlength : (sources.map (·.component (α := α) cls config.logLevel)).length =
      0 + read.length := by
    rw [List.length_map, hall.count, Nat.zero_add]
  rw [← (steady_addSources config cls 0 read).memory hread]
  rcases addSource_error hlaid hlength hfails with ⟨⟨c, hc, hname⟩, -⟩ | hfails
  · have hfree := (Numbered.of_allRead (α := α) hall).free c hc
    rw [hlength] at hfree
    exact absurd hname hfree
  · exact ⟨_, _, _, hfails⟩

theorem not_collides_of_laid {sources : List (Component W α)} {filter sink : Component W α}
    (hg : g.Laid (sources ++ [filter] ++ [sink]) wires) (hnumbered : Numbered config sources)
    (hfilter : filter.name = config.filterName) (hsink : sink.name = config.sinkName) :
    ¬ config.Collides sources.length := by
  rintro ⟨i, hlt, hclash⟩
  have hname := hnumbered i _ (List.getElem?_eq_getElem hlt)
  have hmem : config.sourceInstanceName i ∈ sources.map Component.name := by
    rw [← hname]
    exact List.mem_map_of_mem (List.getElem_mem hlt)
  have hnodup := hg.nodup_names
  rw [List.append_assoc, List.map_append, List.nodup_append] at hnodup
  refine hnodup.2.2 _ hmem _ ?_ rfl
  rcases hclash with hsame | hsame
  · simp [hsame, hfilter]
  · simp [hsame, hsink]

end

theorem not_collides_of_build {builder : Builder W} {sink : Sink W α} {session opened : Session W α}
    {context : Context W α} (h : builder.build sink session = (.ok context, opened)) :
    ¬ builder.config.Collides builder.locators.length := by
  obtain ⟨blueprint, hmade, hfollows, -⟩ := follows_of_build h
  have hlength : builder.locators.length = blueprint.sources.length := by
    have htexts := congrArg List.length hmade.locators
    rw [List.length_map, List.length_map] at htexts
    rw [htexts, hmade.sources.count]
  have hnot := not_collides_of_laid hfollows.laid (.of_allRead hmade.sources) rfl rfl
  rwa [List.length_map, ← hlength] at hnot

/-- A name that is taken in a build is that of a source, and asked for by the filter or the sink. -/
theorem clash_of_assemble {builder : Builder W} (hvalid : builder.config.validate = .ok ())
    {locators : List String} {sink : Sink W α} {session last : Session W α} {later : Graph W α}
    {name taken : String}
    (h : (builder.assemble locators sink).on .empty session =
      (.error (.componentCreation name (.duplicateName taken)), later, last)) :
    taken = name ∧ (name = builder.config.filterName ∨ name = builder.config.sinkName) ∧
      ∃ i < locators.length, builder.config.sourceInstanceName i = name := by
  -- The sources have names of their own, so only the filter and the sink can find theirs taken, and
  -- the sink not by the filter.
  rw [assemble_eq_classes] at h
  rcases Assembly.error_bind h with hwork | ⟨⟨sourceClass, filterClass⟩, _, _, hwork, h₁⟩
  · rcases error_classes hwork with ⟨_, hother⟩ | ⟨_, _, hother⟩ <;> cases hother
  obtain ⟨rfl, -, -⟩ := ok_classes hwork
  rcases Assembly.error_bind h₁ with hwork | ⟨added, _, _, hwork, h₂⟩
  · obtain ⟨_, _, _, hfails⟩ := sourceFails_of_addSources hwork
    cases hfails
  obtain ⟨sources, hread, -, -, hlaid, -⟩ := addSources_ok Graph.laid_empty hwork
  rw [List.nil_append] at hlaid
  have hcount : sources.length = locators.length := hread.count
  have hnumbered := Numbered.of_allRead (α := α) hread
  rcases Assembly.error_bind h₂ with hwork | ⟨filterId, _, _, hwork, h₃⟩
  · rcases addFilter_error hlaid hwork with ⟨⟨c, hc, hname⟩, he⟩ | hfails
    · cases he
      obtain ⟨i, hlt, hi⟩ := hnumbered.exists_of_mem hc
      rw [List.length_map, hcount] at hlt
      exact ⟨rfl, .inl rfl, i, hlt, hi.symm.trans hname⟩
    · cases hfails
  obtain ⟨filter, c, -, hc, hfilterId, hlaid, -⟩ := addFilter_ok hlaid hwork
  rcases Assembly.error_bind h₃ with hwork | ⟨_, _, _, hwork, h₄⟩
  · obtain ⟨_, _, _, _, _, _, -, -, cause, -, he⟩ := wire_error hwork
    cases cause <;> cases he
  obtain ⟨hlaid, -⟩ := wire_ok hlaid (c := c) (by simp [hfilterId]) (by rw [hc]; rfl) hwork
  rcases Assembly.error_bind h₄ with hwork | ⟨sinkId, _, _, hwork, h₅⟩
  · rcases addSink_error hlaid hwork with ⟨⟨c', hc', hname⟩, he⟩ | ⟨_, -, he⟩
    all_goals
      cases he
    rcases List.mem_append.mp hc' with hsource | hfilter
    · obtain ⟨i, hlt, hi⟩ := hnumbered.exists_of_mem hsource
      rw [List.length_map, hcount] at hlt
      exact ⟨rfl, .inr rfl, i, hlt, hi.symm.trans hname⟩
    · rw [List.mem_singleton.mp hfilter, hc] at hname
      exact absurd hname (Config.validate_eq_ok_iff.mp hvalid).filter_sink
  rcases Assembly.error_bind h₅ with hwork | ⟨_, _, _, hwork, h₆⟩
  · obtain ⟨cause, -, he⟩ := Assembly.error_perform hwork
    cases cause <;> cases he
  rcases Assembly.error_bind h₆ with hwork | ⟨_, _, _, hwork, h₇⟩
  · cases hwork
  · cases hwork
    cases h₇

theorem unjoined_of_sources (cls : SourceClass W) (level : LogLevel) (sources : List (Fitted W))
    (filter : Component W α) :
    Unjoined (sources.map (·.component cls level) ++ [filter]) [] ⟨sources.length⟩ 0
      ((Fitted.outlets sources).map Prod.snd) where
  ports port hport := by
    obtain ⟨outlet, houtlet, rfl⟩ := List.mem_map.mp hport
    obtain ⟨i, hi, q, hq, hsame⟩ := Fitted.mem_outlets.mp houtlet
    have hlt := (List.getElem?_eq_some_iff.mp hi).1
    rw [hsame]
    refine ⟨rfl, fun heq => ?_, outlet.1.component cls level, ?_, ?_⟩
    · exact absurd (congrArg ComponentId.index heq) (Nat.ne_of_lt hlt)
    · change (_ ++ _)[i]? = _
      rw [List.getElem?_append_left (by simpa using hlt), List.getElem?_map, hi, Option.map_some]
    · exact Nat.lt_of_lt_of_eq hq (PortTable.size_ofCount ..).symm
  nodup := Fitted.nodup_outlets sources
  taken wire hwire := by simp at hwire

/-! ## Components that do as they are asked -/

/-- A source class under a name: its sources have one output port each, and never fail. -/
def obligingSource (name : String) : SourceClass W where
  name := name
  description := none
  instantiate _ _ := pure { outputCount := fun _ => 1, iterator := fun _ => pure ⟨pure .ended⟩ }

/-- A filter class under a name: its filters have a number of input ports, and never fail. -/
def obligingFilter (name : String) (inputs : Nat) : FilterClass W where
  name := name
  description := none
  instantiate _ _ := pure
    { inputCount := fun _ => inputs
      outputCount := fun _ => 1
      inputConnected := fun _ world => world
      iterator := fun _ _ => pure ⟨pure .ended⟩ }

def obligingPlugin (config : Config) (inputs : Nat) (name : String) : Plugin W where
  name := name
  sources := [obligingSource config.sourceClass]
  filters := [obligingFilter config.filterClass inputs]

/-- A registry that has such a plugin under every name. -/
def obliging (config : Config) (inputs : Nat) : Registry W where
  find name := pure (some (obligingPlugin config inputs name))

/-- The builder with such a registry, in which the filter has one input port per locator. -/
def obliged (builder : Builder W) : Builder W :=
  { builder with registry := obliging builder.config builder.locators.length }

theorem source?_obligingPlugin (config : Config) (inputs : Nat) (name : String) :
    (obligingPlugin (W := W) config inputs name).source? config.sourceClass =
      some (obligingSource config.sourceClass) := by
  simp [Plugin.source?, obligingPlugin, obligingSource]

theorem filter?_obligingPlugin (config : Config) (inputs : Nat) (name : String) :
    (obligingPlugin (W := W) config inputs name).filter? config.filterClass =
      some (obligingFilter config.filterClass inputs) := by
  simp [Plugin.filter?, obligingPlugin, obligingFilter]

section

variable {config : Config}

theorem ports_of_obliging {fitted : Fitted W} {name locator : String} {i : Nat} {before : W}
    (h : fitted.Reads config (obligingSource name) i locator before) : fitted.ports = 1 := by
  have hsource := Except.ok.inj (Prod.mk.inj h.instantiated).1
  rw [h.ports_eq, ← hsource]

theorem reserveAll_forComponent {memory : Memory} (hmemory : memory.Generous) (id : ComponentId)
    {inputs outputs : Nat} (hinputs : inputs * Reservation.portSize ≤ Reservation.byteLimit)
    (houtputs : outputs * Reservation.portSize ≤ Reservation.byteLimit) :
    memory.reserveAll (Reservation.forComponent id inputs outputs) = .ok () := by
  refine Memory.reserveAll_eq_ok_iff.mpr fun request hrequest => ?_
  rcases List.mem_cons.mp hrequest with rfl | hrequest
  · exact hmemory.reserve_ports id .input hinputs
  rcases List.mem_cons.mp hrequest with rfl | hrequest
  · exact hmemory.reserve_ports id .output houtputs
  · rw [List.mem_singleton.mp hrequest]
    exact hmemory.reserve_row (.inl rfl) _

theorem one_fits : 1 * Reservation.portSize ≤ Reservation.byteLimit := by decide

theorem not_sourceFails_of_obliging {memory : Memory} (hmemory : memory.Generous)
    {name locator : String} {i : Nat} {before : W} {e : TraceError} :
    ¬ SourceFails config (obligingSource name) memory i locator before e := by
  rintro (hon | ⟨hon, hroom⟩ | ⟨hon, -, hports⟩)
  · cases hon
  · cases hon
    have hnone : 0 * Reservation.portSize ≤ Reservation.byteLimit := by decide
    rw [reserveAll_forComponent hmemory _ hnone one_fits] at hroom
    cases hroom
  · cases hon
    cases hports

theorem not_filterFails_of_obliging {memory : Memory} (hmemory : memory.Generous) {name : String}
    {inputs place : Nat} {before : W} {e : TraceError}
    (hfits : inputs * Reservation.portSize ≤ Reservation.byteLimit) :
    ¬ FilterFails config (obligingFilter name inputs) memory place before e := by
  rintro (hon | ⟨hon, hroom⟩)
  · cases hon
  · cases hon
    rw [reserveAll_forComponent hmemory _ hfits one_fits] at hroom
    cases hroom

theorem room_of_obliging {sources : List (Fitted W)} {filter : Component W α} {made : Filter W}
    (cls : SourceClass W) (level : LogLevel) (hports : ∀ fitted ∈ sources, fitted.ports = 1)
    (hrole : filter.role = .filter made) (hsize : sources.length ≤ filter.inputs.size)
    (hcount : ∀ world, made.inputCount world ≤ filter.inputs.size) :
    Room (sources.map (·.component cls level) ++ [filter]) [] ⟨sources.length⟩ 0
      ((Fitted.outlets sources).map Prod.snd) where
  toUnjoined := unjoined_of_sources cls level sources filter
  host := by
    refine ⟨filter, made, by simp, hrole, ?_, hcount⟩
    have hall : Fitted.portsOf sources = sources.length := by
      unfold Fitted.portsOf
      rw [List.map_eq_replicate_iff.mpr hports, List.sum_replicate, smul_eq_mul, Nat.mul_one]
    simpa [hall] using hsize

end

theorem classes_of_obliging {builder : Builder W} {inputs : Nat}
    (h : builder.registry = obliging builder.config inputs) (g : Graph W α)
    (session : Session W α) :
    ∃ last, builder.classes.on g session =
      (.ok (obligingSource builder.config.sourceClass,
        obligingFilter builder.config.filterClass inputs), g, last) := by
  have hfind (name : String) : (builder.registry.find name).run session.world =
      (some (obligingPlugin builder.config inputs name), session.world) := by
    rw [h]
    rfl
  exact on_classes (hfind _) (hfind _) (source?_obligingPlugin ..) (filter?_obligingPlugin ..) g

/-- Where names collide, all components oblige and there is room, nothing but a name stops the
work. -/
theorem clash_of_obliging {builder : Builder W} {locators : List String} {sink : Sink W α}
    {session last : Session W α} {later : Graph W α} {e : TraceError}
    (hregistry : builder.registry = obliging builder.config locators.length)
    (hmemory : session.memory.Generous)
    (hfits : locators.length * Reservation.portSize ≤ Reservation.byteLimit)
    (hcollides : builder.config.Collides locators.length)
    (h : (builder.assemble locators sink).on .empty session = (.error e, later, last)) :
    ∃ name, e = .componentCreation name (.duplicateName name) := by
  -- Every stage before the sink either goes well or finds a name taken, and the sink must find one.
  obtain ⟨opened, hclasses⟩ := classes_of_obliging hregistry .empty session
  rw [assemble_eq_classes, Assembly.on_bind_of_ok hclasses] at h
  rw [← (steady_classes builder).memory hclasses] at hmemory
  rcases Assembly.error_bind h with hwork | ⟨added, _, _, hwork, h₁⟩
  · obtain ⟨_, _, _, hfails⟩ := sourceFails_of_addSources hwork
    exact absurd hfails (not_sourceFails_of_obliging hmemory)
  rw [← (steady_addSources _ _ _ _).memory hwork] at hmemory
  obtain ⟨sources, hread, -, hadded, hlaid, -⟩ := addSources_ok Graph.laid_empty hwork
  simp only [List.length_nil, Nat.zero_add, List.nil_append] at hadded hlaid
  have hcount : sources.length = locators.length := hread.count
  have hnumbered := Numbered.of_allRead (α := α) hread
  have hports : ∀ fitted ∈ sources, fitted.ports = 1 := by
    intro fitted hmem
    obtain ⟨i, hi⟩ := List.mem_iff_getElem?.mp hmem
    obtain ⟨_, _, hreads⟩ := hread.exists_reads hi
    exact ports_of_obliging hreads
  rcases Assembly.error_bind h₁ with hwork | ⟨filterId, _, _, hwork, h₂⟩
  · rcases addFilter_error hlaid hwork with ⟨-, he⟩ | hfails
    · exact ⟨_, he⟩
    · exact absurd hfails (not_filterFails_of_obliging hmemory hfits)
  rw [← (steady_install _ _).memory hwork] at hmemory
  obtain ⟨filter, c, hon, hc, hfilterId, hlaid, -⟩ := addFilter_ok hlaid hwork
  obtain rfl := Except.ok.inj (Prod.mk.inj hon).1
  rw [List.length_map] at hfilterId
  have hsize : c.inputs.size = locators.length := by
    rw [hc]
    exact PortTable.size_ofCount ..
  rcases Assembly.error_bind h₂ with hwork | ⟨_, _, _, hwork, h₃⟩
  · rw [hadded, flatMap_outputs, hfilterId] at hwork
    have hrole : c.role = .filter _ := congrArg Component.role hc
    have hroom := room_of_obliging (obligingSource builder.config.sourceClass)
      builder.config.logLevel hports hrole (hsize.trans hcount.symm).ge (fun _ => hsize.ge)
    have hsame : (Fitted.outlets sources).map Prod.snd =
        ((Fitted.outlets sources).map fun outlet => (outlet.1.name, outlet.2)).map Prod.snd := by
      rw [List.map_map]
      rfl
    rw [hsame] at hroom
    obtain ⟨_, _, hok⟩ := wire_of_room hlaid hroom (hmemory.reserve_row (.inr (.inl rfl)))
    cases hwork.symm.trans hok
  rw [← (steady_wire _ _ _ _).memory hwork] at hmemory
  obtain ⟨hlaid, -⟩ := wire_ok hlaid (c := c) (by simp [hfilterId]) (by rw [hc]; rfl) hwork
  rcases Assembly.error_bind h₃ with hwork | ⟨sinkId, _, _, hwork, -⟩
  · rcases addSink_error hlaid hwork with ⟨-, he⟩ | ⟨reason, hrefused, -⟩
    · exact ⟨_, he⟩
    · unfold Memory.reserveAll at hrefused
      rw [hmemory.reserve_row (.inr (.inr rfl))] at hrefused
      cases (reserveAll_forComponent hmemory _ one_fits (by decide)).symm.trans hrefused
  · obtain ⟨-, hlaid, -⟩ := addSink_ok hlaid hwork
    have hnot := not_collides_of_laid hlaid hnumbered (by rw [hc]; rfl) rfl
    rw [List.length_map, hcount] at hnot
    exact absurd hcollides hnot

/-! ## Whole builds -/

theorem clash_of_build {builder : Builder W} (hvalid : builder.config.validate = .ok ())
    {sink : Sink W α} {session last : Session W α} {name taken : String}
    (h : builder.build sink session =
      (.error (.componentCreation name (.duplicateName taken)), last)) :
    taken = name ∧ (name = builder.config.filterName ∨ name = builder.config.sinkName) ∧
      ∃ i < builder.locators.length, builder.config.sourceInstanceName i = name := by
  rcases builder.prepared_or_failed sink session with
    ⟨texts, hprepared⟩ | ⟨_, hfails⟩ | ⟨_, -, hfails⟩ | ⟨_, -, hfails⟩
  · obtain ⟨_, _, hwork⟩ := error_of_build hprepared (congrArg Prod.fst h)
    rw [← hprepared.length_eq]
    exact clash_of_assemble hvalid hwork
  · cases hfails.symm.trans h
  · cases hfails.symm.trans h
  · cases hfails.symm.trans h

theorem clash_of_obliged {builder : Builder W} (hvalid : builder.config.validate = .ok ())
    (hfits : builder.locators.length * Reservation.portSize ≤ Reservation.byteLimit)
    (htexts : ∀ locator ∈ builder.locators, (String.fromUTF8? locator).isSome)
    (hcollides : builder.config.Collides builder.locators.length) (sink : Sink W α)
    {session : Session W α} (hmemory : session.memory.Generous) :
    ∃ name last, builder.obliged.build sink session =
      (.error (.componentCreation name (.duplicateName name)), last) := by
  have hsome : builder.locators ≠ [] := by
    rintro hnone
    obtain ⟨i, hi, -⟩ := hcollides
    rw [hnone] at hi
    exact absurd hi (Nat.not_lt_zero i)
  obtain ⟨texts, hprepared⟩ : ∃ texts, builder.obliged.Prepared session.memory texts := by
    rcases texts_or_bad builder.locators with ⟨texts, hread⟩ | ⟨_, _, bad, _, hall, -, hbad⟩
    · exact ⟨texts, Checked.prepared ⟨hvalid, hsome, hread⟩ hmemory⟩
    · have hgood := htexts bad (by rw [hall]; simp)
      rw [hbad] at hgood
      cases hgood
  have hlength : texts.length = builder.locators.length := hprepared.length_eq
  rcases hwork : (builder.obliged.assemble texts sink).on .empty session with ⟨e | made, g, after⟩
  · have hregistry : builder.obliged.registry = obliging builder.obliged.config texts.length := by
      rw [hlength]
      rfl
    rw [← hlength] at hfits hcollides
    obtain ⟨name, rfl⟩ := clash_of_obliging hregistry hmemory hfits hcollides hwork
    rw [build_of_prepared hprepared, hwork]
    exact ⟨name, _, rfl⟩
  · have hbuild : builder.obliged.build sink session = (.ok made, after) := by
      rw [build_of_prepared hprepared, hwork]
    have hnot := not_collides_of_build hbuild
    exact absurd hcollides hnot

/--
A build that an accepted configuration leads to meets a taken name only where the filter or the sink
has the name of a numbered source. No context of that many sources can be built then, whatever the
registry has, and where there is room and the components oblige it is that name which stops the
build.
-/
theorem duplicateName_iff_collides {builder : Builder W}
    (hvalid : builder.config.validate = .ok ()) (sink : Sink W α) (session : Session W α) :
    (∀ name taken last,
      builder.build sink session = (.error (.componentCreation name (.duplicateName taken)), last) →
      taken = name ∧ (name = builder.config.filterName ∨ name = builder.config.sinkName) ∧
        ∃ i < builder.locators.length, builder.config.sourceInstanceName i = name) ∧
    (builder.config.Collides builder.locators.length → ∀ context last,
      builder.build sink session ≠ (.ok context, last)) ∧
    (session.memory.Generous →
      builder.locators.length * Reservation.portSize ≤ Reservation.byteLimit →
      (∀ locator ∈ builder.locators, (String.fromUTF8? locator).isSome) →
      ((∃ name taken last,
          builder.obliged.build sink session =
            (.error (.componentCreation name (.duplicateName taken)), last)) ↔
        builder.config.Collides builder.locators.length)) := by
  refine ⟨fun _ _ _ h => clash_of_build hvalid h, fun hcollides context last h => ?_,
    fun hmemory hfits htexts => ⟨?_, fun hcollides => ?_⟩⟩
  · exact not_collides_of_build h hcollides
  · rintro ⟨name, taken, last, h⟩
    have hvalid : builder.obliged.config.validate = .ok () := hvalid
    obtain ⟨-, hname, i, hi, rfl⟩ := clash_of_build hvalid h
    exact ⟨i, hi, hname⟩
  · obtain ⟨name, last, h⟩ := clash_of_obliged hvalid hfits htexts hcollides sink hmemory
    exact ⟨name, name, last, h⟩

def numbered : Builder Nat where
  registry := obliging {} 1
  locators := ["left".toUTF8, "right".toUTF8]
  config := { filterName := "input-1" }

theorem duplicateName_numbered :
    numbered.config.validate = .ok () ∧ numbered.config.Collides numbered.locators.length ∧
      (∀ context last, numbered.build Graph.cup ⟨.plain 0, .empty⟩ ≠ (.ok context, last)) ∧
      ∃ name taken last, numbered.obliged.build Graph.cup ⟨.plain 0, .empty⟩ =
        (.error (.componentCreation name (.duplicateName taken)), last) := by
  have hvalid : numbered.config.validate = .ok () := by decide +kernel
  have hcollides : numbered.config.Collides numbered.locators.length := by decide +kernel
  obtain ⟨-, hnone, hobliged⟩ := duplicateName_iff_collides hvalid Graph.cup ⟨.plain 0, .empty⟩
  exact ⟨hvalid, hcollides, hnone hcollides,
    (hobliged Memory.generous_ample (by decide +kernel) (by decide +kernel)).mpr hcollides⟩

theorem numbered_refused :
    numbered.config.validate = .ok () ∧ ∃ last, numbered.build Graph.cup ⟨.plain 0, .empty⟩ =
      (.error (.componentCreation "input-1" (.duplicateName "input-1")), last) :=
  ⟨by decide +kernel, _, rfl⟩

end Builder

end TraceFlow
