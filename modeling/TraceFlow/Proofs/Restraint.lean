import TraceFlow.Proofs.Outcome

/-!
# A build that fails does no more than it got to

A build either goes well at all its stages or fails at one of them. Where it fails decides what was
called: nothing before the checks are passed, no class before all classes are there, and no sink but
the one whose connection was refused.
-/

namespace TraceFlow

variable {W α : Type}

namespace Builder

/-! ## Every build fails at a stage or goes well -/

theorem reads_or_fails (config : Config) (cls : SourceClass W) (memory : Memory) (index : Nat)
    (locator : String) (before : W) :
    (∃ fitted : Fitted W, fitted.Reads config cls index locator before ∧
      memory.reserveAll (Reservation.forComponent ⟨index⟩ 0 fitted.ports) = .ok ()) ∨
    ∃ e, SourceFails config cls memory index locator before e := by
  rcases hon : (cls.instantiate (sourceParams config locator) config.logLevel).on before with
    ⟨fault | source, after⟩
  · exact .inr ⟨_, .instantiation hon⟩
  · rcases hroom : memory.reserveAll
      (Reservation.forComponent ⟨index⟩ 0 (source.outputCount after)) with reason | ⟨⟩
    · exact .inr ⟨_, .allocation hon hroom⟩
    · rcases Nat.eq_zero_or_pos (source.outputCount after) with hnone | hsome
      · exact .inr ⟨_, .noOutputPorts hon hroom hnone⟩
      · exact .inl ⟨⟨config.sourceInstanceName index, source, _, after⟩,
          ⟨rfl, hon, rfl, hsome⟩, hroom⟩

theorem yields_or_fails (config : Config) (cls : SourceClass W) (memory : Memory) (first : Nat)
    (texts : List String) (before : W) :
    (∃ sources after, Yields config cls memory first texts before sources after) ∨
    ∃ read locator rest sources now e, texts = read ++ locator :: rest ∧
      Yields config cls memory first read before sources now ∧
      SourceFails config cls memory (first + read.length) locator now e := by
  induction texts generalizing first before with
  | nil => exact .inl ⟨[], before, .nil⟩
  | cons locator others ih =>
    rcases reads_or_fails config cls memory first locator before with
      ⟨fitted, hreads, hroom⟩ | ⟨e, h⟩
    · rcases ih (first + 1) fitted.world with
        ⟨sources, after, h⟩ | ⟨read, bad, rest, sources, now, e, rfl, hyields, h⟩
      · exact .inl ⟨_, _, .cons hreads hroom h⟩
      · refine .inr ⟨locator :: read, bad, rest, _, now, e, rfl, .cons hreads hroom hyields, ?_⟩
        rw [List.length_cons, Nat.add_comm read.length, ← Nat.add_assoc]
        exact h
    · exact .inr ⟨[], locator, others, [], before, e, rfl, .nil, h⟩

theorem yieldsFilter_or_fails (config : Config) (cls : FilterClass W) (memory : Memory)
    (place : Nat) (before : W) :
    (∃ filter inputs outputs after,
      YieldsFilter config cls memory place before filter inputs outputs after) ∨
    ∃ e, FilterFails config cls memory place before e := by
  rcases hon : (cls.instantiate ∅ config.logLevel).on before with ⟨fault | filter, after⟩
  · exact .inr ⟨_, .instantiation hon⟩
  · rcases hroom : memory.reserveAll (Reservation.forComponent ⟨place⟩ (filter.inputCount after)
      (filter.outputCount after)) with reason | ⟨⟩
    · exact .inr ⟨_, .allocation hon hroom⟩
    · exact .inl ⟨filter, _, _, after, hon, rfl, rfl, hroom⟩

theorem takes_or_stops (memory : Memory) (id : ComponentId) (filter : Filter W) (input size : Nat)
    (before : W) (count : Nat) :
    (∃ size' after, Takes memory id filter input size before count size' after) ∨
    ∃ k < count, ∃ size' after, Takes memory id filter input size before k size' after ∧
      (size' ≤ input + k ∨ input + k < size' ∧
        ((∃ reason, memory.reserve (.next .connections (input + k)) = .error reason) ∨
          memory.reserve (.next .connections (input + k)) = .ok () ∧
          ∃ reason,
            memory.reserve (growth id filter size' (input + k) after) = .error reason)) := by
  induction count generalizing input size before with
  | zero => exact .inl ⟨size, before, .nil⟩
  | succ count ih =>
    rcases Nat.lt_or_ge input size with hport | hmissing
    · rcases hrow : memory.reserve (.next .connections input) with reason | ⟨⟩
      · exact .inr ⟨0, count.succ_pos, size, before, .nil, .inr ⟨hport, .inl ⟨reason, hrow⟩⟩⟩
      rcases hroom : memory.reserve (growth id filter size input before) with reason | ⟨⟩
      · exact .inr ⟨0, count.succ_pos, size, before, .nil,
          .inr ⟨hport, .inr ⟨hrow, reason, hroom⟩⟩⟩
      rcases ih (input + 1) (max size (asksFor filter input before))
        (filter.inputConnected input before) with
        ⟨size', after, h⟩ | ⟨k, hk, size', after, htakes, h⟩
      · exact .inl ⟨size', after, .cons hport hrow hroom h⟩
      · refine .inr ⟨k + 1, Nat.succ_lt_succ hk, size', after, .cons hport hrow hroom htakes, ?_⟩
        rw [Nat.add_comm k, ← Nat.add_assoc]
        exact h
    · exact .inr ⟨0, count.succ_pos, size, before, .nil, .inl hmissing⟩

theorem exists_split_at {β : Type} {items : List β} {k : Nat} (hk : k < items.length) :
    ∃ before after, items = before ++ items[k] :: after ∧ before.length = k := by
  refine ⟨items.take k, items.drop (k + 1), ?_, List.length_take_of_le hk.le⟩
  rw [← List.drop_eq_getElem_cons hk, List.take_append_drop]

section

variable (builder : Builder W) (memory : Memory) (start : W)

theorem fails_or_prepared :
    (∃ stage e calls, builder.Fails memory start stage e calls) ∨
    ∃ texts, builder.Prepared memory texts := by
  rcases hconfig : builder.config.validate with e | ⟨⟩
  · exact .inl ⟨_, _, _, .config hconfig⟩
  by_cases hnone : builder.locators = []
  · exact .inl ⟨_, _, _, .inputs hconfig hnone⟩
  rcases texts_or_bad builder.locators with
    ⟨texts, htexts⟩ | ⟨texts, good, bad, rest, hall, hgood, hbad⟩
  · have hchecked : builder.Checked texts := ⟨hconfig, hnone, htexts⟩
    rcases hlist : memory.reserve ⟨.sources, 0, texts.length⟩ with reason | ⟨⟩
    · exact .inl ⟨_, _, _, .list hchecked hlist⟩
    rcases hgraph : memory.reserveAll roomForGraph with reason | ⟨⟩
    · exact .inl ⟨_, _, _, .graph hchecked hlist hgraph⟩
    · exact .inr ⟨texts, hchecked, hlist, hgraph⟩
  · exact .inl ⟨_, _, _, .locators hconfig hall hgood hbad⟩

theorem fails_or_equipped :
    (∃ stage e calls, builder.Fails memory start stage e calls) ∨
    ∃ texts cls filterClass world,
      builder.Equipped memory start texts cls filterClass world := by
  rcases builder.fails_or_prepared memory start with h | ⟨texts, hprepared⟩
  · exact .inl h
  rcases hsource : (builder.registry.find builder.config.sourcePlugin).run start with
    ⟨_ | sources, between⟩
  · exact .inl ⟨_, _, _, .sourcePlugin hprepared hsource⟩
  rcases hfilter : (builder.registry.find builder.config.filterPlugin).run between with
    ⟨_ | filters, world⟩
  · exact .inl ⟨_, _, _, .filterPlugin hprepared hsource hfilter⟩
  have hlooked : builder.Looked start sources filters world := ⟨between, hsource, hfilter⟩
  cases hcls : sources.source? builder.config.sourceClass with
  | none => exact .inl ⟨_, _, _, .sourceClass hprepared hlooked hcls⟩
  | some cls =>
    cases hfilterClass : filters.filter? builder.config.filterClass with
    | none => exact .inl ⟨_, _, _, .filterClass hprepared hlooked hcls hfilterClass⟩
    | some filterClass =>
      exact .inr ⟨texts, cls, filterClass, world, hprepared,
        ⟨sources, filters, hlooked, hcls, hfilterClass⟩⟩

theorem fails_or_furnished :
    (∃ stage e calls, builder.Fails memory start stage e calls) ∨
    ∃ blueprint now, builder.Furnished memory start blueprint now := by
  rcases builder.fails_or_equipped memory start with h | ⟨texts, cls, filterClass, world, hequipped⟩
  · exact .inl h
  rcases yields_or_fails builder.config cls memory 0 texts world with
    ⟨sources, between, hyields⟩ | ⟨read, locator, rest, sources, now, e, rfl, hyields, h⟩
  · by_cases hfree : Taken builder.config builder.config.filterName texts.length
    · exact .inl ⟨_, _, _, .filterName hequipped hyields hfree⟩
    rcases yieldsFilter_or_fails builder.config filterClass memory texts.length between with
      ⟨filter, inputs, outputs, now, hfilter⟩ | ⟨e, h⟩
    · refine .inr ⟨{
        locators := texts, sourceClass := cls, filterClass, world, sources, filter, inputs
        outputs }, now, hequipped, ⟨between, hyields, hfilter⟩, hfree⟩
    · exact .inl ⟨_, _, _, .filter hequipped hyields hfree h⟩
  · rw [Nat.zero_add] at h
    exact .inl ⟨_, _, _, .source hequipped hyields h⟩

theorem fails_or_piped :
    (∃ stage e calls, builder.Fails memory start stage e calls) ∨
    ∃ blueprint, builder.Piped memory start blueprint := by
  rcases builder.fails_or_furnished memory start with h | ⟨blueprint, now, hfurnished⟩
  · exact .inl h
  rcases takes_or_stops memory blueprint.filterId blueprint.filter 0 blueprint.inputs now
    blueprint.outlets.length with ⟨size, after, htakes⟩ | ⟨k, hk, size, after, htakes, h⟩
  · exact .inr ⟨blueprint, now, size, after, hfurnished, htakes⟩
  · have hlt : k < (Fitted.outlets blueprint.sources).length := by
      rwa [Blueprint.outlets, List.length_map] at hk
    obtain ⟨joined, rest, hall, rfl⟩ := exists_split_at hlt
    rw [Nat.zero_add] at h
    rcases h with hmissing | ⟨hport, ⟨reason, hrow⟩ | ⟨hrow, reason, hroom⟩⟩
    · exact .inl ⟨_, _, _, .portMissing hfurnished hall htakes hmissing⟩
    · exact .inl ⟨_, _, _, .rowRefused hfurnished hall htakes hport hrow⟩
    · exact .inl ⟨_, _, _, .overgrown hfurnished hall htakes hport hrow hroom⟩

theorem fails_or_succeeds :
    (∃ stage e calls, builder.Fails memory start stage e calls) ∨
    ∃ blueprint, builder.Succeeds memory start blueprint := by
  rcases builder.fails_or_piped memory start with h | ⟨blueprint, hpiped⟩
  · exact .inl h
  by_cases hfree : Taken builder.config builder.config.sinkName blueprint.locators.length
  · exact .inl ⟨_, _, _, .sinkName hpiped hfree⟩
  rcases hroom : memory.reserveAll (roomForSink blueprint) with reason | ⟨⟩
  · exact .inl ⟨_, _, _, .sinkRefused hpiped hfree hroom⟩
  by_cases hnone : blueprint.outputs = 0
  · exact .inl ⟨_, _, _, .join hpiped hfree hroom hnone⟩
  rcases hrow : memory.reserve (.next .connections blueprint.outlets.length) with reason | ⟨⟩
  · exact .inl ⟨_, _, _, .joinRefused hpiped hfree hroom hnone hrow⟩
  · exact .inr ⟨blueprint, hpiped, hfree, hroom, hnone, hrow⟩

end

/-! ## A build does as its stages say -/

section

variable {builder : Builder W} {session : Session W α} {stage : Stage} {e : TraceError}
  {calls : List (Hook W)}

theorem build_of_stops {texts : List String} (hprepared : builder.Prepared session.memory texts)
    {sink : Sink W α} (h : Stops (builder.assemble texts sink) .empty session e calls) :
    ∃ last, builder.build sink session = (.error e, last) ∧
      last.journal.hooks = session.journal.hooks ++ calls := by
  obtain ⟨later, last, hwork, hhooks⟩ := h
  refine ⟨later.close last, ?_, hhooks⟩
  rw [build_of_prepared hprepared, hwork]

theorem hooks_of_untouched (h : builder.build sink session = (.error e, session)) :
    ∃ last, builder.build sink session = (.error e, last) ∧
      last.journal.hooks = session.journal.hooks ++ [] :=
  ⟨session, h, (List.append_nil _).symm⟩

theorem build_of_fails (h : builder.Fails session.memory session.world stage e calls)
    (sink : Sink W α) :
    ∃ last, builder.build sink session = (.error e, last) ∧
      last.journal.hooks = session.journal.hooks ++ calls := by
  cases h with
  | config h => exact hooks_of_untouched (build_of_refused (check_of_invalid h) sink)
  | inputs hconfig h =>
    exact hooks_of_untouched (build_of_refused (check_of_no_locators hconfig h) sink)
  | locators hconfig hall hgood hbad =>
    exact hooks_of_untouched (build_of_refused (check_of_bad hconfig hall hgood hbad) sink)
  | list hchecked h => exact hooks_of_untouched (build_of_no_list hchecked h sink)
  | graph hchecked hlist h => exact hooks_of_untouched (build_of_no_graph hchecked hlist h sink)
  | sourcePlugin hprepared h => exact build_of_stops hprepared (stops_of_no_sourcePlugin h _ sink)
  | filterPlugin hprepared hsource h =>
    exact build_of_stops hprepared (stops_of_no_filterPlugin hsource h _ sink)
  | sourceClass hprepared hlooked h =>
    exact build_of_stops hprepared (stops_of_no_sourceClass hlooked h _ sink)
  | filterClass hprepared hlooked hsource h =>
    exact build_of_stops hprepared (stops_of_no_filterClass hlooked hsource h _ sink)
  | source hequipped hyields h =>
    exact build_of_stops hequipped.prepared (stops_of_sourceFails hequipped hyields h sink)
  | filterName hequipped hyields h =>
    exact build_of_stops hequipped.prepared (stops_of_filterName hequipped hyields h sink)
  | filter hequipped hyields hfree h =>
    exact build_of_stops hequipped.prepared (stops_of_filterFails hequipped hyields hfree h sink)
  | portMissing hfurnished hall htakes h =>
    exact build_of_stops hfurnished.equipped.prepared
      (stops_of_portMissing hfurnished hall htakes h sink)
  | rowRefused hfurnished hall htakes hport h =>
    exact build_of_stops hfurnished.equipped.prepared
      (stops_of_rowRefused hfurnished hall htakes hport h sink)
  | overgrown hfurnished hall htakes hport hrow h =>
    exact build_of_stops hfurnished.equipped.prepared
      (stops_of_overgrown hfurnished hall htakes hport hrow h sink)
  | sinkName hpiped h => exact build_of_stops hpiped.prepared (stops_of_sinkName hpiped h sink)
  | sinkRefused hpiped hfree h =>
    exact build_of_stops hpiped.prepared (stops_of_sinkRefused hpiped hfree h sink)
  | join hpiped hfree hroom h =>
    exact build_of_stops hpiped.prepared (stops_of_join hpiped hfree hroom h sink)
  | joinRefused hpiped hfree hroom houtputs h =>
    exact build_of_stops hpiped.prepared
      (stops_of_joinRefused hpiped hfree hroom houtputs h sink)

theorem build_of_succeeds {blueprint : Blueprint W}
    (h : builder.Succeeds session.memory session.world blueprint) (sink : Sink W α) :
    ∃ context last, builder.build sink session = (.ok context, last) := by
  obtain ⟨context, later, last, hwork⟩ := assemble_of_succeeds h sink
  refine ⟨context, last, ?_⟩
  rw [build_of_prepared h.piped.prepared, hwork]

theorem fails_of_build {sink : Sink W α} {last : Session W α}
    (h : builder.build sink session = (.error e, last)) :
    ∃ stage calls, builder.Fails session.memory session.world stage e calls ∧
      last.journal.hooks = session.journal.hooks ++ calls := by
  rcases builder.fails_or_succeeds session.memory session.world with
    ⟨stage, e', calls, hfails⟩ | ⟨blueprint, hok⟩
  · obtain ⟨last', hbuild, hhooks⟩ := build_of_fails hfails sink
    cases h.symm.trans hbuild
    exact ⟨stage, calls, hfails, hhooks⟩
  · obtain ⟨context, last', hbuild⟩ := build_of_succeeds hok sink
    cases h.symm.trans hbuild

end

/-! ## What has been called by then -/

def Stage.isCheck : Stage → Bool
  | .config | .inputs | .locators | .list | .graph => true
  | _ => false

def Stage.isLookup : Stage → Bool
  | .sourcePlugin | .filterPlugin | .sourceClass | .filterClass => true
  | _ => false

end Builder

def Hook.instantiates : Hook W → Bool
  | .instantiate .. => true
  | _ => false

/-- A call by which components are made and joined, and none by which they run. -/
def Hook.builds : Hook W → Bool
  | .findPlugin _ | .instantiate .. | .inputConnected .. => true
  | _ => false

theorem Hook.request?_of_builds {hook : Hook W} (h : hook.builds) : hook.request? = none := by
  cases hook <;> first | rfl | cases h

theorem sinkCalls_of_builds {calls : List (Hook W)} (h : ∀ hook ∈ calls, hook.builds) :
    sinkCalls calls = [] := by
  refine List.filter_eq_nil_iff.mpr fun hook hhook => ?_
  have hbuilds := h hook hhook
  cases hook <;> first | exact Bool.false_ne_true | cases hbuilds

namespace Builder

/-- What a build has done and not done when it fails. -/
structure Restrained (config : Config) (memory : Memory) (stage : Stage) (e : TraceError)
    (calls : List (Hook W)) : Prop where
  /-- The checks call nothing. -/
  checks : stage.isCheck → calls = []
  /-- Where a plugin or a class is missing, plugins have been looked up and nothing else. -/
  lookups : stage.isLookup → ∀ hook ∈ calls, ∃ plugin, hook = .findPlugin plugin
  /-- A source that fails is the last thing that was instantiated, and no port has been joined. It
  never fails because its name was taken. -/
  source : ∀ i, stage = .source i → calls.countP Hook.instantiates = i + 1 ∧
    (∀ filter input, .inputConnected filter input ∉ calls) ∧
    ∀ name taken, e ≠ .componentCreation name (.duplicateName taken)
  /-- No component was asked for an iterator. -/
  requests : ∀ hook ∈ calls, hook.request? = none
  /-- The sink is tidied up once if its connection failed, and otherwise it is not called. The error
  tells which it is, unless there was no room for the connection. -/
  sink :
    (stage = .join ∧ (∃ id, sinkCalls calls = [.tidyUp id]) ∧
      ((∃ cause, e = .portConnection config.filterName config.sinkName cause) ∨
        ∃ held reason, memory.reserve (.next .connections held) = .error reason ∧
          e = .allocationFailure reason)) ∨
    (stage ≠ .join ∧ sinkCalls calls = [] ∧
      ∀ cause, e ≠ .portConnection config.filterName config.sinkName cause)

section

variable {config : Config} {cls : SourceClass W} {texts : List String}

theorem mem_lookups {hook : Hook W} (h : hook ∈ lookups config) :
    ∃ plugin, hook = .findPlugin plugin := by
  rcases List.mem_cons.mp h with rfl | h
  · exact ⟨_, rfl⟩
  · exact ⟨_, List.mem_singleton.mp h⟩

theorem mem_sourced {hook : Hook W} (h : hook ∈ sourced config cls texts) :
    (∃ plugin, hook = .findPlugin plugin) ∨
      ∃ className params level, hook = .instantiate className params level := by
  rcases List.mem_append.mp h with hlookup | hsource
  · exact .inl (mem_lookups hlookup)
  · obtain ⟨locator, -, rfl⟩ := List.mem_map.mp hsource
    exact .inr ⟨_, _, _, rfl⟩

theorem builds_of_mem_sourced {hook : Hook W} (h : hook ∈ sourced config cls texts) :
    hook.builds := by
  rcases mem_sourced h with ⟨_, rfl⟩ | ⟨_, _, _, rfl⟩ <;> rfl

theorem builds_of_mem_told {blueprint : Blueprint W} {count : Nat} {hook : Hook W}
    (h : hook ∈ told config blueprint count) : hook.builds := by
  rcases List.mem_append.mp h with hfurnished | htold
  · rcases List.mem_append.mp hfurnished with hsourced | hfilter
    · exact builds_of_mem_sourced hsourced
    · rw [List.mem_singleton.mp hfilter]
      rfl
  · obtain ⟨input, -, rfl⟩ := List.mem_map.mp htold
    rfl

theorem countP_sourced (config : Config) (cls : SourceClass W) (texts : List String) :
    (sourced config cls texts).countP Hook.instantiates = texts.length := by
  have hall : ∀ locator ∈ texts, (Hook.instantiates ∘ sourceCall config cls) locator = true :=
    fun _ _ => rfl
  rw [sourced, List.countP_append, List.countP_map, List.countP_eq_length.mpr hall]
  exact Nat.zero_add _

end

section

variable {builder : Builder W} {memory : Memory} {start : W} {stage : Stage} {e : TraceError}
  {calls : List (Hook W)}

theorem Restrained.of_builds (hjoin : stage ≠ .join) (hchecks : stage.isCheck → calls = [])
    (hlookups : stage.isLookup → ∀ hook ∈ calls, ∃ plugin, hook = .findPlugin plugin)
    (hsource : ∀ i, stage = .source i → calls.countP Hook.instantiates = i + 1 ∧
      (∀ filter input, .inputConnected filter input ∉ calls) ∧
      ∀ name taken, e ≠ .componentCreation name (.duplicateName taken))
    (hbuilds : ∀ hook ∈ calls, hook.builds)
    (he : ∀ cause, e ≠ .portConnection builder.config.filterName builder.config.sinkName cause) :
    Restrained builder.config memory stage e calls where
  checks := hchecks
  lookups := hlookups
  source := hsource
  requests hook hhook := Hook.request?_of_builds (hbuilds hook hhook)
  sink := .inr ⟨hjoin, sinkCalls_of_builds hbuilds, he⟩

/-- A build that fails when the sink has to be joined tidies it up, and has called no more. -/
theorem Restrained.of_join {config : Config} {blueprint : Blueprint W} {count : Nat}
    (h : (∃ cause, e = .portConnection config.filterName config.sinkName cause) ∨
      ∃ held reason, memory.reserve (.next .connections held) = .error reason ∧
        e = .allocationFailure reason) :
    Restrained config memory .join e
      (told config blueprint count ++ [.tidyUp blueprint.sinkId]) where
  checks := nofun
  lookups := nofun
  source := nofun
  requests hook hhook := by
    rcases List.mem_append.mp hhook with htold | htidied
    · exact Hook.request?_of_builds (builds_of_mem_told htold)
    · rw [List.mem_singleton.mp htidied]
      rfl
  sink := by
    refine .inl ⟨rfl, ⟨blueprint.sinkId, ?_⟩, h⟩
    rw [sinkCalls_append, sinkCalls_of_builds fun _ => builds_of_mem_told]
    rfl

theorem SourceFails.ne_portConnection {config : Config} {cls : SourceClass W} {index : Nat}
    {locator : String} {before : W} (h : SourceFails config cls memory index locator before e)
    (upstream downstream : String) (cause : GraphError) :
    e ≠ .portConnection upstream downstream cause := by
  cases h <;> exact nofun

theorem SourceFails.ne_duplicateName {config : Config} {cls : SourceClass W} {index : Nat}
    {locator : String} {before : W} (h : SourceFails config cls memory index locator before e)
    (name taken : String) : e ≠ .componentCreation name (.duplicateName taken) := by
  rintro rfl
  exact h.not_ofTakenName ⟨taken, rfl⟩

theorem FilterFails.ne_portConnection {config : Config} {cls : FilterClass W} {place : Nat}
    {before : W} (h : FilterFails config cls memory place before e)
    (upstream downstream : String) (cause : GraphError) :
    e ≠ .portConnection upstream downstream cause := by
  cases h <;> exact nofun

theorem restrained_of_fails (h : builder.Fails memory start stage e calls) :
    Restrained builder.config memory stage e calls := by
  cases h with
  | config | inputs | locators | list | graph =>
    exact .of_builds nofun (fun _ => rfl) (fun _ _ h => absurd h List.not_mem_nil) nofun
      (fun _ h => absurd h List.not_mem_nil) nofun
  | sourcePlugin =>
    have hall (hook : Hook W) (h : hook ∈ [.findPlugin builder.config.sourcePlugin]) :
        ∃ plugin, hook = .findPlugin plugin := ⟨_, List.mem_singleton.mp h⟩
    refine .of_builds nofun nofun (fun _ => hall) nofun (fun hook hhook => ?_) nofun
    obtain ⟨_, rfl⟩ := hall hook hhook
    rfl
  | filterPlugin | sourceClass | filterClass =>
    refine .of_builds nofun nofun (fun _ _ => mem_lookups) nofun (fun hook hhook => ?_) nofun
    obtain ⟨_, rfl⟩ := mem_lookups hhook
    rfl
  | @source read rest locator cls _ _ _ _ _ hequipped hyields h =>
    refine .of_builds nofun nofun nofun ?_ (fun _ => builds_of_mem_sourced)
      (h.ne_portConnection _ _)
    intro i hi
    obtain rfl := Stage.source.inj hi
    refine ⟨?_, fun filter input hmem => ?_, h.ne_duplicateName⟩
    · rw [countP_sourced, List.length_append, List.length_singleton]
    · rcases mem_sourced hmem with ⟨_, hsame⟩ | ⟨_, _, _, hsame⟩ <;> cases hsame
  | filterName => exact .of_builds nofun nofun nofun nofun (fun _ => builds_of_mem_sourced) nofun
  | filter hequipped hyields hfree h =>
    refine .of_builds nofun nofun nofun nofun (fun hook hhook => ?_) (h.ne_portConnection _ _)
    rcases List.mem_append.mp hhook with hsourced | hfilter
    · exact builds_of_mem_sourced hsourced
    · rw [List.mem_singleton.mp hfilter]
      rfl
  | portMissing hfurnished =>
    -- This connection is refused as well, but it leads to the filter and not to the sink.
    refine .of_builds nofun nofun nofun nofun (fun _ => builds_of_mem_told) fun cause hsame => ?_
    exact (Config.validate_eq_ok_iff.mp hfurnished.equipped.prepared.config).filter_sink
      (TraceError.portConnection.inj hsame).2.1
  | rowRefused | overgrown | sinkName | sinkRefused =>
    exact .of_builds nofun nofun nofun nofun (fun _ => builds_of_mem_told) nofun
  | join => exact .of_join (.inl ⟨_, rfl⟩)
  | joinRefused _ _ _ _ hrow => exact .of_join (.inr ⟨_, _, hrow, rfl⟩)

/-- Unless there is no room for a connection, it is the error that tells whether the sink was
called. -/
theorem Restrained.tidied_up_iff {config : Config}
    (h : Restrained config memory stage e calls)
    (hrows : ∀ held, memory.reserve (.next .connections held) = .ok ()) :
    ((∃ cause, e = .portConnection config.filterName config.sinkName cause) ∧
      ∃ id, sinkCalls calls = [.tidyUp id]) ∨
    ((∀ cause, e ≠ .portConnection config.filterName config.sinkName cause) ∧
      sinkCalls calls = []) := by
  rcases h.sink with ⟨-, htidied, hjoin | ⟨held, reason, hrow, -⟩⟩ | ⟨-, hnone, he⟩
  · exact .inl ⟨hjoin, htidied⟩
  · cases (hrows held).symm.trans hrow
  · exact .inr ⟨he, hnone⟩

end

/--
A build fails exactly where its stages say, with the error of the first stage that fails, and the
calls until then are all that was made. A failed check calls nothing and a missing plugin or class
instantiates nothing. A source that fails is the last thing that was instantiated, and no port has
been joined. Nothing runs, and the sink is called only if its own connection failed: it is tidied
up. If there is room for every connection, then this is so exactly if the error says that the filter
and the sink could not be joined.
-/
theorem failing_build (builder : Builder W) (sink : Sink W α) (session : Session W α) :
    (∀ e last, builder.build sink session = (.error e, last) →
      ∃ stage calls, builder.Fails session.memory session.world stage e calls ∧
        last.journal.hooks = session.journal.hooks ++ calls) ∧
    ∀ stage e calls, builder.Fails session.memory session.world stage e calls →
      (∃ last, builder.build sink session = (.error e, last) ∧
        last.journal.hooks = session.journal.hooks ++ calls) ∧
      Restrained builder.config session.memory stage e calls ∧
      ((∀ held, session.memory.reserve (.next .connections held) = .ok ()) →
        ((∃ cause, e = .portConnection builder.config.filterName builder.config.sinkName cause) ∧
          ∃ id, sinkCalls calls = [.tidyUp id]) ∨
        ((∀ cause,
            e ≠ .portConnection builder.config.filterName builder.config.sinkName cause) ∧
          sinkCalls calls = [])) := by
  refine ⟨fun _ _ h => fails_of_build h, fun _ _ _ h => ⟨build_of_fails h sink, ?_⟩⟩
  have hrestrained := restrained_of_fails h
  exact ⟨hrestrained, hrestrained.tidied_up_iff⟩

theorem failing_build_numbered :
    ∃ stage calls last, numbered.build Graph.cup ⟨.plain 0, .empty⟩ =
        (.error (.componentCreation "input-1" (.duplicateName "input-1")), last) ∧
      last.journal.hooks = calls ∧
      numbered.Fails .ample 0 stage
        (.componentCreation "input-1" (.duplicateName "input-1")) calls ∧
      Restrained numbered.config .ample stage
        (.componentCreation "input-1" (.duplicateName "input-1")) calls ∧
      sinkCalls calls = [] := by
  obtain ⟨last, hbuild⟩ : ∃ last, numbered.build Graph.cup ⟨.plain 0, .empty⟩ =
      (.error (.componentCreation "input-1" (.duplicateName "input-1")), last) := ⟨_, rfl⟩
  obtain ⟨hfails, hrestrained⟩ := failing_build numbered Graph.cup ⟨.plain 0, .empty⟩
  obtain ⟨stage, calls, hstage, hcalls⟩ := hfails _ _ hbuild
  obtain ⟨-, hsame, hsink⟩ := hrestrained _ _ _ hstage
  refine ⟨stage, calls, last, hbuild, hcalls, hstage, hsame, ?_⟩
  rcases hsink fun held => Memory.reserve_ample rfl with ⟨⟨cause, h⟩, -⟩ | ⟨-, hnone⟩
  · cases h
  · exact hnone

end Builder

end TraceFlow
