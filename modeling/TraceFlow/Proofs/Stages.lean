import TraceFlow.Proofs.Naming

/-!
# Where a build stops

A build comes to one stage after the other and stops at the first that fails. Here this is told
without a graph: what the registry, the classes, the filter and the memory answer decides where a
build stops, with which error, and what has been called until then.
-/

namespace TraceFlow

variable {W α : Type}

namespace Builder

/-- The stages of a build, in the order in which it comes to them. -/
inductive Stage where
  | config
  | inputs
  | locators
  | list
  | graph
  | sourcePlugin
  | filterPlugin
  | sourceClass
  | filterClass
  | source (index : Nat)
  | filter
  | wiring (input : Nat)
  | sink
  | join

/-! ## What has gone well -/

def Looked (builder : Builder W) (start : W) (sources filters : Plugin W) (world : W) : Prop :=
  ∃ between,
    (builder.registry.find builder.config.sourcePlugin).run start = (some sources, between) ∧
    (builder.registry.find builder.config.filterPlugin).run between = (some filters, world)

/-- All is prepared, and the plugins have both classes. -/
structure Equipped (builder : Builder W) (memory : Memory) (start : W) (texts : List String)
    (sourceClass : SourceClass W) (filterClass : FilterClass W) (world : W) : Prop where
  prepared : builder.Prepared memory texts
  classes : ∃ sources filters, builder.Looked start sources filters world ∧
    sources.source? builder.config.sourceClass = some sourceClass ∧
    filters.filter? builder.config.filterClass = some filterClass

/-- The class yields sources for the locators, numbered from `first` on, and there is room for
them. -/
inductive Yields (config : Config) (cls : SourceClass W) (memory : Memory) :
    (first : Nat) → List String → W → List (Fitted W) → W → Prop where
  | nil {first : Nat} {world : W} : Yields config cls memory first [] world [] world
  | cons {first : Nat} {locator : String} {rest : List String} {before after : W}
      {fitted : Fitted W} {sources : List (Fitted W)}
      (hreads : fitted.Reads config cls first locator before)
      (hroom : memory.reserveAll (Reservation.forComponent ⟨first⟩ 0 fitted.ports) = .ok ())
      (hrest : Yields config cls memory (first + 1) rest fitted.world sources after) :
      Yields config cls memory first (locator :: rest) before (fitted :: sources) after

/-- The class yields a filter, and there is room for it as component `place`. -/
structure YieldsFilter (config : Config) (cls : FilterClass W) (memory : Memory) (place : Nat)
    (before : W) (filter : Filter W) (inputs outputs : Nat) (after : W) : Prop where
  instantiated : (cls.instantiate ∅ config.logLevel).on before = (.ok filter, after)
  inputs_eq : inputs = filter.inputCount after
  outputs_eq : outputs = filter.outputCount after
  room : memory.reserveAll (Reservation.forComponent ⟨place⟩ inputs outputs) = .ok ()

/-- One of the first `count` sources has the name. -/
def Taken (config : Config) (name : String) (count : Nat) : Prop :=
  ∃ i < count, config.sourceInstanceName i = name

/-- What is there before any ports are joined: sources and a filter, as the blueprint has them. -/
structure Furnished (builder : Builder W) (memory : Memory) (start : W) (blueprint : Blueprint W)
    (now : W) : Prop where
  equipped : builder.Equipped memory start blueprint.locators blueprint.sourceClass
    blueprint.filterClass blueprint.world
  yields : ∃ between,
    Yields builder.config blueprint.sourceClass memory 0 blueprint.locators blueprint.world
      blueprint.sources between ∧
    YieldsFilter builder.config blueprint.filterClass memory blueprint.locators.length between
      blueprint.filter blueprint.inputs blueprint.outputs now
  free : ¬ Taken builder.config builder.config.filterName blueprint.locators.length

/-- How many input ports a filter wants once it was told of a connection to one. -/
def asksFor (filter : Filter W) (input : Nat) (before : W) : Nat :=
  filter.inputCount (filter.inputConnected input before)

/-- What the filter of `size` input ports has reserved when it was told of a connection to one. -/
def growth (id : ComponentId) (filter : Filter W) (size input : Nat) (before : W) : Reservation :=
  ⟨.ports id .input, size, asksFor filter input before⟩

/-- A filter of `size` input ports takes connections to `count` of them, from `input` on. It is told
of each, and grows. There are as many connections as it was told of. -/
inductive Takes (memory : Memory) (id : ComponentId) (filter : Filter W) :
    (input size : Nat) → W → (count : Nat) → (size' : Nat) → W → Prop where
  | nil {input size : Nat} {world : W} : Takes memory id filter input size world 0 size world
  | cons {input size count size' : Nat} {before after : W} (hport : input < size)
      (hrow : memory.reserve (.next .connections input) = .ok ())
      (hroom : memory.reserve (growth id filter size input before) = .ok ())
      (hrest : Takes memory id filter (input + 1) (max size (asksFor filter input before))
        (filter.inputConnected input before) count size' after) :
      Takes memory id filter input size before (count + 1) size' after

/-- What is there before the sink: the filter has taken a connection to each output port of a
source. -/
def Piped (builder : Builder W) (memory : Memory) (start : W) (blueprint : Blueprint W) : Prop :=
  ∃ now size after, builder.Furnished memory start blueprint now ∧
    Takes memory blueprint.filterId blueprint.filter 0 blueprint.inputs now
      blueprint.outlets.length size after

theorem Piped.prepared {builder : Builder W} {memory : Memory} {start : W}
    {blueprint : Blueprint W} (h : builder.Piped memory start blueprint) :
    builder.Prepared memory blueprint.locators := by
  obtain ⟨_, _, _, hfurnished, -⟩ := h
  exact hfurnished.equipped.prepared

/-- The room for the sink: its place on the list of sinks, and that of the component. -/
def roomForSink (blueprint : Blueprint W) : List Reservation :=
  .next .sinks 0 :: Reservation.forComponent blueprint.sinkId 1 0

/-! ## What has been called -/

def lookups (config : Config) : List (Hook W) :=
  [.findPlugin config.sourcePlugin, .findPlugin config.filterPlugin]

/-- The calls until sources have been instantiated for these locators. -/
def sourced (config : Config) (cls : SourceClass W) (texts : List String) : List (Hook W) :=
  lookups config ++ texts.map (sourceCall config cls)

def furnished (config : Config) (blueprint : Blueprint W) : List (Hook W) :=
  sourced config blueprint.sourceClass blueprint.locators ++
    [.instantiate blueprint.filterClass.name ∅ config.logLevel]

/-- The calls until the filter has been told of so many connections. -/
def told (config : Config) (blueprint : Blueprint W) (count : Nat) : List (Hook W) :=
  furnished config blueprint ++
    (List.range count).map (.inputConnected blueprint.filterId)

/-! ## What fails -/

/--
The stage at which a build fails, the error and the calls until then. All the stages before it have
gone well.
-/
inductive Fails (builder : Builder W) (memory : Memory) (start : W) :
    Stage → TraceError → List (Hook W) → Prop where
  | config {e : ConfigError} (h : builder.config.validate = .error e) :
      Fails builder memory start .config (.config e) []
  | inputs (hconfig : builder.config.validate = .ok ()) (h : builder.locators = []) :
      Fails builder memory start .inputs (.config .noInput) []
  | locators {texts : List String} {good rest : List ByteArray} {bad : ByteArray}
      (hconfig : builder.config.validate = .ok ()) (hall : builder.locators = good ++ bad :: rest)
      (hgood : good.map String.fromUTF8? = texts.map some) (hbad : String.fromUTF8? bad = none) :
      Fails builder memory start .locators (.config (.locatorNotText bad)) []
  | list {texts : List String} {reason : String} (hchecked : builder.Checked texts)
      (h : memory.reserve ⟨.sources, 0, texts.length⟩ = .error reason) :
      Fails builder memory start .list (.allocationFailure reason) []
  | graph {texts : List String} {reason : String} (hchecked : builder.Checked texts)
      (hlist : memory.reserve ⟨.sources, 0, texts.length⟩ = .ok ())
      (h : memory.reserveAll roomForGraph = .error reason) :
      Fails builder memory start .graph (.graphCreation (.allocation reason)) []
  | sourcePlugin {texts : List String} {after : W} (hprepared : builder.Prepared memory texts)
      (h : (builder.registry.find builder.config.sourcePlugin).run start = (none, after)) :
      Fails builder memory start .sourcePlugin (.capabilityNotFound builder.config.sourcePlugin)
        [.findPlugin builder.config.sourcePlugin]
  | filterPlugin {texts : List String} {plugin : Plugin W} {between after : W}
      (hprepared : builder.Prepared memory texts)
      (hsource : (builder.registry.find builder.config.sourcePlugin).run start =
        (some plugin, between))
      (h : (builder.registry.find builder.config.filterPlugin).run between = (none, after)) :
      Fails builder memory start .filterPlugin (.capabilityNotFound builder.config.filterPlugin)
        (lookups builder.config)
  | sourceClass {texts : List String} {sources filters : Plugin W} {world : W}
      (hprepared : builder.Prepared memory texts)
      (hlooked : builder.Looked start sources filters world)
      (h : sources.source? builder.config.sourceClass = none) :
      Fails builder memory start .sourceClass
        (.classNotFound builder.config.sourcePlugin builder.config.sourceClass)
        (lookups builder.config)
  | filterClass {texts : List String} {sources filters : Plugin W} {cls : SourceClass W} {world : W}
      (hprepared : builder.Prepared memory texts)
      (hlooked : builder.Looked start sources filters world)
      (hsource : sources.source? builder.config.sourceClass = some cls)
      (h : filters.filter? builder.config.filterClass = none) :
      Fails builder memory start .filterClass
        (.classNotFound builder.config.filterPlugin builder.config.filterClass)
        (lookups builder.config)
  -- The names of the sources are numbered apart, so none of them is ever taken.
  | source {read rest : List String} {locator : String} {cls : SourceClass W}
      {filterClass : FilterClass W} {world now : W} {sources : List (Fitted W)} {e : TraceError}
      (hequipped : builder.Equipped memory start (read ++ locator :: rest) cls filterClass world)
      (hyields : Yields builder.config cls memory 0 read world sources now)
      (h : SourceFails builder.config cls memory read.length locator now e) :
      Fails builder memory start (.source read.length) e
        (sourced builder.config cls (read ++ [locator]))
  | filterName {texts : List String} {cls : SourceClass W} {filterClass : FilterClass W}
      {world now : W} {sources : List (Fitted W)}
      (hequipped : builder.Equipped memory start texts cls filterClass world)
      (hyields : Yields builder.config cls memory 0 texts world sources now)
      (h : Taken builder.config builder.config.filterName texts.length) :
      Fails builder memory start .filter
        (.componentCreation builder.config.filterName (.duplicateName builder.config.filterName))
        (sourced builder.config cls texts)
  | filter {texts : List String} {cls : SourceClass W} {filterClass : FilterClass W}
      {world now : W} {sources : List (Fitted W)} {e : TraceError}
      (hequipped : builder.Equipped memory start texts cls filterClass world)
      (hyields : Yields builder.config cls memory 0 texts world sources now)
      (hfree : ¬ Taken builder.config builder.config.filterName texts.length)
      (h : FilterFails builder.config filterClass memory texts.length now e) :
      Fails builder memory start .filter e
        (sourced builder.config cls texts ++
          [.instantiate filterClass.name ∅ builder.config.logLevel])
  | portMissing {blueprint : Blueprint W} {joined rest : List (Fitted W × PortRef)}
      {next : Fitted W × PortRef} {size : Nat} {now after : W}
      (hfurnished : builder.Furnished memory start blueprint now)
      (hall : Fitted.outlets blueprint.sources = joined ++ next :: rest)
      (htakes : Takes memory blueprint.filterId blueprint.filter 0 blueprint.inputs now
        joined.length size after)
      (h : size ≤ joined.length) :
      Fails builder memory start (.wiring joined.length)
        (.portConnection next.1.name builder.config.filterName
          (.portOutOfRange builder.config.filterName .input joined.length size))
        (told builder.config blueprint joined.length)
  | rowRefused {blueprint : Blueprint W} {joined rest : List (Fitted W × PortRef)}
      {next : Fitted W × PortRef} {size : Nat} {now after : W} {reason : String}
      (hfurnished : builder.Furnished memory start blueprint now)
      (hall : Fitted.outlets blueprint.sources = joined ++ next :: rest)
      (htakes : Takes memory blueprint.filterId blueprint.filter 0 blueprint.inputs now
        joined.length size after)
      (hport : joined.length < size)
      (h : memory.reserve (.next .connections joined.length) = .error reason) :
      Fails builder memory start (.wiring joined.length) (.allocationFailure reason)
        (told builder.config blueprint joined.length)
  | overgrown {blueprint : Blueprint W} {joined rest : List (Fitted W × PortRef)}
      {next : Fitted W × PortRef} {size : Nat} {now after : W} {reason : String}
      (hfurnished : builder.Furnished memory start blueprint now)
      (hall : Fitted.outlets blueprint.sources = joined ++ next :: rest)
      (htakes : Takes memory blueprint.filterId blueprint.filter 0 blueprint.inputs now
        joined.length size after)
      (hport : joined.length < size)
      (hrow : memory.reserve (.next .connections joined.length) = .ok ())
      (h : memory.reserve (growth blueprint.filterId blueprint.filter size joined.length after) =
        .error reason) :
      Fails builder memory start (.wiring joined.length) (.allocationFailure reason)
        (told builder.config blueprint (joined.length + 1))
  | sinkName {blueprint : Blueprint W} (hpiped : builder.Piped memory start blueprint)
      (h : Taken builder.config builder.config.sinkName blueprint.locators.length) :
      Fails builder memory start .sink
        (.componentCreation builder.config.sinkName (.duplicateName builder.config.sinkName))
        (told builder.config blueprint blueprint.outlets.length)
  | sinkRefused {blueprint : Blueprint W} {reason : String}
      (hpiped : builder.Piped memory start blueprint)
      (hfree : ¬ Taken builder.config builder.config.sinkName blueprint.locators.length)
      (h : memory.reserveAll (roomForSink blueprint) = .error reason) :
      Fails builder memory start .sink (.allocationFailure reason)
        (told builder.config blueprint blueprint.outlets.length)
  | join {blueprint : Blueprint W} (hpiped : builder.Piped memory start blueprint)
      (hfree : ¬ Taken builder.config builder.config.sinkName blueprint.locators.length)
      (hroom : memory.reserveAll (roomForSink blueprint) = .ok ())
      (h : blueprint.outputs = 0) :
      Fails builder memory start .join
        (.portConnection builder.config.filterName builder.config.sinkName
          (.portOutOfRange builder.config.filterName .output 0 0))
        (told builder.config blueprint blueprint.outlets.length ++
          [.tidyUp blueprint.sinkId])
  | joinRefused {blueprint : Blueprint W} {reason : String}
      (hpiped : builder.Piped memory start blueprint)
      (hfree : ¬ Taken builder.config builder.config.sinkName blueprint.locators.length)
      (hroom : memory.reserveAll (roomForSink blueprint) = .ok ())
      (houtputs : blueprint.outputs ≠ 0)
      (h : memory.reserve (.next .connections blueprint.outlets.length) = .error reason) :
      Fails builder memory start .join (.allocationFailure reason)
        (told builder.config blueprint blueprint.outlets.length ++
          [.tidyUp blueprint.sinkId])

/-- Every stage goes well. -/
structure Succeeds (builder : Builder W) (memory : Memory) (start : W)
    (blueprint : Blueprint W) : Prop where
  piped : builder.Piped memory start blueprint
  free : ¬ Taken builder.config builder.config.sinkName blueprint.locators.length
  room : memory.reserveAll (roomForSink blueprint) = .ok ()
  outputs : blueprint.outputs ≠ 0
  row : memory.reserve (.next .connections blueprint.outlets.length) = .ok ()

end Builder

end TraceFlow
