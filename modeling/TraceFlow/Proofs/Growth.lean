import TraceFlow.Proofs.Restraint

/-!
# Whether a filter grows fast enough

A filter may get more input ports with each connection, and the next connection needs one more. All
output ports of the sources are joined exactly if the filter always has a free input port left.
-/

namespace TraceFlow

variable {W α : Type}

namespace Builder

/-- How many input ports a filter has once so many connections were made, from the first input port
on, and the world then. It keeps the ports that it has if it asks for fewer. -/
def grown (filter : Filter W) (inputs : Nat) (world : W) : (count : Nat) → Nat × W
  | 0 => (inputs, world)
  | count + 1 =>
    let (size, before) := grown filter inputs world count
    (max size (asksFor filter count before), filter.inputConnected count before)

/-- There is room for connection `k` of the filter, and for the ports that it wants once it is told
of it. -/
def RoomAt (memory : Memory) (blueprint : Blueprint W) (now : W) (k : Nat) : Prop :=
  memory.reserve (.next .connections k) = .ok () ∧
    memory.reserve (growth blueprint.filterId blueprint.filter
      (grown blueprint.filter blueprint.inputs now k).1 k
      (grown blueprint.filter blueprint.inputs now k).2) = .ok ()

/-- What comes of a build that got past the connections of the filter: it went well, or it failed at
the sink. -/
inductive PastWiring (config : Config) (memory : Memory) (blueprint : Blueprint W) :
    Except TraceError (Context W α) → Prop where
  | built (context : Context W α) : PastWiring config memory blueprint (.ok context)
  | sinkRefused (cause : GraphError) :
      PastWiring config memory blueprint (.error (.componentCreation config.sinkName cause))
  | sinkUnjoined (cause : GraphError) : PastWiring config memory blueprint
      (.error (.portConnection config.filterName config.sinkName cause))
  | noRoom {reason : String}
      (h : memory.reserveAll (roomForSink blueprint) = .error reason ∨
        memory.reserve (.next .connections blueprint.outlets.length) = .error reason) :
      PastWiring config memory blueprint (.error (.allocationFailure reason))

/-- The build fails at connection `k` for want of an input port: it names the source whose output
port was to be joined, and the filter was told of the connections before. -/
def FailsAtPort (builder : Builder W) (blueprint : Blueprint W) (k : Nat) (sink : Sink W α)
    (session : Session W α) : Prop :=
  ∃ source output last, (Fitted.outlets blueprint.sources)[k]? = some (source, output) ∧
    builder.build sink session =
      (.error (.portConnection source.name builder.config.filterName
        (.portOutOfRange builder.config.filterName .input k k)), last) ∧
    last.journal.hooks = session.journal.hooks ++ told builder.config blueprint k

theorem PastWiring.eq_sinkName {config : Config} {memory : Memory} {blueprint : Blueprint W}
    {upstream downstream : String} {cause : GraphError}
    (h : PastWiring (α := α) config memory blueprint
      (.error (.portConnection upstream downstream cause))) :
    downstream = config.sinkName := by
  cases h
  rfl

section

variable {memory : Memory} {filter : Filter W} {inputs : Nat} {world : W} {count : Nat}

theorem Takes.concat {id : ComponentId} {input size size' : Nat} {before after : W}
    (h : Takes memory id filter input size before count size' after)
    (hport : input + count < size')
    (hrow : memory.reserve (.next .connections (input + count)) = .ok ())
    (hroom : memory.reserve (growth id filter size' (input + count) after) = .ok ()) :
    Takes memory id filter input size before (count + 1)
      (max size' (asksFor filter (input + count) after))
      (filter.inputConnected (input + count) after) := by
  induction h with
  | nil => exact .cons hport hrow hroom .nil
  | @cons input size count size' before after hfirst hfirstRow hfirstRoom _ ih =>
    have hnext : input + (count + 1) = input + 1 + count := by omega
    rw [hnext] at hport hrow hroom ⊢
    exact .cons hfirst hfirstRow hfirstRoom (ih hport hrow hroom)

theorem takes_grown {blueprint : Blueprint W} {now : W}
    (hports : ∀ k < count, k < (grown blueprint.filter blueprint.inputs now k).1)
    (hroom : ∀ k < count, RoomAt memory blueprint now k) :
    Takes memory blueprint.filterId blueprint.filter 0 blueprint.inputs now count
      (grown blueprint.filter blueprint.inputs now count).1
      (grown blueprint.filter blueprint.inputs now count).2 := by
  induction count with
  | zero => exact .nil
  | succ count ih =>
    have hbefore := ih (fun k hk => hports k (Nat.lt_succ_of_lt hk))
      fun k hk => hroom k (Nat.lt_succ_of_lt hk)
    have hlast := hbefore.concat
    rw [Nat.zero_add] at hlast
    obtain ⟨hrow, hgrowth⟩ := hroom count count.lt_succ_self
    exact hlast (hports count count.lt_succ_self) hrow hgrowth

/-- The first time that there is no free port, all the ports that there are have been taken. -/
theorem grown_eq (hports : ∀ k < count, k < (grown filter inputs world k).1)
    (hmissing : (grown filter inputs world count).1 ≤ count) :
    (grown filter inputs world count).1 = count := by
  cases count with
  | zero => exact Nat.le_zero.mp hmissing
  | succ count =>
    refine Nat.le_antisymm hmissing ?_
    exact (hports count count.lt_succ_self).trans_le (Nat.le_max_left _ _)

end

section

variable {builder : Builder W} {session : Session W α} {blueprint : Blueprint W} {now : W}

theorem failsAtPort (h : builder.Furnished session.memory session.world blueprint now) {k : Nat}
    (hk : k < Fitted.portsOf blueprint.sources)
    (hports : ∀ j < k, j < (grown blueprint.filter blueprint.inputs now j).1)
    (hroom : ∀ j < k, RoomAt session.memory blueprint now j)
    (hmissing : (grown blueprint.filter blueprint.inputs now k).1 ≤ k) (sink : Sink W α) :
    builder.FailsAtPort blueprint k sink session := by
  rw [← Fitted.length_outlets] at hk
  obtain ⟨joined, rest, hall, hlength⟩ := exists_split_at hk
  obtain ⟨after, htakes⟩ : ∃ after, Takes session.memory blueprint.filterId blueprint.filter 0
      blueprint.inputs now k k after := by
    have htakes := takes_grown hports hroom
    rw [grown_eq hports hmissing] at htakes
    exact ⟨_, htakes⟩
  rw [← hlength] at htakes
  have hfails := Fails.portMissing h hall htakes (Nat.le_refl _)
  rw [hlength] at hfails
  obtain ⟨last, hbuild, hhooks⟩ := build_of_fails hfails sink
  exact ⟨_, _, last, List.getElem?_eq_getElem hk, hbuild, hhooks⟩

theorem pastWiring_of_piped (h : builder.Piped session.memory session.world blueprint)
    (sink : Sink W α) :
    PastWiring builder.config session.memory blueprint (builder.build sink session).1 := by
  by_cases htaken : Taken builder.config builder.config.sinkName blueprint.locators.length
  · obtain ⟨last, hbuild, -⟩ := build_of_fails (.sinkName h htaken) sink
    rw [hbuild]
    exact .sinkRefused _
  rcases hroom : session.memory.reserveAll (roomForSink blueprint) with reason | ⟨⟩
  · obtain ⟨last, hbuild, -⟩ := build_of_fails (.sinkRefused h htaken hroom) sink
    rw [hbuild]
    exact .noRoom (.inl hroom)
  by_cases hnone : blueprint.outputs = 0
  · obtain ⟨last, hbuild, -⟩ := build_of_fails (.join h htaken hroom hnone) sink
    rw [hbuild]
    exact .sinkUnjoined _
  rcases hrow : session.memory.reserve (.next .connections blueprint.outlets.length) with
    reason | ⟨⟩
  · obtain ⟨last, hbuild, -⟩ := build_of_fails (.joinRefused h htaken hroom hnone hrow) sink
    rw [hbuild]
    exact .noRoom (.inr hrow)
  · obtain ⟨context, last, hbuild⟩ := build_of_succeeds ⟨h, htaken, hroom, hnone, hrow⟩ sink
    rw [hbuild]
    exact .built context

end

/--
Once a build has its sources and its filter, it joins all output ports to the filter exactly if the
filter has more input ports than connections before each of them, given that there is room for what
it asks. Otherwise it fails at the first output port for which there is none. It names the source of
that port, and the filter was told of all connections before.
-/
theorem wired_iff_grows {builder : Builder W} {session : Session W α} {blueprint : Blueprint W}
    {now : W} (h : builder.Furnished session.memory session.world blueprint now)
    (hroom : ∀ k < Fitted.portsOf blueprint.sources,
      (∀ j ≤ k, j < (grown blueprint.filter blueprint.inputs now j).1) →
      RoomAt session.memory blueprint now k)
    (sink : Sink W α) :
    (PastWiring builder.config session.memory blueprint (builder.build sink session).1 ↔
      ∀ k < Fitted.portsOf blueprint.sources,
        k < (grown blueprint.filter blueprint.inputs now k).1) ∧
    ∀ k < Fitted.portsOf blueprint.sources,
      (∀ j < k, j < (grown blueprint.filter blueprint.inputs now j).1) →
      (grown blueprint.filter blueprint.inputs now k).1 ≤ k →
      builder.FailsAtPort blueprint k sink session := by
  have hmissing (k : Nat) (hk : k < Fitted.portsOf blueprint.sources)
      (hports : ∀ j < k, j < (grown blueprint.filter blueprint.inputs now j).1)
      (hnone : (grown blueprint.filter blueprint.inputs now k).1 ≤ k) :
      builder.FailsAtPort blueprint k sink session := by
    refine failsAtPort h hk hports (fun j hj => ?_) hnone sink
    exact hroom j (hj.trans hk) fun i hi => hports i (Nat.lt_of_le_of_lt hi hj)
  refine ⟨⟨fun hpast k => ?_, fun hports => ?_⟩, hmissing⟩
  · -- At the first port that is missing the build would fail, and not for the sink.
    induction k using Nat.strongRecOn with
    | ind k ih =>
      intro hk
      by_contra hnone
      obtain ⟨source, output, last, -, hbuild, -⟩ :=
        hmissing k hk (fun j hj => ih j hj (hj.trans hk)) (Nat.le_of_not_lt hnone)
      rw [hbuild] at hpast
      exact (Config.validate_eq_ok_iff.mp h.equipped.prepared.config).filter_sink hpast.eq_sinkName
  · have htakes := takes_grown hports
      fun k hk => hroom k hk fun j hj => hports j (Nat.lt_of_le_of_lt hj hk)
    rw [← blueprint.length_outlets] at htakes
    exact pastWiring_of_piped ⟨now, _, _, h, htakes⟩ sink

def dwindling : Filter Nat where
  inputCount := id
  outputCount := fun _ => 1
  inputConnected := fun _ => (· - 1)
  iterator := fun _ _ => pure ⟨pure .ended⟩

def narrow : Builder Nat where
  registry := ⟨fun _ => pure (some {
    name := "tools"
    sources := [fork]
    filters := [⟨"dwindling", none, fun _ _ => pure dwindling⟩] })⟩
  locators := ["left".toUTF8]
  config := { sourceClass := "fork", filterClass := "dwindling" }

def narrowPrint : Blueprint Nat where
  locators := ["left"]
  sourceClass := fork
  filterClass := ⟨"dwindling", none, fun _ _ => pure dwindling⟩
  world := 1
  sources := [⟨"input", ⟨fun _ => 2, fun _ => pure ⟨pure .ended⟩⟩, 2, 1⟩]
  filter := dwindling
  inputs := 1
  outputs := 1

theorem furnished_narrow : narrow.Furnished .ample 1 narrowPrint 1 where
  equipped := by
    have hchecked : narrow.Checked narrowPrint.locators :=
      ⟨by decide +kernel, by decide +kernel, by decide +kernel⟩
    refine ⟨hchecked.prepared Memory.generous_ample, ?_⟩
    exact ⟨_, _, ⟨1, rfl, rfl⟩, by rfl, by rfl⟩
  yields := by
    refine ⟨1, .cons ⟨by rfl, rfl, rfl, by decide⟩ (by rfl) .nil, ?_⟩
    exact ⟨rfl, rfl, rfl, by rfl⟩
  free := by
    rintro ⟨i, hi, hname⟩
    obtain rfl : i = 0 := Nat.lt_one_iff.mp hi
    exact absurd hname (by decide +kernel)

theorem wired_iff_grows_narrow :
    narrow.Furnished .ample 1 narrowPrint 1 ∧
      (∀ k < Fitted.portsOf narrowPrint.sources, RoomAt .ample narrowPrint 1 k) ∧
      ¬ PastWiring narrow.config .ample narrowPrint (narrow.build Graph.cup ⟨.plain 1, .empty⟩).1 ∧
      narrow.FailsAtPort narrowPrint 1 Graph.cup ⟨.plain 1, .empty⟩ := by
  have hroom : ∀ k < Fitted.portsOf narrowPrint.sources, RoomAt .ample narrowPrint 1 k := by
    intro k hk
    have hports : k = 0 ∨ k = 1 := by
      have hk' : k < 2 := hk
      omega
    rcases hports with rfl | rfl
    · exact ⟨by rfl, by rfl⟩
    · exact ⟨by rfl, by rfl⟩
  have hfirst : ∀ j < 1, j < (grown dwindling 1 1 j).1 := by decide +kernel
  have hnone : (grown dwindling 1 1 1).1 ≤ 1 := by decide +kernel
  let session : Session Nat Unit := ⟨.plain 1, .empty⟩
  have hfurnished : narrow.Furnished session.memory session.world narrowPrint 1 :=
    furnished_narrow
  obtain ⟨hpast, hmissing⟩ := wired_iff_grows hfurnished (fun k hk _ => hroom k hk) Graph.cup
  refine ⟨furnished_narrow, hroom, fun hbuilt => ?_, hmissing 1 (by decide) hfirst hnone⟩
  exact Nat.not_lt.mpr hnone (hpast.mp hbuilt 1 (by decide))

end Builder

end TraceFlow
