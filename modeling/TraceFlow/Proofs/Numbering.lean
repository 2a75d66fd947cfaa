import TraceFlow.Proofs.Issued

/-!
# Sources have names of their own

The sources of a build are numbered, and the number tells their names apart, whatever the name is
that the configuration gives them. When a source is asked for, the names in the graph are those of
the sources before it. So no source is refused for its name, however many there are, and a build
that finds a name taken has all of its sources by then.
-/

namespace TraceFlow

variable {W α : Type}

theorem Graph.addSource_of_free {g : Graph W α} {cls : SourceClass W} {name : String}
    {params : Params} {level : LogLevel} {session : Session W α}
    (h : g.checkName name = .ok ()) (taken : String) :
    (g.addSource cls name params level session).answer ≠ .error (.duplicateName taken) := by
  intro hanswer
  obtain ⟨-, hfree⟩ := checkName_eq_ok_iff.mp h
  let request : Addition W α := .source cls name params level
  replace hanswer : (request.on g session).answer = .error (.duplicateName taken) := hanswer
  cases Addition.answer_eq_error_iff.mp hanswer with
  | taken _ htaken => exact htaken hfree

namespace Builder

section

variable {builder : Builder W} {config : Config} {g later : Graph W α}
  {components : List (Component W α)} {wires : List (PortRef × PortRef)} {read : List String}
  {cls : SourceClass W} {filterClass : FilterClass W} {added : List AddedSource}
  {session opened last : Session W α} {count : Nat} {e : TraceError}

/-! ## The names that are taken -/

/-- The names in a graph are those of the first `count` sources, each in its place. -/
def NamesFirst (config : Config) (g : Graph W α) (count : Nat) : Prop :=
  ∀ name id, g.find? name = some id ↔
    id.index < count ∧ name = config.sourceInstanceName id.index

theorem NamesFirst.free (h : NamesFirst config g count) :
    g.find? (config.sourceInstanceName count) = none := by
  rw [Option.eq_none_iff_forall_not_mem]
  intro id hid
  obtain ⟨hlt, hsame⟩ := (h _ id).mp hid
  have hcount := config.sourceInstanceName_injective hsame
  omega

theorem Numbered.namesFirst (h : Numbered config components) (hg : g.Laid components wires) :
    NamesFirst config g components.length := by
  intro name id
  rw [hg.reached.coherent.find_iff]
  constructor
  · intro hname
    obtain ⟨c, hc, -⟩ := Option.map_eq_some_iff.mp hname
    have hlt : id.index < components.length := by
      rw [← hg.count]
      exact Graph.component?_isSome_iff.mp (Option.isSome_of_eq_some hc)
    have hplace := List.getElem?_eq_getElem hlt
    refine ⟨hlt, ?_⟩
    rw [← h _ _ hplace]
    exact Option.some.inj (hname.symm.trans (hg.name? hplace))
  · rintro ⟨hlt, rfl⟩
    have hplace := List.getElem?_eq_getElem hlt
    rw [← h _ _ hplace]
    exact hg.name? hplace

/-! ## The sources of a build -/

theorem map_name_added {sources : List (Fitted W)} {first : Nat} {start : W}
    (h : Fitted.AllRead sources config cls first read start) :
    (sources.mapIdx fun i fitted =>
      (⟨⟨first + i⟩, fitted.name, fitted.ports⟩ : AddedSource)).map AddedSource.name =
      (List.range' first read.length).map config.sourceInstanceName := by
  apply List.ext_getElem
  · simp [h.count]
  · intro i hi _
    simp only [List.length_map, List.length_mapIdx] at hi
    obtain ⟨_, _, hreads⟩ := h.exists_reads (List.getElem?_eq_getElem hi)
    simpa using hreads.name

theorem ok_withSources
    (h : (builder.withSources read).on .empty session =
      (.ok (cls, filterClass, added), g, opened)) :
    added.map AddedSource.name = (List.range read.length).map builder.config.sourceInstanceName ∧
      g.state = .configuring ∧ NamesFirst builder.config g read.length := by
  unfold withSources at h
  obtain ⟨⟨_, _⟩, _, _, hclasses, h⟩ := Assembly.ok_bind h
  obtain ⟨rfl, -, -⟩ := ok_classes hclasses
  obtain ⟨_, _, _, hadded, h⟩ := Assembly.ok_bind h
  cases h
  obtain ⟨sources, hread, -, rfl, hlaid, -⟩ := addSources_ok Graph.laid_empty hadded
  rw [List.nil_append] at hlaid
  have hnames := (Numbered.of_allRead hread).namesFirst hlaid
  rw [List.length_map, hread.count] at hnames
  refine ⟨?_, hlaid.state, hnames⟩
  rw [map_name_added hread, List.length_nil, List.range_eq_range']

theorem error_withSources
    (h : (builder.withSources read).on (.empty : Graph W α) session = (.error e, later, last)) :
    ¬ e.OfTakenName := by
  unfold withSources at h
  rcases Assembly.error_bind h with hclasses | ⟨⟨_, _⟩, _, _, hclasses, h⟩
  · rintro ⟨taken, htaken⟩
    rcases error_classes hclasses with ⟨_, rfl⟩ | ⟨_, _, rfl⟩ <;> cases htaken
  obtain ⟨rfl, -, -⟩ := ok_classes hclasses
  rcases Assembly.error_bind h with hadded | ⟨_, _, _, -, h⟩
  · obtain ⟨_, _, _, hfails⟩ := sourceFails_of_addSources hadded
    exact hfails.not_ofTakenName
  · cases h

theorem exists_withSources {sink : Sink W α} (h : (builder.build sink session).1 = .error e)
    (hname : e.OfTakenName) :
    ∃ texts cls filterClass added g opened, builder.Prepared session.memory texts ∧
      (builder.withSources texts).on (.empty : Graph W α) session =
        (.ok (cls, filterClass, added), g, opened) := by
  have hnamed {cause : TraceError} (hbuild : builder.build sink session = (.error cause, session)) :
      cause.OfTakenName := by
    rw [hbuild] at h
    cases h
    exact hname
  rcases builder.prepared_or_failed sink session with
    ⟨texts, hprepared⟩ | ⟨_, hfails⟩ | ⟨_, -, hfails⟩ | ⟨_, -, hfails⟩
  · obtain ⟨_, _, hwork⟩ := error_of_build hprepared h
    rcases hsources : (builder.withSources texts).on (.empty : Graph W α) session with
      ⟨cause | ⟨cls, filterClass, added⟩, g, opened⟩
    · have hfails : ((builder.assemble texts sink).on .empty session).1 = .error cause := by
        rw [assemble_eq_withSources]
        exact Assembly.fst_on_bind_of_error (congrArg Prod.fst hsources) _
      rw [hwork] at hfails
      cases hfails
      exact absurd hname (error_withSources hsources)
    · exact ⟨texts, cls, filterClass, added, g, opened, hprepared, hsources⟩
  all_goals
    obtain ⟨taken, htaken⟩ := hnamed hfails
    cases htaken

end

/--
The number tells the names of the sources apart. When a build asks for a source, the names in the
graph are those of the sources before it, and the request is not refused for its name. So the
sources never fail for their names, be there as many locators as there may, and where a build fails
for a name that is taken all of them have been added.
-/
theorem sources_named_apart (builder : Builder W) (sink : Sink W α) (session : Session W α) :
    (∀ i j, i ≠ j →
      builder.config.sourceInstanceName i ≠ builder.config.sourceInstanceName j) ∧
    (∀ cls name params level g opened,
      builder.Issues sink session (.addSource cls name params level) g opened →
      (∃ count, name = builder.config.sourceInstanceName count ∧
        NamesFirst builder.config g count) ∧
      g.checkName name = .ok () ∧
      ∀ taken, (g.addSource cls name params level opened).answer ≠ .error (.duplicateName taken)) ∧
    (∀ read e later last,
      (builder.withSources read).on (.empty : Graph W α) session = (.error e, later, last) →
      ¬ e.OfTakenName) ∧
    ∀ e, (builder.build sink session).1 = .error e → e.OfTakenName →
      ∃ texts cls filterClass added g opened, builder.Prepared session.memory texts ∧
        (builder.withSources texts).on (.empty : Graph W α) session =
          (.ok (cls, filterClass, added), g, opened) ∧
        added.map AddedSource.name =
          (List.range builder.locators.length).map builder.config.sourceInstanceName := by
  refine ⟨fun i j hne hsame => hne (builder.config.sourceInstanceName_injective hsame), ?_,
    fun _ _ _ _ h => error_withSources h, fun e h hname => ?_⟩
  · intro cls name params level g opened h
    cases h with
    | source hprepared h =>
      obtain ⟨-, hstate, hnames⟩ := ok_withSources h
      have hcheck := Graph.checkName_eq_ok_iff.mpr ⟨hstate, hnames.free⟩
      exact ⟨⟨_, rfl, hnames⟩, hcheck, Graph.addSource_of_free hcheck⟩
  · obtain ⟨texts, cls, filterClass, added, g, opened, hprepared, hsources⟩ :=
      exists_withSources h hname
    refine ⟨texts, cls, filterClass, added, g, opened, hprepared, hsources, ?_⟩
    rw [← hprepared.length_eq]
    exact (ok_withSources hsources).1

/-- The sources have a name that ends like one with a number, and the filter has that of the second
source. -/
def hyphenated : Builder Nat where
  registry := obliging {} 2
  locators := ["left".toUTF8, "right".toUTF8]
  config := { sourceName := "input-1", filterName := "input-1-1" }

theorem sources_named_apart_hyphenated :
    (∃ g opened, hyphenated.Issues Graph.cup ⟨.plain 0, .empty⟩
      (.addSource (obligingSource "fs") "input-1-1" (sourceParams hyphenated.config "right") .info)
        g opened ∧ g.checkName "input-1-1" = .ok ()) ∧
    (hyphenated.build Graph.cup ⟨.plain 0, .empty⟩).1 =
      .error (.componentCreation "input-1-1" (.duplicateName "input-1-1")) ∧
    ∃ texts cls filterClass added g opened,
      (hyphenated.withSources texts).on (.empty : Graph Nat Unit) ⟨.plain 0, .empty⟩ =
        (.ok (cls, filterClass, added), g, opened) ∧
      added.map AddedSource.name = ["input-1", "input-1-1"] := by
  obtain ⟨-, hasked, -, hbuild⟩ := sources_named_apart hyphenated Graph.cup ⟨.plain 0, .empty⟩
  let first := (hyphenated.withSources ["left"]).on (.empty : Graph Nat Unit) ⟨.plain 0, .empty⟩
  have hfirst : first = (.ok (obligingSource "fs", obligingFilter "muxer" 2,
      [⟨⟨0⟩, "input-1", 1⟩]), first.2.1, first.2.2) := by rfl
  have hprepared : hyphenated.Prepared .ample (["left"] ++ "right" :: []) :=
    (Checked.of_check (by rfl)).prepared Memory.generous_ample
  have hissues : hyphenated.Issues Graph.cup ⟨.plain 0, .empty⟩
      (.addSource (obligingSource "fs") "input-1-1" (sourceParams hyphenated.config "right") .info)
      first.2.1 first.2.2 :=
    .source hprepared hfirst
  have hfails : (hyphenated.build Graph.cup ⟨.plain 0, .empty⟩).1 =
      .error (.componentCreation "input-1-1" (.duplicateName "input-1-1")) := by rfl
  obtain ⟨texts, cls, filterClass, added, g, opened, -, hsources, hnames⟩ :=
    hbuild _ hfails ⟨_, rfl⟩
  exact ⟨⟨_, _, hissues, (hasked _ _ _ _ _ _ hissues).2.1⟩, hfails,
    texts, cls, filterClass, added, g, opened, hsources, hnames⟩

end Builder

end TraceFlow
