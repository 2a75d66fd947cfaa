import Mathlib
import TraceFlow.Config.Document
import TraceFlow.Proofs.Lines

/-!
# Configurations come back from their documents

A configuration that is written and read again is the same, whatever its texts hold and however the
format spells them: every text stands in the document under the key of its field, and is put back in
its place.
-/

namespace TraceFlow

namespace Config

/-! ## Configurations -/

theorem keys_texts (c : Config) :
    c.texts.map Prod.fst = Field.all.map Field.key ++ [logLevelKey] := by
  unfold texts
  rw [List.map_append, List.map_map]
  rfl

theorem Field.isBare_key (field : Field) : Toml.IsBare field.key := by
  cases field <;> simp [Field.key, Toml.IsBare, Toml.isBareChar]

theorem isBare_logLevelKey : Toml.IsBare logLevelKey := by
  simp [logLevelKey, Toml.IsBare, Toml.isBareChar]

theorem isBare_of_mem_keys (c : Config) {key : String} (h : key ∈ c.texts.map Prod.fst) :
    Toml.IsBare key := by
  rw [keys_texts, List.mem_append, List.mem_singleton] at h
  obtain h | rfl := h
  · obtain ⟨field, -, rfl⟩ := List.mem_map.mp h
    exact field.isBare_key
  · exact isBare_logLevelKey

theorem nodup_keys_texts (c : Config) : (c.texts.map Prod.fst).Nodup := by
  rw [keys_texts]
  decide +kernel

theorem lookup_texts (c : Config) {key text : String} (h : (key, text) ∈ c.texts) :
    Assoc.lookup key (Toml.Table.ofTexts c.texts) = some (.text text) := by
  refine (Assoc.mem_iff_lookup_eq_some ?_).mp (List.mem_map_of_mem h)
  unfold Toml.Table.ofTexts
  rw [List.map_map]
  exact c.nodup_keys_texts

/-- A configuration with some fields as `c` has them. -/
def refilled (c : Config) (fields : List Field) (start : Config) : Config :=
  fields.foldl (fun config field => config.set field (c.get field)) start

theorem foldlM_readField (c : Config) {table : Toml.Table} {fields : List Field} {start : Config}
    (h : ∀ field ∈ fields, Assoc.lookup field.key table = some (.text (c.get field)) ∨
      Assoc.lookup field.key table = none ∧ start.get field = c.get field) :
    fields.foldlM (readField table) start = some (c.refilled fields start) := by
  induction fields generalizing start with
  | nil => rfl
  | cons field others ih =>
    have hread : readField table start field = some (start.set field (c.get field)) := by
      unfold readField
      rcases h field List.mem_cons_self with hsaid | ⟨hunsaid, hsame⟩
      · rw [hsaid]
      · rw [hunsaid, ← hsame, set_get_self]
    rw [List.foldlM_cons, hread]
    refine ih fun other hother => ?_
    refine (h other (List.mem_cons_of_mem _ hother)).imp_right fun ⟨hunsaid, hsame⟩ => ⟨hunsaid, ?_⟩
    by_cases hfield : other = field
    · rw [hfield, get_set_self]
    · rw [get_set_of_ne _ hfield, hsame]

theorem get_refilled (c : Config) {fields : List Field} {start : Config} {field : Field}
    (h : field ∈ fields ∨ start.get field = c.get field) :
    (c.refilled fields start).get field = c.get field := by
  induction fields generalizing start with
  | nil => exact h.resolve_left List.not_mem_nil
  | cons first others ih =>
    refine ih ?_
    by_cases hfirst : field = first
    · subst hfirst
      exact .inr (get_set_self ..)
    · refine h.imp (fun hmem => ?_) (fun hsame => ?_)
      · exact (List.mem_cons.mp hmem).resolve_left hfirst
      · exact (get_set_of_ne _ hfirst _).trans hsame

theorem logLevel_refilled (c : Config) (fields : List Field) (start : Config) :
    (c.refilled fields start).logLevel = start.logLevel := by
  induction fields generalizing start with
  | nil => rfl
  | cons field others ih => exact (ih _).trans (logLevel_set ..)

theorem eq_of_get {c d : Config} (h : ∀ field, c.get field = d.get field)
    (hlevel : c.logLevel = d.logLevel) : c = d := by
  obtain ⟨⟩ := c
  obtain ⟨⟩ := d
  rw [Config.mk.injEq]
  exact ⟨h .sourcePlugin, h .sourceClass, h .filterPlugin, h .filterClass, h .sourceName,
    h .filterName, h .sinkName, h .inputsKey, hlevel⟩

theorem get_withLevel (c : Config) (level : LogLevel) (field : Field) :
    { c with logLevel := level }.get field = c.get field := by
  cases field <;> rfl

theorem readLevel_of_lookup {table : Toml.Table} {level : LogLevel}
    (h : Assoc.lookup logLevelKey table = some (.text level.name)) (config : Config) :
    readLevel table config = some { config with logLevel := level } := by
  unfold readLevel
  rw [h]
  dsimp only [levelOf?]
  rw [LogLevel.ofName?_name]
  rfl

theorem ofTable?_texts (c : Config) : ofTable? (.ofTexts c.texts) = some c := by
  have hfields : ∀ field ∈ Field.all,
      Assoc.lookup field.key (Toml.Table.ofTexts c.texts) = some (.text (c.get field)) :=
    fun field hfield => c.lookup_texts (List.mem_append_left _ (List.mem_map_of_mem hfield))
  have hlevel : Assoc.lookup logLevelKey (Toml.Table.ofTexts c.texts) =
      some (.text c.logLevel.name) :=
    c.lookup_texts (List.mem_append_right _ (List.mem_singleton.mpr rfl))
  unfold ofTable?
  rw [foldlM_readField c fun field hfield => .inl (hfields field hfield), Option.bind_some,
    readLevel_of_lookup hlevel]
  refine congrArg some (eq_of_get (fun field => ?_) rfl)
  rw [get_withLevel, get_refilled c (.inl field.mem_all)]

/-- However the texts are spelled, a document of all fields is read as it was meant. -/
theorem parse_spelled {format : Toml.Format} (h : format.ReadsTexts) (c : Config)
    {document : String} (hspelled : Toml.Spelled c.texts document.toList) :
    parse format document = c.validate.map fun _ => c := by
  unfold parse
  rw [h _ _ hspelled c.nodup_keys_texts, Option.bind_some, ofTable?_texts]
  dsimp only
  rcases c.validate with e | ⟨⟩ <;> rfl

theorem write_ok {format : Toml.Format} (h : format.WritesTexts) (c : Config) :
    ∃ document, c.write format = .ok document ∧ Toml.Spelled c.texts document.toList := by
  obtain ⟨document, hwrite, hspelled⟩ := h c.texts (fun _ => c.isBare_of_mem_keys) c.nodup_keys_texts
  refine ⟨document, ?_, hspelled⟩
  unfold write
  rw [hwrite]

end Config

/-! ## Files -/

theorem bind_eq_ok_iff {ε β γ : Type} {made : Except ε β} {next : β → Except ε γ} {result : γ} :
    made >>= next = .ok result ↔ ∃ item, made = .ok item ∧ next item = .ok result := by
  rcases made with e | item
  · exact ⟨nofun, nofun⟩
  · exact ⟨fun h => ⟨item, rfl, h⟩, by rintro ⟨_, ⟨⟩, h⟩; exact h⟩

namespace Files

variable {tree later : Files}

theorem checkDirectory_eq_ok_iff {place : Place} :
    tree.checkDirectory place = .ok () ↔ tree.isDirectory place = true := by
  unfold checkDirectory
  split
  · next h => exact ⟨fun _ => h, fun _ => rfl⟩
  · next h =>
    refine ⟨fun hok => ?_, fun hok => absurd hok h⟩
    split at hok <;> cases hok

theorem walk_cons_eq_ok_iff {place last : Place} {name : String} {rest : List String} :
    tree.walk place (name :: rest) = .ok last ↔
      tree.isDirectory place = true ∧
        ∃ next, step place name = .ok next ∧ tree.walk next rest = .ok last := by
  rw [walk, bind_eq_ok_iff]
  simp only [bind_eq_ok_iff, ← checkDirectory_eq_ok_iff]
  exact ⟨fun ⟨_, hcheck, hrest⟩ => ⟨hcheck, hrest⟩, fun ⟨hcheck, hrest⟩ => ⟨(), hcheck, hrest⟩⟩

theorem resolve_eq_ok_iff {path : String} {place : Place} :
    tree.resolve path = .ok place ↔
      checkPath path = .ok () ∧ tree.walk (tree.start path) (names path) = .ok place := by
  unfold resolve
  rw [bind_eq_ok_iff]
  exact ⟨fun ⟨_, hcheck, hwalk⟩ => ⟨hcheck, hwalk⟩, fun ⟨hcheck, hwalk⟩ => ⟨(), hcheck, hwalk⟩⟩

theorem walk_of_directories (h : later.directories = tree.directories) {place last : Place}
    {names : List String} (hwalk : tree.walk place names = .ok last) :
    later.walk place names = .ok last := by
  induction names generalizing place with
  | nil => exact hwalk
  | cons name rest ih =>
    obtain ⟨hdirectory, next, hstep, hrest⟩ := walk_cons_eq_ok_iff.mp hwalk
    refine walk_cons_eq_ok_iff.mpr ⟨?_, next, hstep, ih hrest⟩
    unfold isDirectory at hdirectory ⊢
    rw [h]
    exact hdirectory

theorem resolve_of_directories (hdirectories : later.directories = tree.directories)
    (hstart : later.workingDirectory = tree.workingDirectory) {path : String} {place : Place}
    (h : tree.resolve path = .ok place) : later.resolve path = .ok place := by
  obtain ⟨hcheck, hwalk⟩ := resolve_eq_ok_iff.mp h
  have hsame : later.start path = tree.start path := by
    unfold start
    rw [hstart]
  exact resolve_eq_ok_iff.mpr ⟨hcheck, hsame ▸ walk_of_directories hdirectories hwalk⟩

theorem walk_concat {place directory last : Place} {names : List String} {name : String}
    (hwalk : tree.walk place names = .ok directory)
    (hdirectory : tree.isDirectory directory = true) (hstep : step directory name = .ok last) :
    tree.walk place (names ++ [name]) = .ok last := by
  induction names generalizing place with
  | nil =>
    cases hwalk
    exact walk_cons_eq_ok_iff.mpr ⟨hdirectory, last, hstep, rfl⟩
  | cons first rest ih =>
    obtain ⟨hfirst, next, hnext, hrest⟩ := walk_cons_eq_ok_iff.mp hwalk
    exact walk_cons_eq_ok_iff.mpr ⟨hfirst, next, hnext, ih hrest⟩

theorem resolve_of_resolveNew {path : String} {place : Place}
    (h : tree.resolveNew path = .ok place) : tree.resolve path = .ok place := by
  unfold resolveNew at h
  obtain ⟨_, hcheck, h⟩ := bind_eq_ok_iff.mp h
  obtain ⟨directory, hwalk, h⟩ := bind_eq_ok_iff.mp h
  obtain ⟨_, hthere, h⟩ := bind_eq_ok_iff.mp h
  split at h
  · next name hlast =>
    split at h
    · cases h
    · next hname =>
      obtain ⟨before, hnames⟩ := List.getLast?_eq_some_iff.mp hlast
      -- The last name is not empty, so none are dropped before it is taken off.
      have hsome : name ≠ "" := by
        rintro rfl
        exact hname List.mem_cons_self
      have hbefore : ((names path).reverse.dropWhile (· = "")).tail.reverse = before := by
        rw [hnames, List.reverse_concat, List.dropWhile_cons, if_neg (by simpa using hsome)]
        exact List.reverse_reverse before
      rw [hbefore] at hwalk
      refine resolve_eq_ok_iff.mpr ⟨hcheck, ?_⟩
      rw [hnames]
      exact walk_concat hwalk (checkDirectory_eq_ok_iff.mp hthere) h
  · cases h

theorem read_of_file? {path : String} {place : Place} {bytes : ByteArray}
    (hplace : tree.resolve path = .ok place) (hfree : tree.isDirectory place = false)
    (hfile : tree.file? place = some bytes) : tree.read path = .ok bytes := by
  unfold read
  rw [hplace]
  dsimp only [bind, Except.bind]
  rw [hfree, if_neg Bool.false_ne_true, hfile]
  rfl

theorem read_write {path : String} {bytes : ByteArray} {place : Place}
    (hplace : tree.resolveNew path = .ok place) (hkept : place ∉ tree.voids)
    (h : tree.write path bytes = .ok later) : later.read path = .ok bytes := by
  have hresolve (hdirectories : later.directories = tree.directories)
      (hstart : later.workingDirectory = tree.workingDirectory) :=
    resolve_of_directories hdirectories hstart (resolve_of_resolveNew hplace)
  unfold write at h
  rw [hplace] at h
  dsimp only [bind, Except.bind] at h
  split at h
  · cases h
  · next hfree =>
    cases h
    refine read_of_file? (hresolve rfl rfl) (Bool.eq_false_iff.mpr hfree) ?_
    unfold file?
    rw [if_neg hkept, List.find?_cons_of_pos (by simp)]
    rfl

theorem readText_write {path text : String} {place : Place}
    (hplace : tree.resolveNew path = .ok place) (hkept : place ∉ tree.voids)
    (h : tree.write path text.toUTF8 = .ok later) : later.readText path = .ok text := by
  have hdecode : String.fromUTF8? text.toUTF8 = some text := dif_pos text.isValidUTF8
  unfold readText
  rw [read_write hplace hkept h]
  dsimp only [bind, Except.bind]
  rw [hdecode]
  rfl

end Files

namespace Config

/--
With a format that writes texts as TOML spells them, and reads what TOML spells, a configuration is
read back as it was, if it is valid, and otherwise refused for what is wrong with it. It does not
matter how the document spells the texts, and a file to which the configuration was saved gives it
back as well.
-/
theorem round_trip {format : Toml.Format} (hwrites : format.WritesTexts)
    (hreads : format.ReadsTexts) (c : Config) :
    (∃ document, c.write format = .ok document ∧
      parse format document = c.validate.map fun _ => c) ∧
    (∀ document : String, Toml.Spelled c.texts document.toList →
      parse format document = c.validate.map fun _ => c) ∧
    ∀ tree path place later, tree.resolveNew path = .ok place → place ∉ tree.voids →
      save format tree path c = .ok later →
      load format later path = c.validate.map fun _ => (c, .configLoaded path) := by
  obtain ⟨document, hwrite, hspelled⟩ := write_ok hwrites c
  have hparse := c.parse_spelled hreads hspelled
  refine ⟨⟨document, hwrite, hparse⟩, fun _ => c.parse_spelled hreads, ?_⟩
  intro tree path place later hplace hkept hsave
  unfold save at hsave
  rw [hwrite] at hsave
  have hfile : tree.write path document.toUTF8 = .ok later := by
    dsimp only at hsave
    cases htree : tree.write path document.toUTF8 with
    | error e =>
      rw [htree] at hsave
      cases hsave
    | ok changed =>
      rw [htree] at hsave
      cases hsave
      rfl
  unfold load
  rw [Files.readText_write hplace hkept hfile]
  dsimp only
  rw [hparse]
  cases c.validate <;> rfl

def garbled : Config := { inputsKey := "\"\\\r\n" }

theorem round_trip_garbled :
    Toml.plain.WritesTexts ∧ Toml.plain.ReadsTexts ∧
    (∃ document, garbled.write Toml.plain = .ok document ∧
      parse Toml.plain document = .ok garbled) ∧
    ∃ place later, Files.bare.resolveNew "rc" = .ok place ∧ place ∉ Files.bare.voids ∧
      save Toml.plain .bare "rc" garbled = .ok later ∧
      load Toml.plain later "rc" = .ok (garbled, .configLoaded "rc") := by
  obtain ⟨⟨document, hwrite, hparse⟩, -, hfiles⟩ :=
    round_trip Toml.plain_writesTexts Toml.plain_readsTexts garbled
  have hvalid : garbled.validate = .ok () := rfl
  have hplace : Files.bare.resolveNew "rc" = .ok ["work", "rc"] := by cbv
  have hkept : ["work", "rc"] ∉ Files.bare.voids := by decide +kernel
  obtain ⟨later, hsave⟩ : ∃ later, save Toml.plain .bare "rc" garbled = .ok later := by
    unfold save Files.write
    rw [hwrite, hplace]
    exact ⟨_, rfl⟩
  have hload := hfiles .bare "rc" _ _ hplace hkept hsave
  rw [hvalid] at hparse hload
  exact ⟨Toml.plain_writesTexts, Toml.plain_readsTexts, ⟨document, hwrite, hparse⟩,
    _, _, hplace, hkept, hsave, hload⟩

end Config

end TraceFlow
