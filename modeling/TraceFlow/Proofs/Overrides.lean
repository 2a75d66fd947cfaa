import Mathlib.Tactic.Choose
import Mathlib.Tactic.FinCases
import TraceFlow.Proofs.RoundTrip

/-!
# A document overrides what it mentions

The configuration of a document is the usual one with the texts in place that the document has under
the keys of the fields. Nothing else in the document matters, nor does the order in which anything
stands there.
-/

namespace TraceFlow

namespace Toml

/-- The format reads every document that has a meaning as what it means. -/
def Format.Follows (format : Format) (Means : String → Table → Prop) : Prop :=
  ∀ document table, Means document table → format.read document = some table

/-- A table has a text under a key. -/
def Says (table : Table) (key text : String) : Prop :=
  Assoc.lookup key table = some (.text text)

end Toml

namespace Config

open Toml (Says)

/-! ## What a configuration takes from a document -/

/-- The keys that mean something in the document of a configuration. -/
def knownKeys : List String := Field.all.map Field.key ++ [logLevelKey]

/-- Of the known keys, those that are in the table hold texts. -/
def HoldsTexts (table : Toml.Table) : Prop :=
  ∀ key ∈ knownKeys, ∀ item, Assoc.lookup key table = some item → ∃ text, item = .text text

/-- The configuration is the usual one but for what the table says. -/
structure Overrides (table : Toml.Table) (c : Config) : Prop where
  said : ∀ field text, Says table field.key text → c.get field = text
  unsaid : ∀ field, (∀ text, ¬ Says table field.key text) →
    c.get field = (default : Config).get field
  levelSaid : ∀ name, Says table logLevelKey name → c.logLevel.name = name
  levelUnsaid : (∀ name, ¬ Says table logLevelKey name) →
    c.logLevel = (default : Config).logLevel

def levelNames : List String := ["trace", "debug", "info", "warning", "error", "fatal", "none"]

theorem mem_levelNames {name : String} :
    name ∈ levelNames ↔ ∃ level : LogLevel, level.name = name := by
  constructor
  · intro h
    have hlevels : ∀ name ∈ levelNames, (LogLevel.ofName? name).isSome := by decide
    obtain ⟨level, hlevel⟩ := Option.isSome_iff_exists.mp (hlevels name h)
    exact ⟨level, (LogLevel.eq_name_of_ofName? hlevel).symm⟩
  · rintro ⟨level, rfl⟩
    cases level <;> simp [levelNames, LogLevel.name]

def ofFields (text : Field → String) (logLevel : LogLevel) : Config where
  sourcePlugin := text .sourcePlugin
  sourceClass := text .sourceClass
  filterPlugin := text .filterPlugin
  filterClass := text .filterClass
  sourceName := text .sourceName
  filterName := text .filterName
  sinkName := text .sinkName
  inputsKey := text .inputsKey
  logLevel := logLevel

theorem get_ofFields (text : Field → String) (logLevel : LogLevel) (field : Field) :
    (ofFields text logLevel).get field = text field := by
  cases field <;> rfl

theorem mem_knownKeys (field : Field) : field.key ∈ knownKeys :=
  List.mem_append_left _ (List.mem_map_of_mem field.mem_all)

theorem logLevelKey_mem_knownKeys : logLevelKey ∈ knownKeys :=
  List.mem_append_right _ (List.mem_singleton.mpr rfl)

/-! ## Reading a document -/

section

variable {table other : Toml.Table} {c d : Config}

theorem HoldsTexts.said_or_unsaid (h : HoldsTexts table) {key : String} (hkey : key ∈ knownKeys) :
    (∃ text, Says table key text) ∨
      (∀ text, ¬ Says table key text) ∧ Assoc.lookup key table = none := by
  unfold Says
  rcases hlookup : Assoc.lookup key table with _ | item
  · exact .inr ⟨nofun, rfl⟩
  · obtain ⟨text, rfl⟩ := h key hkey item hlookup
    exact .inl ⟨text, rfl⟩

theorem Overrides.eq (h : HoldsTexts table) (hc : Overrides table c) (hd : Overrides table d) :
    c = d := by
  apply eq_of_get
  · intro field
    rcases h.said_or_unsaid (mem_knownKeys field) with ⟨text, htext⟩ | ⟨hnone, -⟩
    · rw [hc.said field text htext, hd.said field text htext]
    · rw [hc.unsaid field hnone, hd.unsaid field hnone]
  · rcases h.said_or_unsaid logLevelKey_mem_knownKeys with ⟨name, htext⟩ | ⟨hnone, -⟩
    · apply LogLevel.eq_of_name_eq
      rw [hc.levelSaid name htext, hd.levelSaid name htext]
    · rw [hc.levelUnsaid hnone, hd.levelUnsaid hnone]

theorem Overrides.of_says_iff (h : ∀ key ∈ knownKeys, ∀ text,
      Says table key text ↔ Says other key text) (hc : Overrides table c) :
    Overrides other c where
  said field text htext := hc.said field text ((h _ (mem_knownKeys field) text).mpr htext)
  unsaid field hnone :=
    hc.unsaid field fun text htext => hnone text ((h _ (mem_knownKeys field) text).mp htext)
  levelSaid name htext := hc.levelSaid name ((h _ logLevelKey_mem_knownKeys name).mpr htext)
  levelUnsaid hnone :=
    hc.levelUnsaid fun name htext => hnone name ((h _ logLevelKey_mem_knownKeys name).mp htext)

theorem exists_said_or_usual (table : Toml.Table) (key usual : String) :
    ∃ text, (∀ said, Says table key said → text = said) ∧
      ((∀ said, ¬ Says table key said) → text = usual) := by
  by_cases hsaid : ∃ text, Says table key text
  · obtain ⟨text, htext⟩ := hsaid
    refine ⟨text, ?_, fun hnone => absurd htext (hnone text)⟩
    intro said hother
    cases htext.symm.trans hother
    rfl
  · exact ⟨usual, fun said htext => absurd ⟨said, htext⟩ hsaid, fun _ => rfl⟩

/-- Only the name of a level can be in the way of a configuration for a table. -/
theorem exists_overrides (h : ∀ name, Says table logLevelKey name → name ∈ levelNames) :
    ∃ c, Overrides table c := by
  choose text hsaid hunsaid using fun field : Field =>
    exists_said_or_usual table field.key ((default : Config).get field)
  obtain ⟨name, hnamed, husual⟩ :=
    exists_said_or_usual table logLevelKey (default : Config).logLevel.name
  have hname : name ∈ levelNames := by
    by_cases hgiven : Says table logLevelKey name
    · exact h name hgiven
    · rw [husual fun said htext => hgiven (hnamed said htext ▸ htext)]
      exact mem_levelNames.mpr ⟨_, rfl⟩
  obtain ⟨level, rfl⟩ := mem_levelNames.mp hname
  refine ⟨ofFields text level, ?_, ?_, hnamed, ?_⟩
  · intro field said htext
    rw [get_ofFields, hsaid field said htext]
  · intro field hnone
    rw [get_ofFields, hunsaid field hnone]
  · exact fun hnone => LogLevel.eq_of_name_eq (husual hnone)

theorem ofTable?_of_overrides (h : HoldsTexts table) (hc : Overrides table c) :
    ofTable? table = some c := by
  have hfields : ∀ field ∈ Field.all,
      Assoc.lookup field.key table = some (.text (c.get field)) ∨
        Assoc.lookup field.key table = none ∧ (default : Config).get field = c.get field := by
    intro field _
    refine (h.said_or_unsaid (mem_knownKeys field)).imp ?_ ?_
    · rintro ⟨text, htext⟩
      rw [hc.said field text htext]
      exact htext
    · rintro ⟨hnone, hlookup⟩
      exact ⟨hlookup, (hc.unsaid field hnone).symm⟩
  unfold ofTable?
  rw [foldlM_readField c hfields, Option.bind_some]
  have hrefilled (field : Field) : (c.refilled Field.all default).get field = c.get field :=
    get_refilled c (.inl field.mem_all)
  rcases h.said_or_unsaid logLevelKey_mem_knownKeys with ⟨name, htext⟩ | ⟨hnone, hlookup⟩
  · have hlevel : Says table logLevelKey c.logLevel.name := by
      rw [hc.levelSaid name htext]
      exact htext
    rw [readLevel_of_lookup hlevel]
    refine congrArg some (eq_of_get ?_ rfl)
    intro field
    rw [get_withLevel, hrefilled]
  · unfold readLevel
    rw [hlookup]
    refine congrArg some (eq_of_get hrefilled ?_)
    rw [logLevel_refilled, hc.levelUnsaid hnone]

theorem ofTable?_eq_some_iff (h : HoldsTexts table) :
    ofTable? table = some c ↔ Overrides table c := by
  refine ⟨fun hread => ?_, ofTable?_of_overrides h⟩
  have hnames : ∀ name, Says table logLevelKey name → name ∈ levelNames := by
    intro name htext
    obtain ⟨filled, -, hlevel⟩ := Option.bind_eq_some_iff.mp hread
    rw [readLevel, htext] at hlevel
    obtain ⟨level, hname, -⟩ := Option.map_eq_some_iff.mp hlevel
    exact mem_levelNames.mpr ⟨level, (LogLevel.eq_name_of_ofName? hname).symm⟩
  obtain ⟨d, hd⟩ := exists_overrides hnames
  rw [ofTable?_of_overrides h hd] at hread
  cases hread
  exact hd

theorem parse_eq_ok_iff {format : Toml.Format} {document : String} :
    parse format document = .ok c ↔
      (format.read document).bind ofTable? = some c ∧ c.validate = .ok () := by
  unfold parse
  rcases (format.read document).bind ofTable? with _ | d
  · exact ⟨nofun, nofun⟩
  · dsimp only
    rw [bind_eq_ok_iff]
    constructor
    · rintro ⟨⟨⟩, hvalid, ⟨⟩⟩
      exact ⟨rfl, hvalid⟩
    · rintro ⟨⟨⟩, hvalid⟩
      exact ⟨(), hvalid, rfl⟩

/--
With a format that follows what TOML says documents mean, a document with texts under those of the
known keys that occur in it asks for one configuration, the usual one but for what it says, unless
it names a level that there is not. It is read as that configuration exactly if the configuration is
legible. Documents that say the same under the known keys are read alike, and whatever is read from
any document is valid.
-/
theorem overrides_exactly {format : Toml.Format} {Means : String → Toml.Table → Prop}
    (hfollows : format.Follows Means) :
    (∀ document table, Means document table → HoldsTexts table →
      ((∃! c, Overrides table c) ↔
        ∀ name, Says table logLevelKey name → name ∈ levelNames) ∧
      ∀ c, parse format document = .ok c ↔ Overrides table c ∧ c.Legible) ∧
    (∀ first second table other, Means first table → Means second other → HoldsTexts table →
      HoldsTexts other →
      (∀ key ∈ knownKeys, ∀ said, Says table key said ↔ Says other key said) →
      parse format first = parse format second) ∧
    ∀ document c, parse format document = .ok c → c.validate = .ok () := by
  have hread {document table} (hmeans : Means document table) (htexts : HoldsTexts table)
      (c : Config) : (format.read document).bind ofTable? = some c ↔ Overrides table c := by
    rw [hfollows document table hmeans, Option.bind_some, ofTable?_eq_some_iff htexts]
  refine ⟨?_, ?_, ?_⟩
  · intro document table hmeans htexts
    refine ⟨⟨?_, ?_⟩, ?_⟩
    · rintro ⟨c, hc, -⟩ name htext
      exact mem_levelNames.mpr ⟨c.logLevel, hc.levelSaid name htext⟩
    · intro hnames
      obtain ⟨c, hc⟩ := exists_overrides hnames
      exact ⟨c, hc, fun d hd => hd.eq htexts hc⟩
    · intro c
      rw [parse_eq_ok_iff, hread hmeans htexts, validate_eq_ok_iff]
  · intro first second table other hfirst hsecond htexts hothers hsame
    have halike : (format.read first).bind ofTable? = (format.read second).bind ofTable? := by
      apply Option.ext
      intro c
      rw [hread hfirst htexts, hread hsecond hothers]
      exact ⟨Overrides.of_says_iff hsame,
        Overrides.of_says_iff fun key hkey said => (hsame key hkey said).symm⟩
    unfold parse
    rw [halike]
  · intro document c h
    exact (parse_eq_ok_iff.mp h).2

end

/-- A document with a comment, a number of no meaning here, and a table of its own. -/
def lavish : String :=
  "# names\nsink_name = 'out'\nretries = 3\nlog_level = \"debug\"\n[tool]\nsource_class = 5\n"

def plain : String := "log_level = \"debug\"\nsink_name = \"out\"\n"

def lavishTable : Toml.Table :=
  [("sink_name", .text "out"), ("retries", .scalar), ("log_level", .text "debug"),
    ("tool", .table [("source_class", .scalar)])]

def plainTable : Toml.Table := [("log_level", .text "debug"), ("sink_name", .text "out")]

def lavishExpressions : List Toml.Expression :=
  [.pair ([], "sink_name") (.text "out"), .pair ([], "retries") .scalar,
    .pair ([], "log_level") (.text "debug"), .table ([], "tool"),
    .pair ([], "source_class") .scalar]

theorem overrides_exactly_reordered :
    Toml.plain.Follows (fun document table => Toml.parse? document = some table) ∧
      Toml.parse? lavish = some lavishTable ∧ Toml.parse? plain = some plainTable ∧
      HoldsTexts lavishTable ∧ HoldsTexts plainTable ∧ (∃! c, Overrides lavishTable c) ∧
      parse Toml.plain lavish = .ok { sinkName := "out", logLevel := .debug } ∧
      validate { sinkName := "out", logLevel := .debug } = .ok () := by
  have hfollows : Toml.plain.Follows fun document table => Toml.parse? document = some table :=
    fun _ _ hmeans => hmeans
  have hlavish : Toml.parse? lavish = some lavishTable := by
    have hread : Toml.expressions? lavish = some lavishExpressions := rfl
    unfold Toml.parse?
    rw [hread]
    rfl
  have hplain : Toml.parse? plain = some plainTable := by
    have hread : Toml.expressions? plain = some (Toml.expressionsOf
        [("log_level", "debug"), ("sink_name", "out")]) := rfl
    unfold Toml.parse?
    rw [hread]
    rfl
  have htexts : HoldsTexts lavishTable := by
    intro key hkey item hitem
    fin_cases hkey <;>
      simp_all [lavishTable, Assoc.lookup, Field.key, logLevelKey, eq_comm]
  have hplainTexts : HoldsTexts plainTable := by
    intro key hkey item hitem
    fin_cases hkey <;>
      simp_all [plainTable, Assoc.lookup, Field.key, logLevelKey, eq_comm]
  have hnames : ∀ name, Says lavishTable logLevelKey name → name ∈ levelNames := by
    simp [Says, lavishTable, Assoc.lookup, logLevelKey, levelNames]
  have hsame : ∀ key ∈ knownKeys, ∀ said, Says lavishTable key said ↔ Says plainTable key said := by
    intro key hkey said
    fin_cases hkey <;>
      simp [Says, lavishTable, plainTable, Assoc.lookup, Field.key, logLevelKey]
  obtain ⟨hread, halike, hvalid⟩ := overrides_exactly hfollows
  have hparse : parse Toml.plain lavish = .ok { sinkName := "out", logLevel := .debug } := by
    rw [halike _ _ _ _ hlavish hplain htexts hplainTexts hsame, parse,
      show Toml.plain.read plain = some plainTable from hplain]
    rfl
  exact ⟨hfollows, hlavish, hplain, htexts, hplainTexts,
    (hread _ _ hlavish htexts).1.mpr hnames, hparse, hvalid _ _ hparse⟩

end Config

end TraceFlow
