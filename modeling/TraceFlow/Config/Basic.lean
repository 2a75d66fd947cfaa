import TraceFlow.Error
import TraceFlow.LogLevel
import TraceFlow.Text.Blank

/-!
# Configurations

A configuration names the plugins and classes that a trace context is built from, the components
that it consists of, the parameter that takes the locators, and the log level of all components.
-/

namespace TraceFlow

structure Config where
  sourcePlugin : String := "ctf"
  sourceClass : String := "fs"
  filterPlugin : String := "utils"
  filterClass : String := "muxer"
  sourceName : String := "input"
  filterName : String := "muxer"
  sinkName : String := "simple sink"
  /-- The parameter under which a source is given its locators. -/
  inputsKey : String := "inputs"
  logLevel : LogLevel := .info
deriving DecidableEq, Repr

/-- The fields of a configuration that hold a name. -/
inductive Config.Field where
  | sourcePlugin
  | sourceClass
  | filterPlugin
  | filterClass
  | sourceName
  | filterName
  | sinkName
  | inputsKey
deriving DecidableEq, Repr

namespace Config

instance : Inhabited Config := ⟨{}⟩

namespace Field

/-- All fields, in their order. -/
def all : List Field :=
  [.sourcePlugin, .sourceClass, .filterPlugin, .filterClass, .sourceName, .filterName, .sinkName,
    .inputsKey]

/-- The name under which a field stands in a document. -/
def key : Field → String
  | sourcePlugin => "source_plugin"
  | sourceClass => "source_class"
  | filterPlugin => "filter_plugin"
  | filterClass => "filter_class"
  | sourceName => "source_name"
  | filterName => "filter_name"
  | sinkName => "sink_name"
  | inputsKey => "inputs_key"

end Field

/-- The name under which the log level stands in a document. -/
def logLevelKey : String := "log_level"

def get (c : Config) : Field → String
  | .sourcePlugin => c.sourcePlugin
  | .sourceClass => c.sourceClass
  | .filterPlugin => c.filterPlugin
  | .filterClass => c.filterClass
  | .sourceName => c.sourceName
  | .filterName => c.filterName
  | .sinkName => c.sinkName
  | .inputsKey => c.inputsKey

def set (c : Config) (field : Field) (text : String) : Config :=
  match field with
  | .sourcePlugin => { c with sourcePlugin := text }
  | .sourceClass => { c with sourceClass := text }
  | .filterPlugin => { c with filterPlugin := text }
  | .filterClass => { c with filterClass := text }
  | .sourceName => { c with sourceName := text }
  | .filterName => { c with filterName := text }
  | .sinkName => { c with sinkName := text }
  | .inputsKey => { c with inputsKey := text }

/-- The name of the source that reads locator `index`: only the first goes without a number. -/
def sourceInstanceName (c : Config) (index : Nat) : String :=
  if index = 0 then c.sourceName else s!"{c.sourceName}-{index}"

/-- Refuses blank names, and names of components that are the same. -/
def validate (c : Config) : Except ConfigError Unit :=
  match Field.all.find? fun field => Text.isBlankText (c.get field) with
  | some field => .error (.blank field.key)
  | none =>
    if c.sourceName = c.filterName ∨ c.sourceName = c.sinkName ∨ c.filterName = c.sinkName then
      .error .sameNames
    else .ok ()

/-! ## Lemmas -/

@[simp] theorem get_set_self (c : Config) (field : Field) (text : String) :
    (c.set field text).get field = text := by
  cases field <;> rfl

theorem get_set_of_ne (c : Config) {field other : Field} (h : other ≠ field) (text : String) :
    (c.set field text).get other = c.get other := by
  cases field <;> cases other <;> simp_all [set, get]

theorem set_get_self (c : Config) (field : Field) : c.set field (c.get field) = c := by
  cases field <;> rfl

@[simp] theorem logLevel_set (c : Config) (field : Field) (text : String) :
    (c.set field text).logLevel = c.logLevel := by
  cases field <;> rfl

theorem Field.mem_all (field : Field) : field ∈ all := by
  cases field <;> decide

/-- Every name shows something, and the components go by different names. -/
structure Legible (c : Config) : Prop where
  shown : ∀ field, ∃ char ∈ (c.get field).toList, Text.isBlank char = false
  source_filter : c.sourceName ≠ c.filterName
  source_sink : c.sourceName ≠ c.sinkName
  filter_sink : c.filterName ≠ c.sinkName

theorem validate_eq_ok_iff {c : Config} : c.validate = .ok () ↔ c.Legible := by
  have hshown : Field.all.find? (fun field => Text.isBlankText (c.get field)) = none ↔
      ∀ field, ∃ char ∈ (c.get field).toList, Text.isBlank char = false := by
    simp [List.find?_eq_none, Field.mem_all, ← Bool.not_eq_true, Text.isBlankText_iff]
  unfold validate
  constructor
  · intro hvalid
    split at hvalid
    · cases hvalid
    · next hnone =>
      split at hvalid
      · cases hvalid
      · next hdistinct =>
        simp only [not_or] at hdistinct
        exact ⟨hshown.mp hnone, hdistinct.1, hdistinct.2.1, hdistinct.2.2⟩
  · intro h
    rw [hshown.mpr h.shown]
    simp [h.source_filter, h.source_sink, h.filter_sink]

end Config

end TraceFlow
