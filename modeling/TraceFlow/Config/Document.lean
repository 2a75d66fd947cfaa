import TraceFlow.Config.Basic
import TraceFlow.Journal
import TraceFlow.Toml.Format

/-!
# Configurations as documents

A document replaces the fields that it mentions; whatever else it holds does not matter. A
configuration is written with all of its fields.
-/

namespace TraceFlow.Config

/-! ## Reading -/

/-- The log level that an item gives: by its name, or by its name with nothing under it. -/
def levelOf? : Toml.Item → Option LogLevel
  | .text name => LogLevel.ofName? name
  | .table [(name, .table [])] => LogLevel.ofName? name
  | .table [(name, .array [])] => LogLevel.ofName? name
  | _ => none

/-- Replaces a field that a table mentions; it must be a text there. -/
def readField (table : Toml.Table) (config : Config) (field : Field) : Option Config :=
  match Assoc.lookup field.key table with
  | none => some config
  | some (.text text) => some (config.set field text)
  | some _ => none

/-- Replaces the log level if a table mentions it. -/
def readLevel (table : Toml.Table) (config : Config) : Option Config :=
  match Assoc.lookup logLevelKey table with
  | none => some config
  | some item => (levelOf? item).map fun level => { config with logLevel := level }

/-- The usual configuration with the fields replaced that a table mentions. -/
def ofTable? (table : Toml.Table) : Option Config :=
  (Field.all.foldlM (readField table) default).bind (readLevel table)

/-- The configuration of a document; it is refused also if it is not valid. -/
def parse (format : Toml.Format) (document : String) : Except ConfigError Config :=
  match (format.read document).bind ofTable? with
  | none => .error .malformed
  | some config => do
    config.validate
    return config

/-! ## Writing -/

/-- The texts of all fields, each under its key. -/
def texts (config : Config) : List (String × String) :=
  Field.all.map (fun field => (field.key, config.get field)) ++
    [(logLevelKey, config.logLevel.name)]

/-- The document of a configuration. -/
def write (format : Toml.Format) (config : Config) : Except ConfigError String :=
  match format.write config.texts with
  | none => .error .unwritable
  | some document => .ok document

/-! ## Files -/

/-- Reads a configuration from a file; a line of the log tells so. -/
def load (format : Toml.Format) (tree : Files) (path : String) :
    Except ConfigError (Config × LogLine) :=
  match tree.readText path with
  | .error e => .error (.unreadable path e)
  | .ok document => (parse format document).map fun config => (config, .configLoaded path)

/-- Writes a configuration into a file. -/
def save (format : Toml.Format) (tree : Files) (path : String) (config : Config) :
    Except TraceError Files :=
  match config.write format with
  | .error e => .error (.config e)
  | .ok document => (tree.write path document.toUTF8).mapError .file

end TraceFlow.Config
