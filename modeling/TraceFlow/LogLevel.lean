/-!
# Log levels

Every component is handed the verbosity it should log with. A level lets pass the log lines of its
own severity and of all graver ones.
-/

namespace TraceFlow

inductive Severity where
  | error
  | warn
  | info
  | debug
  | trace
deriving DecidableEq, Repr, Inhabited

namespace Severity

def all : List Severity := [.error, .warn, .info, .debug, .trace]

/-- How much has to be let through for a line of this severity to pass. -/
def verbosity : Severity → Nat
  | .error => 1
  | .warn => 2
  | .info => 3
  | .debug => 4
  | .trace => 5

def label : Severity → String
  | .error => "ERROR"
  | .warn => "WARN"
  | .info => "INFO"
  | .debug => "DEBUG"
  | .trace => "TRACE"

end Severity

/-- The verbosity of a component, from the most talkative to silence. -/
inductive LogLevel where
  | trace
  | debug
  | info
  | warning
  | error
  | fatal
  | none
deriving DecidableEq, Repr

namespace LogLevel

instance : Inhabited LogLevel := ⟨.info⟩

def all : List LogLevel := [.trace, .debug, .info, .warning, .error, .fatal, .none]

def name : LogLevel → String
  | .trace => "trace"
  | .debug => "debug"
  | .info => "info"
  | .warning => "warning"
  | .error => "error"
  | .fatal => "fatal"
  | .none => "none"

/-- The place of a level in the order: the more talkative, the less. -/
def rank : LogLevel → Nat
  | .trace => 0
  | .debug => 1
  | .info => 2
  | .warning => 3
  | .error => 4
  | .fatal => 5
  | .none => 6

instance : Ord LogLevel := ⟨fun a b => compare a.rank b.rank⟩

instance : LE LogLevel := ⟨fun a b => a.rank ≤ b.rank⟩

instance (a b : LogLevel) : Decidable (a ≤ b) := inferInstanceAs (Decidable (a.rank ≤ b.rank))

/-- The gravest severity that is let through besides all graver ones; nothing passes at `none`. -/
def filter? : LogLevel → Option Severity
  | .trace => some .trace
  | .debug => some .debug
  | .info => some .info
  | .warning => some .warn
  | .error => some .error
  | .fatal => some .error
  | .none => Option.none

def enables (level : LogLevel) (severity : Severity) : Bool :=
  match level.filter? with
  | some limit => severity.verbosity ≤ limit.verbosity
  | Option.none => false

/-- The level of exactly that name. -/
def ofName? : String → Option LogLevel
  | "trace" => some .trace
  | "debug" => some .debug
  | "info" => some .info
  | "warning" => some .warning
  | "error" => some .error
  | "fatal" => some .fatal
  | "none" => some .none
  | _ => Option.none

/-- Names that stand for a level besides its own. -/
def ofAlias? : String → Option LogLevel
  | "warn" => some .warning
  | "off" => some .none
  | _ => Option.none

/-- Reads a level in any mixture of ASCII cases; a name that is none is told in lower case. -/
def parse (text : String) : Except String LogLevel :=
  let lower := text.map Char.toLower
  match (ofName? lower).or (ofAlias? lower) with
  | some level => .ok level
  | Option.none => .error s!"unknown log level '{lower}'"

theorem ofName?_name (level : LogLevel) : ofName? level.name = some level := by
  cases level <;> rfl

theorem eq_name_of_ofName? {text : String} {level : LogLevel} (h : ofName? text = some level) :
    text = level.name := by
  unfold ofName? at h
  split at h <;> cases h <;> rfl

theorem eq_of_name_eq {a b : LogLevel} (h : a.name = b.name) : a = b := by
  apply Option.some.inj
  rw [← ofName?_name, ← ofName?_name, h]

end LogLevel

/-- The filter of log lines that is in force when the environment asks for none. -/
def defaultFilter : String := "info,tracegraph=debug"

end TraceFlow
