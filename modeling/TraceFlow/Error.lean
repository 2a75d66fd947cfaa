import TraceFlow.Files
import TraceFlow.Graph.Error
import TraceFlow.Text.Quoted

/-!
# Errors

What can go wrong while a trace context is built, while it is pulled, and while configurations are
read and written. Whoever passes an error on may add a context, which stands before the text.
-/

namespace TraceFlow

/-- Byte arrays are compared byte by byte. -/
local instance decidableEqBytes : DecidableEq ByteArray := fun first last =>
  decidable_of_decidable_of_iff (p := first.data = last.data) ByteArray.ext_iff.symm

/-- What is wrong with a configuration or with the inputs that come with it. -/
inductive ConfigError where
  | blank (field : String)
  /-- Two of the source, the filter and the sink have the same name. -/
  | sameNames
  | noInput
  | locatorNotText (locator : ByteArray)
  /-- The document is not well formed, or a field in it is not of its kind. -/
  | malformed
  /-- The format has no document for the configuration. -/
  | unwritable
  | unreadable (path : String) (error : FileError)
  | other (reason : String)
deriving DecidableEq

def ConfigError.message : ConfigError → String
  | blank field => s!"'{field}' must not be empty"
  | sameNames => "source, filter and sink instance names must be distinct"
  | noInput => "no trace input given"
  | locatorNotText locator => "trace path " ++ Text.quotedBytes locator ++ " is not valid UTF-8"
  | malformed => "Failed to parse graph config"
  | unwritable => "Failed to serialize graph config"
  | unreadable path error => s!"Failed to read {path}: {error.message}"
  | other reason => reason

inductive TraceError where
  | allocationFailure (reason : String)
  | graphCreation (error : GraphError)
  | capabilityNotFound (plugin : String)
  | classNotFound (plugin className : String)
  | componentCreation (name : String) (error : GraphError)
  | noOutputPorts (component : String)
  | portConnection (upstream downstream : String) (error : GraphError)
  /-- A step failed after the graph had been put together. -/
  | execution (error : GraphError)
  | config (error : ConfigError)
  | file (error : FileError)
  | withContext (context : String) (error : TraceError)
deriving DecidableEq

namespace TraceError

def message : TraceError → String
  | allocationFailure reason => s!"Allocation failure: {reason}"
  | graphCreation error => s!"Graph creation failure: {error.message}"
  | capabilityNotFound plugin => s!"Capability not found: plugin '{plugin}'"
  | classNotFound plugin className =>
    s!"Component class '{className}' not found in plugin '{plugin}'"
  | componentCreation name error => s!"Failed to create component '{name}': {error.message}"
  | noOutputPorts name => s!"Source component '{name}' has no output ports"
  | portConnection upstream downstream error =>
    s!"Failed to connect '{upstream}' to '{downstream}': {error.message}"
  | execution error => s!"Execution error: {error.message}"
  | config error => s!"Configuration error: {error.message}"
  | file error => s!"IO error: {error.message}"
  | withContext context error => s!"{context}: {error.message}"

/-- The name of the kind of error, as reports give it. -/
def kindName : TraceError → String
  | allocationFailure _ => "AllocationFailure"
  | graphCreation _ => "GraphCreation"
  | capabilityNotFound _ => "CapabilityNotFound"
  | classNotFound .. => "ComponentClassNotFound"
  | componentCreation .. => "ComponentCreation"
  | noOutputPorts _ => "NoOutputPorts"
  | portConnection .. => "PortConnection"
  | execution _ => "Execution"
  | config _ => "Config"
  | file _ => "Io"
  | withContext .. => "WithContext"

/-- The error of the graph that the error itself holds, below no context. -/
def graphError? : TraceError → Option GraphError
  | graphCreation error => some error
  | componentCreation _ error => some error
  | portConnection _ _ error => some error
  | execution error => some error
  | _ => none

/-- The texts of what lies below the error, from the outermost to the root. -/
def chain : TraceError → List String
  | withContext _ error => error.message :: error.chain
  | file error => [error.message]
  | error =>
    match error.graphError? with
    | some inner => inner.message :: inner.chain
    | none => []

def root : TraceError → TraceError
  | withContext _ error => error.root
  | error => error

/-- The error of a failed addition; a lack of memory stays what it is. -/
def ofCreation (name : String) : GraphError → TraceError
  | .allocation reason => .allocationFailure reason
  | error => .componentCreation name error

/-- The error of a failed connection; a lack of memory stays what it is. -/
def ofConnection (upstream downstream : String) : GraphError → TraceError
  | .allocation reason => .allocationFailure reason
  | error => .portConnection upstream downstream error

end TraceError

/-! ## Adding a context to a result -/

section

variable {m : Type → Type} [Monad m] {β : Type}

def TraceError.addContext (context : String) : Except TraceError β → Except TraceError β
  | .error e => .error (.withContext context e)
  | .ok value => .ok value

def TraceError.addContextBy (make : m String) :
    Except TraceError β → m (Except TraceError β)
  | .error e => return .error (.withContext (← make) e)
  | .ok value => return .ok value

/-- Adds a context to a result of a graph, whose error is then one of execution. -/
def GraphError.addContext (context : String) : Except GraphError β → Except TraceError β
  | .error e => .error (.withContext context (.execution e))
  | .ok value => .ok value

/-- Adds a context to a result of a graph, and makes it only if the result is an error. -/
def GraphError.addContextBy (make : m String) :
    Except GraphError β → m (Except TraceError β)
  | .error e => return .error (.withContext (← make) (.execution e))
  | .ok value => return .ok value

end

end TraceFlow
