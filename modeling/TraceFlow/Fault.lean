/-!
# Faults of components

A component that cannot do what it is asked says so by a fault: a text, and below it the causes,
from the outermost to the root.
-/

namespace TraceFlow

/-- The failure of a component, as the component tells it. -/
structure Fault where
  text : String
  causes : List String := []
deriving DecidableEq, Repr, Inhabited

/-- The texts of a fault, from the outermost to the root. -/
def Fault.chain (fault : Fault) : List String := fault.text :: fault.causes

end TraceFlow
