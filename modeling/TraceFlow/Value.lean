import TraceFlow.Binary64
import TraceFlow.OrderedMap

/-!
# Parameter values

Component classes are instantiated with named parameters, and events carry named fields. Both are
maps of these values.
-/

namespace TraceFlow

/-- A parameter or a field of an event. -/
inductive Value where
  | null
  | bool (b : Bool)
  | int (n : Int64)
  | float (x : Binary64)
  | string (text : String)
  | array (items : List Value)
  | map (entries : OrderedMap Value)
deriving Inhabited

/-- Named parameters, in the order in which they were given. -/
abbrev Params := OrderedMap Value

namespace Value

def bool? : Value → Option Bool
  | .bool b => some b
  | _ => none

def int? : Value → Option Int64
  | .int n => some n
  | _ => none

def float? : Value → Option Binary64
  | .float x => some x
  | _ => none

def string? : Value → Option String
  | .string text => some text
  | _ => none

def array? : Value → Option (List Value)
  | .array items => some items
  | _ => none

def map? : Value → Option Params
  | .map entries => some entries
  | _ => none

/-- A list of texts: the shape in which a source receives its trace locators. -/
def ofStrings (texts : List String) : Value :=
  .array (texts.map .string)

mutual

/-- Equality of values: numbers as numbers, arrays and maps item by item, in order. -/
def same : Value → Value → Bool
  | .null, .null => true
  | .bool a, .bool b => a == b
  | .int m, .int n => m == n
  | .float x, .float y => x == y
  | .string s, .string t => s == t
  | .array xs, .array ys => sameItems xs ys
  | .map ⟨xs⟩, .map ⟨ys⟩ => sameEntries xs ys
  | _, _ => false

def sameItems : List Value → List Value → Bool
  | [], [] => true
  | x :: xs, y :: ys => same x y && sameItems xs ys
  | _, _ => false

def sameEntries : List (String × Value) → List (String × Value) → Bool
  | [], [] => true
  | (k, x) :: xs, (l, y) :: ys => k == l && same x y && sameEntries xs ys
  | _, _ => false

end

instance : BEq Value := ⟨same⟩

end Value

/-- Parameter maps are equal when their entries are, in order. -/
instance : BEq Params := ⟨fun m n => Value.sameEntries m.entries n.entries⟩

end TraceFlow
