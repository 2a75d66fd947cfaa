import TraceFlow.Assoc

/-!
# Maps that keep the order of insertion

Keys come in the order in which each was first inserted. A key inserted again keeps its place and
takes the new value.
-/

namespace TraceFlow

/-- A map from names, in the order in which the names were first inserted. -/
structure OrderedMap (α : Type) where
  entries : List (String × α) := []
deriving Repr, DecidableEq, Inhabited

namespace OrderedMap

variable {α : Type}

def empty : OrderedMap α := ⟨[]⟩

instance : EmptyCollection (OrderedMap α) := ⟨empty⟩

def keys (m : OrderedMap α) : List String := m.entries.map Prod.fst

def size (m : OrderedMap α) : Nat := m.entries.length

def isEmpty (m : OrderedMap α) : Bool := m.entries.isEmpty

def get? (m : OrderedMap α) (key : String) : Option α := Assoc.lookup key m.entries

def insert (m : OrderedMap α) (key : String) (value : α) : OrderedMap α :=
  ⟨Assoc.put key value m.entries⟩

/-- Inserts the entries one by one, so that a repeated name counts once. -/
def ofList (entries : List (String × α)) : OrderedMap α :=
  entries.foldl (fun m entry => m.insert entry.1 entry.2) ∅

def toList (m : OrderedMap α) : List (String × α) := m.entries

/-! ## Lemmas -/

@[simp] theorem entries_empty : (∅ : OrderedMap α).entries = [] := rfl

@[simp] theorem get?_empty (key : String) : (∅ : OrderedMap α).get? key = none := rfl

@[simp] theorem get?_insert_self (m : OrderedMap α) (key : String) (value : α) :
    (m.insert key value).get? key = some value :=
  Assoc.lookup_put_self key value m.entries

theorem get?_insert_of_ne (m : OrderedMap α) {key other : String} (h : other ≠ key) (value : α) :
    (m.insert key value).get? other = m.get? other :=
  Assoc.lookup_put_of_ne h value m.entries

theorem keys_insert (m : OrderedMap α) (key : String) (value : α) :
    (m.insert key value).keys = if key ∈ m.keys then m.keys else m.keys ++ [key] :=
  Assoc.map_fst_put key value m.entries

end OrderedMap

end TraceFlow
