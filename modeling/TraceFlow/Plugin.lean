import TraceFlow.Journal

/-!
# Plugins

A plugin is a named collection of source and filter classes. A set of plugins holds one plugin per
name, in the order of the names' bytes.
-/

namespace TraceFlow

structure Plugin (W : Type) where
  name : String
  description : Option String := none
  sources : List (SourceClass W) := []
  filters : List (FilterClass W) := []

namespace Plugin

variable {W : Type}

def named (name : String) : Plugin W := { name }

def describe (plugin : Plugin W) (description : String) : Plugin W :=
  { plugin with description := some description }

/-- Adds a source class at the end; an earlier class of the same name goes. -/
def addSource (plugin : Plugin W) (cls : SourceClass W) : Plugin W :=
  { plugin with sources := plugin.sources.filter (·.name ≠ cls.name) ++ [cls] }

/-- Adds a filter class at the end; an earlier class of the same name goes. -/
def addFilter (plugin : Plugin W) (cls : FilterClass W) : Plugin W :=
  { plugin with filters := plugin.filters.filter (·.name ≠ cls.name) ++ [cls] }

def source? (plugin : Plugin W) (name : String) : Option (SourceClass W) :=
  plugin.sources.find? (·.name = name)

def filter? (plugin : Plugin W) (name : String) : Option (FilterClass W) :=
  plugin.filters.find? (·.name = name)

/-- The plugin with the names of its classes, on one line. -/
def text (plugin : Plugin W) : String :=
  "Plugin \x7b name: " ++ Text.quoted plugin.name ++
    ", sources: " ++ Text.quotedList (plugin.sources.map (·.name)) ++
    ", filters: " ++ Text.quotedList (plugin.filters.map (·.name)) ++ " \x7d"

end Plugin

/-- What answers by which plugin a name is provided; the answer may depend on the world. -/
structure Registry (W : Type) where
  find : (name : String) → StateM W (Option (Plugin W))

/-- Asks a registry for a plugin and keeps the call. -/
def Session.findPlugin {W α : Type} (session : Session W α) (registry : Registry W)
    (name : String) : Option (Plugin W) × Session W α :=
  match (registry.find name).run session.world with
  | (plugin, world) =>
    (plugin, { session with world, journal := session.journal.record (.hook (.findPlugin name)) })

/-- Plugins under their names, in ascending order of the names' bytes. -/
structure PluginSet (W : Type) where
  entries : List (String × Plugin W) := []

namespace PluginSet

variable {W : Type}

def empty : PluginSet W := {}

/-- The bytes of a name, by which names are ordered. -/
def nameBytes (name : String) : List UInt8 := name.toUTF8.data.toList

def find? (set : PluginSet W) (name : String) : Option (Plugin W) :=
  Assoc.lookup name set.entries

/-- The names in the set, in ascending order of their bytes. -/
def names (set : PluginSet W) : List String := set.entries.map Prod.fst

/-- The name comes before the other one. -/
def Precedes (name other : String) : Prop := nameBytes name < nameBytes other

instance (name other : String) : Decidable (Precedes name other) :=
  inferInstanceAs (Decidable (nameBytes name < nameBytes other))

/-- Puts a plugin under its own name; answers the plugin that it replaces. -/
def register (set : PluginSet W) (plugin : Plugin W) : Option (Plugin W) × PluginSet W :=
  (set.find? plugin.name, ⟨Assoc.putBefore (Precedes plugin.name ·) plugin.name plugin set.entries⟩)

def registration (plugin : Plugin W) : LogLine :=
  .registering plugin.name plugin.sources.length plugin.filters.length

/-- Takes the plugin under a name away and answers it. -/
def unregister (set : PluginSet W) (name : String) : Option (Plugin W) × PluginSet W :=
  (set.find? name, ⟨set.entries.filter (·.1 ≠ name)⟩)

def clear (_ : PluginSet W) : PluginSet W := empty

/-- The set as a registry, which the world has no part in. -/
def toRegistry (set : PluginSet W) : Registry W := ⟨fun name => pure (set.find? name)⟩

/-! ## Lemmas -/

@[simp] theorem find?_register_self (set : PluginSet W) (plugin : Plugin W) :
    (set.register plugin).2.find? plugin.name = some plugin :=
  Assoc.lookup_putBefore_self _ plugin.name plugin set.entries

theorem find?_register_of_ne (set : PluginSet W) {plugin : Plugin W} {name : String}
    (h : name ≠ plugin.name) : (set.register plugin).2.find? name = set.find? name :=
  Assoc.lookup_putBefore_of_ne _ h plugin set.entries

end PluginSet

end TraceFlow
