import TraceFlow.Scripted.Filter
import TraceFlow.Scripted.Source

/-!
# Scripted plugins
-/

namespace TraceFlow.Scripted

structure PluginSpec where
  name : String
  description : Option String := none
  sources : List SourceSpec := []
  filters : List FilterSpec := []

/-- The plugin with the classes added in order. -/
def PluginSpec.toPlugin (spec : PluginSpec) : Plugin World :=
  let plugin : Plugin World := { name := spec.name, description := spec.description }
  let plugin := spec.sources.foldl (fun plugin source => plugin.addSource source.toClass) plugin
  spec.filters.foldl (fun plugin filter => plugin.addFilter filter.toClass) plugin

/-- The set of the plugins, registered one after the other. -/
def pluginSet (specs : List PluginSpec) : PluginSet World :=
  specs.foldl (fun set spec => (set.register spec.toPlugin).2) .empty

end TraceFlow.Scripted
