import Flowmeter.Export.Descriptor

/-!
# Catalogs

A catalog knows the plugins and the fields of each. Selections and layouts are resolved against it.
-/

namespace Flowmeter

/-- The plugins and fields that can be named. -/
structure Catalog where
  /-- The fields of a plugin, if it is known. -/
  pluginFields? : String → Option (List Descriptor)
  /-- The fields of all plugins. -/
  allFields : List Descriptor

namespace Catalog

def hasPlugin (c : Catalog) (plugin : String) : Bool :=
  (c.pluginFields? plugin).isSome

/-- All fields are those of the plugins. -/
def Coherent (c : Catalog) : Prop :=
  ∀ d, d ∈ c.allFields ↔ ∃ fields, c.pluginFields? d.plugin = some fields ∧ d ∈ fields

/-- The catalog written as a table of plugins with the names of their fields. -/
def ofTable (table : List (String × List String)) : Catalog where
  pluginFields? plugin := (table.lookup plugin).map fun fields => fields.map (⟨plugin, ·⟩)
  allFields := table.flatMap fun row => row.2.map (⟨row.1, ·⟩)

end Catalog

end Flowmeter
