import Flowmeter.Export.Catalog

/-!
# Lawful catalogs

What selections and layouts rely on: the fields listed for a plugin go by its name, and the fields
of a catalog are those of its plugins together. A table with one row for each plugin is such a
catalog (`lawful_ofTable`).
-/

namespace Flowmeter

namespace Catalog

/-- The fields of a plugin go by its name, and all fields are the union of those of the plugins. -/
structure Lawful (c : Catalog) : Prop where
  plugin_eq : ∀ {plugin : String} {fields : List Descriptor},
    c.pluginFields? plugin = some fields → ∀ d ∈ fields, d.plugin = plugin
  mem_allFields : ∀ d, d ∈ c.allFields ↔
    ∃ plugin fields, c.pluginFields? plugin = some fields ∧ d ∈ fields

variable {c : Catalog}

/-- A field of a lawful catalog is one of the plugin that it names. -/
theorem Lawful.coherent (hc : c.Lawful) : c.Coherent := by
  intro d
  rw [hc.mem_allFields]
  constructor
  · rintro ⟨plugin, fields, hfields, hd⟩
    rw [hc.plugin_eq hfields d hd]
    exact ⟨fields, hfields, hd⟩
  · rintro ⟨fields, hfields, hd⟩
    exact ⟨d.plugin, fields, hfields, hd⟩

theorem Lawful.mem_allFields_iff_of_plugin (hc : c.Lawful) {d : Descriptor}
    {fields : List Descriptor} (hfields : c.pluginFields? d.plugin = some fields) :
    d ∈ c.allFields ↔ d ∈ fields := by
  rw [hc.coherent, hfields]
  simp only [Option.some.injEq, exists_eq_left']

theorem lookup_eq_some_iff_mem {κ α : Type} [BEq κ] [LawfulBEq κ] {table : List (κ × α)}
    (h : (table.map Prod.fst).Nodup) {key : κ} {entry : α} :
    table.lookup key = some entry ↔ (key, entry) ∈ table := by
  rw [List.lookup_eq_some_iff]
  constructor
  · rintro ⟨before, after, rfl, -⟩
    exact List.mem_append_right _ List.mem_cons_self
  · intro hmem
    obtain ⟨before, after, rfl⟩ := List.append_of_mem hmem
    refine ⟨before, after, rfl, fun row hrow => ?_⟩
    rw [List.map_append, List.nodup_append] at h
    have hne : row.1 ≠ key :=
      h.2.2 _ (List.mem_map_of_mem hrow) _ (List.mem_map_of_mem List.mem_cons_self)
    exact bne_iff_ne.2 hne.symm

theorem lookup_eq_none_iff_not_mem {α : Type} {table : List (String × α)} {plugin : String} :
    table.lookup plugin = none ↔ plugin ∉ table.map Prod.fst := by
  rw [List.lookup_eq_none_iff]
  simp only [bne_iff_ne, List.mem_map, not_exists, not_and]
  exact ⟨fun h row hrow heq => h row hrow heq.symm, fun h row hrow heq => h row hrow heq.symm⟩

/-- A table with one row for each plugin is a lawful catalog. -/
theorem lawful_ofTable {table : List (String × List String)}
    (h : (table.map Prod.fst).Nodup) : (ofTable table).Lawful where
  plugin_eq := by
    intro plugin fields hfields d hd
    obtain ⟨names, -, rfl⟩ := Option.map_eq_some_iff.1 hfields
    obtain ⟨name, -, rfl⟩ := List.mem_map.1 hd
    rfl
  mem_allFields := by
    intro d
    have hplugin : ∀ plugin fields, (ofTable table).pluginFields? plugin = some fields ↔
        ∃ names, (plugin, names) ∈ table ∧ names.map (⟨plugin, ·⟩) = fields := by
      intro plugin fields
      simp only [ofTable, Option.map_eq_some_iff, lookup_eq_some_iff_mem h]
    simp only [hplugin]
    simp only [ofTable, List.mem_flatMap, Prod.exists]
    constructor
    · rintro ⟨plugin, names, hrow, hd⟩
      exact ⟨plugin, _, ⟨names, hrow, rfl⟩, hd⟩
    · rintro ⟨plugin, _, ⟨names, hrow, rfl⟩, hd⟩
      exact ⟨plugin, names, hrow, hd⟩

end Catalog

end Flowmeter
