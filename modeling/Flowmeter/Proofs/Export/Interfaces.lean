import Flowmeter.Probe
import Flowmeter.Proofs.Export.Layout

/-!
# What is exported through interfaces is what is selected

A probe delivers the values of a flow interface by interface, a selection in the order of its
fields. A layout deals out the selected fields of the plugins that the settings map, each of them
once and on the interface of its plugin (`Layout.DealsOut`), so the two deliver the same values in
different orders (`Probe.deliver_perm_selectedValues`).
-/

namespace Flowmeter

namespace OutputSettings

/-- Whether the fields of a plugin go to an interface. Without an interface map all of them do. -/
def maps (settings : OutputSettings) (plugin : String) : Bool :=
  match settings.interfaces with
  | some groups => groups.any (·.names.contains plugin)
  | none => true

theorem maps_of_interfaces_eq_none {settings : OutputSettings} (h : settings.interfaces = none)
    (plugin : String) : settings.maps plugin = true := by
  rw [maps, h]

/-- With an interface map, the plugins that it names are mapped and no others. -/
theorem maps_iff_of_interfaces_eq_some {settings : OutputSettings} {groups : List InterfaceGroup}
    (h : settings.interfaces = some groups) {plugin : String} :
    settings.maps plugin = true ↔ plugin ∈ groups.flatMap InterfaceGroup.names := by
  simp only [maps, h, List.any_eq_true, List.contains_iff_mem, List.mem_flatMap]

end OutputSettings

namespace Layout

variable {s : Selection} {settings : OutputSettings} {groups : List InterfaceGroup}

/-- The fields of all interfaces, one interface after the other. -/
def fields (l : Layout) : List Descriptor :=
  l.interfaces.flatMap OutputInterface.fields

/-- The layout deals out what is selected of the plugins that the settings map. -/
structure DealsOut (l : Layout) (settings : OutputSettings) (s : Selection) : Prop where
  fields_perm : l.fields.Perm (s.fields.filter fun d => settings.maps d.plugin)
  interfaceOf?_eq : ∀ o ∈ l.interfaces, ∀ d ∈ o.fields, l.interfaceOf? d.plugin = some o.index
  maps_iff : ∀ d ∈ s, settings.maps d.plugin = true ↔ ∃ i, l.interfaceOf? d.plugin = some i

theorem fields_single : (single s).fields = s.fields :=
  List.flatMap_singleton _ _

/-- The fields of a layout are those of the named plugins, in the order of the names. -/
theorem fields_dealt :
    (dealt groups s).fields = (groups.flatMap InterfaceGroup.names).flatMap s.fieldsOf := by
  rw [fields, dealt, List.flatMap_map, List.flatMap_assoc]
  conv_rhs => rw [← List.zipIdx_map_fst 0 groups, List.flatMap_map]
  rfl

/-- Without an interface map there is one interface for all that is selected. -/
theorem interfaceOf?_single {d : Descriptor} (h : d ∈ s) :
    (single s).interfaceOf? d.plugin = some 0 := by
  have hplugin : s.plugins.contains d.plugin = true :=
    List.contains_iff_mem.2 (List.mem_eraseDups.2 (List.mem_map_of_mem h))
  simp only [interfaceOf?, single, List.find?_cons, hplugin, Option.map_some]

/-- A single interface gets the whole selection. -/
theorem dealsOut_single (h : settings.interfaces = none) : (single s).DealsOut settings s where
  fields_perm := by
    have hall : s.fields.filter (fun d => settings.maps d.plugin) = s.fields :=
      List.filter_eq_self.2 fun d _ => OutputSettings.maps_of_interfaces_eq_none h d.plugin
    rw [hall, fields_single]
  interfaceOf?_eq := by
    intro o ho d hd
    obtain rfl := List.mem_singleton.1 ho
    exact interfaceOf?_single hd
  maps_iff d hd :=
    iff_of_true (OutputSettings.maps_of_interfaces_eq_none h d.plugin) ⟨0, interfaceOf?_single hd⟩

/-- Distinct names deal the selection out, whatever their order and grouping. -/
theorem dealsOut_dealt (h : settings.interfaces = some groups)
    (hnodup : (groups.flatMap InterfaceGroup.names).Nodup) :
    (dealt groups s).DealsOut settings s where
  fields_perm := by
    -- neither side has a field twice, so it is enough that they have the same ones
    rw [fields_dealt, List.perm_ext_iff_of_nodup (Selection.nodup_flatMap_fieldsOf hnodup)
      (s.nodup_fields.filter _)]
    intro d
    rw [Selection.mem_flatMap_fieldsOf, List.mem_filter,
      OutputSettings.maps_iff_of_interfaces_eq_some h]
    rfl
  interfaceOf?_eq := by
    intro o ho d hd
    obtain ⟨i, g, hg, rfl⟩ := mem_interfaces_dealt.1 ho
    exact (interfaceOf?_dealt hnodup).2 ⟨g, hg, (Selection.mem_flatMap_fieldsOf.1 hd).2⟩
  maps_iff d _ := by
    rw [OutputSettings.maps_iff_of_interfaces_eq_some h, List.mem_flatMap]
    simp only [interfaceOf?_dealt hnodup]
    constructor
    · rintro ⟨g, hg, hplugin⟩
      obtain ⟨i, hi⟩ := List.mem_iff_getElem?.1 hg
      exact ⟨i, g, hi, hplugin⟩
    · rintro ⟨i, g, hi, hplugin⟩
      exact ⟨g, List.mem_of_getElem? hi, hplugin⟩

end Layout

namespace OutputSettings

variable {settings : OutputSettings} {c : Catalog} {l : Layout}

/-- Settings that resolve make a selection, and their layout deals it out. -/
theorem exists_selection_of_resolve (h : settings.resolve c = .ok l) :
    ∃ s, settings.selection c = .ok s ∧ l.DealsOut settings s ∧
      (settings.interfaces = none → l = Layout.single s) := by
  unfold resolve at h
  cases hs : settings.selection c with
  | error e =>
    rw [hs] at h
    cases h
  | ok s =>
    rw [hs] at h
    refine ⟨s, rfl, ?_⟩
    cases hinterfaces : settings.interfaces with
    | none =>
      rw [hinterfaces] at h
      cases h
      exact ⟨Layout.dealsOut_single hinterfaces, fun _ => rfl⟩
    | some groups =>
      rw [hinterfaces] at h
      obtain ⟨hok, rfl⟩ := Layout.build_eq_ok_iff.1 h
      exact ⟨Layout.dealsOut_dealt hinterfaces (Layout.check_mentions_eq_ok_iff.1 hok).2, nofun⟩

end OutputSettings

namespace FlowRecord

variable {r : FlowRecord} {registry : Registry} {d : Descriptor} {v : FieldValue}
  {ds ds' : List Descriptor}

/-- A value is delivered for a descriptor of the list, and it is the one that the registry reads. -/
theorem mem_values : (d, v) ∈ r.values registry ds ↔ d ∈ ds ∧ r.value? registry d = some v := by
  simp only [values, List.mem_filterMap, Option.map_eq_some_iff, Prod.mk.injEq]
  constructor
  · rintro ⟨_, hd, _, hv, rfl, rfl⟩
    exact ⟨hd, hv⟩
  · rintro ⟨hd, hv⟩
    exact ⟨d, hd, v, hv, rfl, rfl⟩

/-- Other orders of the descriptors give the same values in other orders. -/
theorem values_perm (h : ds.Perm ds') : (r.values registry ds).Perm (r.values registry ds') :=
  h.filterMap _

/-- Leaving descriptors out leaves their values out. -/
theorem values_filter (keep : Descriptor → Bool) :
    r.values registry (ds.filter keep) = (r.values registry ds).filter fun pair => keep pair.1 := by
  rw [values, values, List.filterMap_filter, List.filter_filterMap]
  refine congrArg (List.filterMap · ds) (funext fun d => ?_)
  cases r.value? registry d <;> cases hd : keep d <;> simp [hd, Option.filter]

/-- A descriptor without a value is passed over, and the others keep their order. -/
theorem map_fst_values_sublist : ((r.values registry ds).map Prod.fst).Sublist ds := by
  induction ds with
  | nil => exact .slnil
  | cons d rest ih =>
    unfold values at ih ⊢
    rw [List.filterMap_cons]
    cases r.value? registry d with
    | none => exact ih.cons d
    | some v => exact ih.cons_cons d

end FlowRecord

namespace Probe

variable {probe : Probe} {flow : FlowRecord}

/-- Without the indices of the interfaces, a probe delivers the values of the layout's fields. -/
theorem map_snd_deliver :
    (probe.deliver flow).map Prod.snd = flow.values probe.registry probe.layout.fields := by
  simp only [deliver, List.map_flatMap, List.map_map, FlowRecord.values, Layout.fields,
    List.filterMap_flatMap]
  refine congrArg (probe.layout.interfaces.flatMap ·) (funext fun o => ?_)
  exact List.map_id _

/-- Fields that stand in a layout once are delivered at most once. -/
theorem nodup_map_deliver (h : probe.layout.fields.Nodup) :
    ((probe.deliver flow).map fun (_, d, _) => d).Nodup := by
  have hvalues : ((probe.deliver flow).map fun (_, d, _) => d) =
      (flow.values probe.registry probe.layout.fields).map Prod.fst := by
    rw [← map_snd_deliver, List.map_map]
    rfl
  rw [hvalues]
  exact h.sublist FlowRecord.map_fst_values_sublist

theorem mem_deliver {i : Nat} {d : Descriptor} {v : FieldValue} :
    (i, d, v) ∈ probe.deliver flow ↔ ∃ o ∈ probe.layout.interfaces, o.index = i ∧
      (d, v) ∈ flow.values probe.registry o.fields := by
  simp only [deliver, List.mem_flatMap, List.mem_map, Prod.mk.injEq]
  constructor
  · rintro ⟨o, ho, _, hvalue, hi, rfl⟩
    exact ⟨o, ho, hi, hvalue⟩
  · rintro ⟨o, ho, hi, hvalue⟩
    exact ⟨o, ho, _, hvalue, hi, rfl⟩

theorem ofSettings_eq_ok {settings : MeterSettings} {l : Layout}
    (h : settings.output.resolve Registry.builtin.catalog = .ok l) :
    ofSettings settings = .ok ⟨.builtin, settings.plugins.build, l⟩ := by
  rw [ofSettings, h]
  rfl

/-- **Interfaces export what is selected.** Settings whose output resolves make a probe. Through all
its interfaces together it delivers the values of the selection, those of plugins without an
interface left out, each once and on the interface of its plugin. Without an interface map it
delivers them all, in their order, on the first interface, and without a field list nothing. -/
theorem deliver_perm_selectedValues {settings : MeterSettings} {l : Layout}
    (h : settings.output.resolve Registry.builtin.catalog = .ok l) (flow : FlowRecord) :
    ∃ probe s, ofSettings settings = .ok probe ∧ probe.registry = .builtin ∧ probe.layout = l ∧
      settings.output.selection Registry.builtin.catalog = .ok s ∧
      ((probe.deliver flow).map Prod.snd).Perm
        ((flow.selectedValues .builtin s).filter fun (d, _) => settings.output.maps d.plugin) ∧
      ((probe.deliver flow).map fun (_, d, _) => d).Nodup ∧
      (∀ d ∈ s, settings.output.maps d.plugin = true ↔ ∃ i, l.interfaceOf? d.plugin = some i) ∧
      (∀ i d v, (i, d, v) ∈ probe.deliver flow → l.interfaceOf? d.plugin = some i) ∧
      (settings.output.interfaces = none →
        probe.deliver flow = (flow.selectedValues .builtin s).map (0, ·)) ∧
      (settings.output.fields = none → probe.deliver flow = []) := by
  obtain ⟨s, hs, hdeals, hsingle⟩ := OutputSettings.exists_selection_of_resolve h
  have hperm : (((⟨.builtin, settings.plugins.build, l⟩ : Probe).deliver flow).map Prod.snd).Perm
      ((flow.selectedValues .builtin s).filter fun (d, _) => settings.output.maps d.plugin) := by
    rw [map_snd_deliver, FlowRecord.selectedValues]
    exact (FlowRecord.values_perm hdeals.fields_perm).trans
      (.of_eq (FlowRecord.values_filter fun d => settings.output.maps d.plugin))
  refine ⟨⟨.builtin, settings.plugins.build, l⟩, s, ofSettings_eq_ok h, rfl, rfl, hs, hperm,
    ?_, hdeals.maps_iff, ?_, ?_, ?_⟩
  · exact nodup_map_deliver (hdeals.fields_perm.nodup_iff.2 (s.nodup_fields.filter _))
  · intro i d v hmem
    obtain ⟨o, ho, rfl, hvalue⟩ := mem_deliver.1 hmem
    exact hdeals.interfaceOf?_eq o ho d (FlowRecord.mem_values.1 hvalue).1
  · intro hinterfaces
    rw [hsingle hinterfaces]
    exact List.flatMap_singleton _ _
  · intro hfields
    rw [OutputSettings.selection, hfields] at hs
    cases hs
    exact List.map_eq_nil_iff.1 hperm.eq_nil

/-- Two groups of plugins, the first without selected fields, and a selected plugin in neither. The
selection has the QUIC field before the tag, and the second interface after it. -/
theorem deliver_perm_selectedValues_groups :
    let settings : MeterSettings := { output :=
      { fields := some "fields: 'vlan, http.HTTP_REQUEST_HOST, quic.QUIC_SCID'"
        interfaces := some [⟨["mpls"]⟩, ⟨["vlan", "quic"]⟩] } }
    let l : Layout := ⟨[⟨0, ["mpls"], []⟩,
      ⟨1, ["vlan", "quic"], [⟨"vlan", "VLAN_ID"⟩, ⟨"quic", "QUIC_SCID"⟩]⟩]⟩
    let flow := ((FlowRecord.empty.attach (.vlan ⟨100⟩)).attach (.http { host := some "a" })).attach
      (.quic { serverId := some ⟨[0xbb], by decide⟩ })
    settings.output.resolve Registry.builtin.catalog = .ok l ∧
    ∃ probe s, ofSettings settings = .ok probe ∧
      settings.output.selection Registry.builtin.catalog = .ok s ∧
      flow.selectedValues .builtin s = [(⟨"http", "HTTP_REQUEST_HOST"⟩, .text "a"),
        (⟨"quic", "QUIC_SCID"⟩, .octets [0xbb]), (⟨"vlan", "VLAN_ID"⟩, .unsigned .two 100)] ∧
      probe.deliver flow = [(1, ⟨"vlan", "VLAN_ID"⟩, .unsigned .two 100),
        (1, ⟨"quic", "QUIC_SCID"⟩, .octets [0xbb])] ∧
      ((probe.deliver flow).map Prod.snd).Perm
        ((flow.selectedValues .builtin s).filter fun (d, _) => settings.output.maps d.plugin) := by
  intro settings l flow
  have hl : settings.output.resolve Registry.builtin.catalog = .ok l := by decide +kernel
  obtain ⟨probe, s, hprobe, hregistry, hlayout, hs, hperm, -⟩ := deliver_perm_selectedValues hl flow
  have hselected : settings.output.selection Registry.builtin.catalog =
      .ok (.ofList [⟨"vlan", "VLAN_ID"⟩, ⟨"http", "HTTP_REQUEST_HOST"⟩, ⟨"quic", "QUIC_SCID"⟩]) := by
    decide +kernel
  obtain rfl := Except.ok.inj (hs.symm.trans hselected)
  refine ⟨hl, probe, _, hprobe, hs, by decide +kernel, ?_, hperm⟩
  rw [deliver, hregistry, hlayout]
  decide +kernel

end Probe

end Flowmeter
