import Flowmeter.Export.Registry
import Flowmeter.Proofs.Export.Catalog
import Mathlib.Data.List.Nodup

/-!
# What registries answer

A registry keeps the fields of its protocols, an index from descriptors to positions and, for each
protocol, the positions of its fields. `Registry.Represents` says that the three are in step: they
are those of a list of distinct protocols, one protocol behind the other. An insertion keeps this
(`Represents.insert`), and so does every sequence of registrations, the failing ones included
(`exists_represents`). What a registry answers depends on the set of registered protocols alone,
not on the order they came in (`registerAll_serves`).
-/

namespace Flowmeter

namespace Protocol

/-! ## Declared fields -/

theorem name_of_ofName? {name : String} {p : Protocol} (h : ofName? name = some p) :
    p.name = name := by
  unfold ofName? at h
  have hname := List.find?_some h
  exact eq_of_beq hname

/-- Every protocol is found by its name. -/
@[simp] theorem ofName?_name (p : Protocol) : ofName? p.name = some p := by
  cases p <;> decide

/-- So no two protocols have the same name. -/
theorem eq_of_name_eq {p q : Protocol} (h : p.name = q.name) : p = q := by
  have hsome : some p = some q := by rw [← ofName?_name p, h, ofName?_name]
  exact Option.some.inj hsome

theorem plugin_of_mem_declaredFields {p : Protocol} {f : RegisteredField}
    (h : f ∈ p.declaredFields) : f.descriptor.plugin = p.name := by
  obtain ⟨i, hi, rfl⟩ := List.mem_mapIdx.1 h
  rfl

theorem protocol_of_mem_declaredFields {p : Protocol} {f : RegisteredField}
    (h : f ∈ p.declaredFields) : f.protocol = p := by
  obtain ⟨i, hi, rfl⟩ := List.mem_mapIdx.1 h
  rfl

/-- The fields are named in the order of declaration. -/
theorem map_descriptor_declaredFields (p : Protocol) :
    p.declaredFields.map RegisteredField.descriptor = p.fieldNames.map (⟨p.name, ·⟩) := by
  refine List.ext_getElem? fun i => ?_
  simp only [declaredFields, List.getElem?_map, List.getElem?_mapIdx, Option.map_map]
  rfl

/-- The fields are numbered from zero. -/
theorem map_index_declaredFields (p : Protocol) :
    p.declaredFields.map RegisteredField.index = List.range p.fieldNames.length := by
  rw [declaredFields, List.mapIdx_eq_zipIdx_map, List.map_map, List.range_eq_range']
  exact List.zipIdx_map_snd ..

/-- No protocol declares a name twice. -/
theorem nodup_declaredFields (p : Protocol) :
    (p.declaredFields.map RegisteredField.descriptor).Nodup := by
  cases p <;> decide

/-- Fields of different protocols differ in the name of the plugin. -/
theorem nodup_flatMap_declaredFields {protocols : List Protocol} (h : protocols.Nodup) :
    ((protocols.flatMap declaredFields).map RegisteredField.descriptor).Nodup := by
  rw [List.map_flatMap]
  refine List.nodup_flatMap.2 ⟨fun p _ => nodup_declaredFields p, h.imp ?_⟩
  intro p q hne d hp hq
  obtain ⟨f, hf, rfl⟩ := List.mem_map.1 hp
  obtain ⟨g, hg, hd⟩ := List.mem_map.1 hq
  refine hne (eq_of_name_eq ?_)
  rw [← plugin_of_mem_declaredFields hf, ← hd, plugin_of_mem_declaredFields hg]

end Protocol

namespace Registry

variable {r : Registry} {protocols : List Protocol} {p q : Protocol}

/-! ## One insertion -/

theorem fields_foldl_push (fs : List RegisteredField) :
    (fs.foldl push r).fields = r.fields ++ fs := by
  induction fs generalizing r with
  | nil => exact (List.append_nil _).symm
  | cons f rest ih => rw [List.foldl_cons, ih, push, List.append_assoc, List.singleton_append]

@[simp] theorem fields_insert : (r.insert p).fields = r.fields ++ p.declaredFields :=
  fields_foldl_push _

/-- The positions of an inserted protocol are those behind the fields that were there. -/
@[simp] theorem plugins_insert_self : (r.insert p).plugins.get p =
    some (List.range' r.fields.length p.declaredFields.length) :=
  PerProtocol.get_set_self ..

theorem plugins_insert_of_ne (h : q ≠ p) : (r.insert p).plugins.get q = r.plugins.get q :=
  PerProtocol.get_set_of_ne _ _ h

/-- The index is that of the fields, from the last to the first. -/
def IsIndexed (r : Registry) : Prop :=
  r.positions = r.allFields.zipIdx.reverse

/-- A field that is put behind the others is indexed in front of the index. -/
theorem IsIndexed.push (h : r.IsIndexed) (f : RegisteredField) : (r.push f).IsIndexed := by
  simp only [IsIndexed, allFields, Registry.push, List.map_append, List.map_singleton,
    List.zipIdx_append, List.zipIdx_singleton, List.reverse_append, List.length_map, Nat.zero_add,
    List.reverse_singleton, List.singleton_append]
  rw [h, allFields]

/-- So is every field of an inserted protocol. -/
theorem IsIndexed.insert (h : r.IsIndexed) (p : Protocol) : (r.insert p).IsIndexed := by
  have hfold : ∀ (fs : List RegisteredField) (r : Registry), r.IsIndexed →
      (fs.foldl Registry.push r).IsIndexed := by
    intro fs
    induction fs with
    | nil => exact fun _ h => h
    | cons f rest ih => exact fun _ h => ih _ (h.push f)
  exact hfold p.declaredFields r h

/-- What is put behind a list stands at the positions from its length on. -/
theorem map_getElem?_range' {α : Type} (xs ys : List α) :
    (List.range' xs.length ys.length).map ((xs ++ ys)[·]?) = ys.map some := by
  induction ys generalizing xs with
  | nil => rfl
  | cons y rest ih =>
    have hrest := ih (xs ++ [y])
    rw [List.append_assoc, List.singleton_append, List.length_append, List.length_singleton] at hrest
    rw [List.length_cons, List.range'_succ, List.map_cons, List.map_cons, hrest,
      List.getElem?_append_right (Nat.le_refl _), Nat.sub_self, List.getElem?_cons_zero]

/-! ## Represented protocols -/

/-- The fields, the index and the positions are those of the given protocols, in their order. -/
structure Represents (r : Registry) (protocols : List Protocol) : Prop where
  nodup : protocols.Nodup
  fields_eq : r.fields = protocols.flatMap Protocol.declaredFields
  isIndexed : r.IsIndexed
  plugins_of_not_mem : ∀ p, p ∉ protocols → r.plugins.get p = none
  plugins_of_mem : ∀ p ∈ protocols, ∃ positions, r.plugins.get p = some positions ∧
    positions.map (r.fields[·]?) = p.declaredFields.map some

theorem represents_empty : empty.Represents [] where
  nodup := .nil
  fields_eq := rfl
  isIndexed := rfl
  plugins_of_not_mem _ _ := PerProtocol.get_replicate ..
  plugins_of_mem _ hp := absurd hp List.not_mem_nil

/-- An insertion represents one protocol more, behind the others. -/
theorem Represents.insert (h : r.Represents protocols) (hp : p ∉ protocols) :
    (r.insert p).Represents (protocols ++ [p]) where
  nodup := by
    refine List.nodup_append.2 ⟨h.nodup, List.pairwise_singleton .., fun q hq q' hq' heq => ?_⟩
    rw [heq, List.mem_singleton.1 hq'] at hq
    exact hp hq
  fields_eq := by
    rw [fields_insert, h.fields_eq, List.flatMap_append, List.flatMap_singleton]
  isIndexed := h.isIndexed.insert p
  plugins_of_not_mem q hq := by
    rw [List.mem_append, List.mem_singleton, not_or] at hq
    rw [plugins_insert_of_ne hq.2, h.plugins_of_not_mem q hq.1]
  plugins_of_mem q hq := by
    by_cases hqp : q = p
    · subst hqp
      refine ⟨_, plugins_insert_self, ?_⟩
      rw [fields_insert]
      exact map_getElem?_range' ..
    · have hold : q ∈ protocols :=
        (List.mem_append.1 hq).resolve_right fun hlast => hqp (List.mem_singleton.1 hlast)
      obtain ⟨positions, hget, hpositions⟩ := h.plugins_of_mem q hold
      refine ⟨positions, (plugins_insert_of_ne hqp).trans hget, ?_⟩
      -- the other protocols stay where they are, since fields only come behind
      rw [← hpositions, fields_insert]
      refine List.map_congr_left fun i hi => ?_
      have hmem : r.fields[i]? ∈ q.declaredFields.map some := hpositions ▸ List.mem_map_of_mem hi
      obtain ⟨f, -, hf⟩ := List.mem_map.1 hmem
      exact List.getElem?_append_left (List.getElem?_eq_some_iff.1 hf.symm).1

namespace Represents

/-- No descriptor is registered twice. -/
theorem nodup_allFields (h : r.Represents protocols) : r.allFields.Nodup := by
  rw [allFields, h.fields_eq]
  exact Protocol.nodup_flatMap_declaredFields h.nodup

theorem mem_fields_iff (h : r.Represents protocols) {f : RegisteredField} :
    f ∈ r.fields ↔ ∃ p ∈ protocols, f ∈ p.declaredFields := by
  rw [h.fields_eq, List.mem_flatMap]

/-- A protocol counts as registered exactly if it is represented. -/
theorem isRegistered_iff (h : r.Represents protocols) : r.isRegistered p = true ↔ p ∈ protocols := by
  unfold isRegistered
  by_cases hp : p ∈ protocols
  · obtain ⟨positions, hget, -⟩ := h.plugins_of_mem p hp
    simp only [hget, Option.isSome_some, hp]
  · simp only [h.plugins_of_not_mem p hp, Option.isSome_none, Bool.false_eq_true, hp]

/-- The index finds the position of every field. -/
theorem lookup_eq_some_iff (h : r.Represents protocols) {d : Descriptor} {i : Nat} :
    r.positions.lookup d = some i ↔ r.allFields[i]? = some d := by
  have hkeys : (r.positions.map Prod.fst).Nodup := by
    rw [h.isIndexed, List.map_reverse, List.zipIdx_map_fst, List.nodup_reverse]
    exact h.nodup_allFields
  rw [Catalog.lookup_eq_some_iff_mem hkeys, h.isIndexed, List.mem_reverse,
    List.mk_mem_zipIdx_iff_getElem?]

/-- A descriptor finds the field that carries it, wherever that one stands. -/
theorem field?_eq_some_iff (h : r.Represents protocols) {d : Descriptor} {f : RegisteredField} :
    r.field? d = some f ↔ f ∈ r.fields ∧ f.descriptor = d := by
  simp only [field?, Option.bind_eq_some_iff, h.lookup_eq_some_iff, allFields, List.getElem?_map]
  constructor
  · rintro ⟨i, hd, hf⟩
    rw [hf] at hd
    exact ⟨List.mem_of_getElem? hf, Option.some.inj hd⟩
  · rintro ⟨hmem, rfl⟩
    obtain ⟨i, hf⟩ := List.mem_iff_getElem?.1 hmem
    exact ⟨i, by rw [hf, Option.map_some], hf⟩

/-- The positions of a protocol lead to its declared fields, in their order. -/
theorem exists_positions (h : r.Represents protocols) (hp : p ∈ protocols) :
    ∃ positions, r.plugins.get p = some positions ∧ r.fieldsAt positions = p.declaredFields := by
  obtain ⟨positions, hget, hpositions⟩ := h.plugins_of_mem p hp
  have hmap : r.fieldsAt positions = (positions.map (r.fields[·]?)).filterMap id := by
    rw [List.filterMap_map]
    rfl
  refine ⟨positions, hget, ?_⟩
  rw [hmap, hpositions, List.filterMap_map, Function.id_comp, List.filterMap_some]

theorem fieldsOf_of_mem (h : r.Represents protocols) (hp : p ∈ protocols) :
    r.fieldsOf p = p.declaredFields := by
  obtain ⟨positions, hget, hfields⟩ := h.exists_positions hp
  rw [fieldsOf, hget, Option.map_some, Option.getD_some, hfields]

theorem fieldsOf_of_not_mem (h : r.Represents protocols) (hp : p ∉ protocols) :
    r.fieldsOf p = [] := by
  rw [fieldsOf, h.plugins_of_not_mem p hp]
  rfl

/-- A plugin is listed if its name is that of a registered protocol, with the fields that it
declares. -/
theorem pluginFields?_eq_some_iff (h : r.Represents protocols) {plugin : String}
    {fields : List Descriptor} :
    r.pluginFields? plugin = some fields ↔
      ∃ p ∈ protocols, p.name = plugin ∧
        p.declaredFields.map RegisteredField.descriptor = fields := by
  simp only [pluginFields?, Option.bind_eq_bind, Option.bind_eq_some_iff]
  constructor
  · rintro ⟨p, hname, positions, hget, hfields⟩
    have hp : p ∈ protocols := by
      rw [← h.isRegistered_iff, isRegistered, hget, Option.isSome_some]
    obtain ⟨positions', hget', hdeclared⟩ := h.exists_positions hp
    rw [hget, Option.some.injEq] at hget'
    subst hget'
    rw [hdeclared] at hfields
    exact ⟨p, hp, Protocol.name_of_ofName? hname, Option.some.inj hfields⟩
  · rintro ⟨p, hp, rfl, rfl⟩
    obtain ⟨positions, hget, hdeclared⟩ := h.exists_positions hp
    exact ⟨p, Protocol.ofName?_name p, positions, hget, by rw [hdeclared]; rfl⟩

/-- The catalog of a registry is lawful, whichever protocols are registered. -/
theorem lawful_catalog (h : r.Represents protocols) : r.catalog.Lawful where
  plugin_eq := by
    intro plugin fields hfields d hd
    obtain ⟨p, -, rfl, rfl⟩ := h.pluginFields?_eq_some_iff.1 hfields
    obtain ⟨f, hf, rfl⟩ := List.mem_map.1 hd
    exact Protocol.plugin_of_mem_declaredFields hf
  mem_allFields := by
    intro d
    have hfields : ∀ plugin fields, r.catalog.pluginFields? plugin = some fields ↔
        ∃ p ∈ protocols, p.name = plugin ∧
          p.declaredFields.map RegisteredField.descriptor = fields :=
      fun _ _ => h.pluginFields?_eq_some_iff
    simp only [hfields]
    simp only [catalog, allFields, h.fields_eq, List.map_flatMap, List.mem_flatMap]
    constructor
    · rintro ⟨p, hp, hd⟩
      exact ⟨p.name, _, ⟨p, hp, rfl, rfl⟩, hd⟩
    · rintro ⟨_, _, ⟨p, hp, rfl, rfl⟩, hd⟩
      exact ⟨p, hp, hd⟩

/-- Plugins are named in the order of the protocols, not of their registration. -/
theorem pluginNames_eq (h : r.Represents protocols) :
    r.pluginNames = (Protocol.all.filter (· ∈ protocols)).map Protocol.name := by
  rw [pluginNames, registered]
  refine congrArg _ (List.filter_congr fun p _ => ?_)
  rw [Bool.eq_iff_iff, h.isRegistered_iff, decide_eq_true_iff]

/-- Plugin after plugin, the fields are all fields. -/
theorem flatMap_pluginNames_perm (h : r.Represents protocols) :
    (r.pluginNames.flatMap fun plugin => (r.pluginFields? plugin).getD []).Perm r.allFields := by
  have hlist : ∀ p ∈ Protocol.all.filter (· ∈ protocols),
      (r.pluginFields? p.name).getD [] = p.declaredFields.map RegisteredField.descriptor := by
    intro p hp
    have hmem : p ∈ protocols := of_decide_eq_true (List.mem_filter.1 hp).2
    rw [h.pluginFields?_eq_some_iff.2 ⟨p, hmem, rfl, rfl⟩, Option.getD_some]
  have horder : (Protocol.all.filter (· ∈ protocols)).Perm protocols := by
    refine (List.perm_ext_iff_of_nodup (Protocol.nodup_all.filter _) h.nodup).2 fun p => ?_
    simp only [List.mem_filter, Protocol.mem_all, decide_eq_true_eq, true_and]
  rw [h.pluginNames_eq, List.flatMap_map, List.flatMap_congr hlist, ← List.map_flatMap, allFields,
    h.fields_eq]
  exact (horder.flatMap_right _).map _

theorem register_of_mem (h : r.Represents protocols) (hp : p ∈ protocols) :
    r.register p = .error (.duplicatePlugin p) :=
  if_pos (h.isRegistered_iff.2 hp)

theorem register_of_not_mem (h : r.Represents protocols) (hp : p ∉ protocols) :
    r.register p = .ok (r.insert p) :=
  if_neg (mt h.isRegistered_iff.1 hp)

end Represents

/-! ## Sequences of registrations -/

/-- The registry after a registration; one that fails leaves it as it is. -/
def after (r : Registry) (p : Protocol) : Registry :=
  match r.register p with
  | .ok r' => r'
  | .error _ => r

/-- The registry after a sequence of registrations. -/
def registerAll (calls : List Protocol) : Registry :=
  calls.foldl after empty

/-- A registration that fails leaves the registry as it is. -/
theorem Represents.after_of_mem (h : r.Represents protocols) (hp : p ∈ protocols) :
    r.after p = r := by
  rw [after, h.register_of_mem hp]

/-- After a registration the protocol is represented, whether it was before or not. -/
theorem Represents.exists_after (h : r.Represents protocols) (p : Protocol) :
    ∃ protocols', (r.after p).Represents protocols' ∧
      ∀ q, q ∈ protocols' ↔ q ∈ protocols ∨ q = p := by
  by_cases hp : p ∈ protocols
  · refine ⟨protocols, (h.after_of_mem hp).symm ▸ h, fun q => ?_⟩
    exact (or_iff_left_of_imp fun hq => hq ▸ hp).symm
  · refine ⟨protocols ++ [p], ?_, fun q => ?_⟩
    · rw [after, h.register_of_not_mem hp]
      exact h.insert hp
    · rw [List.mem_append, List.mem_singleton]

/-- After every sequence of registrations, a registry represents the protocols of the sequence. -/
theorem exists_represents (calls : List Protocol) :
    ∃ protocols, (registerAll calls).Represents protocols ∧ ∀ p, p ∈ protocols ↔ p ∈ calls := by
  have hfold : ∀ (calls : List Protocol) (r : Registry) (protocols : List Protocol),
      r.Represents protocols → ∃ protocols', (calls.foldl after r).Represents protocols' ∧
        ∀ p, p ∈ protocols' ↔ p ∈ protocols ∨ p ∈ calls := by
    intro calls
    induction calls with
    | nil => exact fun r protocols h => ⟨protocols, h, by simp⟩
    | cons call rest ih =>
      intro r protocols h
      obtain ⟨protocols₁, h₁, hmem₁⟩ := h.exists_after call
      obtain ⟨protocols₂, h₂, hmem₂⟩ := ih _ _ h₁
      refine ⟨protocols₂, h₂, fun p => ?_⟩
      rw [hmem₂, hmem₁, List.mem_cons, or_assoc]
  obtain ⟨protocols, h, hmem⟩ := hfold calls empty [] represents_empty
  refine ⟨protocols, h, fun p => ?_⟩
  rw [hmem, or_iff_right List.not_mem_nil]

/-! ## What is answered -/

/-- What a registry answers once the protocols in `calls` have been registered. -/
structure Serves (r : Registry) (calls : List Protocol) : Prop where
  /-- To register a protocol again is an error, and changes nothing. -/
  register_of_mem : ∀ p ∈ calls, r.register p = .error (.duplicatePlugin p) ∧ r.after p = r
  register_of_not_mem : ∀ p, p ∉ calls → r.register p = .ok (r.insert p)
  nodup_allFields : r.allFields.Nodup
  isSome_field?_iff : ∀ d, (r.field? d).isSome = true ↔ d ∈ r.allFields
  mem_allFields_iff : ∀ d, d ∈ r.allFields ↔
    ∃ fields, r.pluginFields? d.plugin = some fields ∧ d ∈ fields
  /-- A field that is found carries the descriptor, and the protocol that the descriptor names. -/
  field?_eq_some : ∀ d f, r.field? d = some f → f.descriptor = d ∧ f.protocol.name = d.plugin
  /-- The fields of a protocol are listed in the order of declaration and numbered from zero; they
  are those that their descriptors find. -/
  fieldsOf_of_mem : ∀ p ∈ calls,
    (r.fieldsOf p).map RegisteredField.descriptor = p.fieldNames.map (⟨p.name, ·⟩) ∧
      (r.fieldsOf p).map RegisteredField.index = List.range p.fieldNames.length ∧
      ∀ f ∈ r.fieldsOf p, f.protocol = p ∧ r.field? f.descriptor = some f
  fieldsOf_of_not_mem : ∀ p, p ∉ calls → r.fieldsOf p = []
  pluginFields?_eq_some_iff : ∀ plugin fields, r.pluginFields? plugin = some fields ↔
    ∃ p ∈ calls, p.name = plugin ∧ (r.fieldsOf p).map RegisteredField.descriptor = fields
  /-- Plugin after plugin, the fields are all fields. -/
  flatMap_pluginNames_perm :
    (r.pluginNames.flatMap fun plugin => (r.pluginFields? plugin).getD []).Perm r.allFields
  pluginNames_eq : r.pluginNames = (Protocol.all.filter (· ∈ calls)).map Protocol.name

/-- No question about fields, plugins or values tells the registries apart. -/
structure AnswersAlike (r r' : Registry) : Prop where
  field?_eq : ∀ d, r.field? d = r'.field? d
  read_eq : ∀ d o, r.read d o = r'.read d o
  pluginFields?_eq : ∀ plugin, r.pluginFields? plugin = r'.pluginFields? plugin
  pluginNames_eq : r.pluginNames = r'.pluginNames

/-- All that is answered follows from the protocols that are represented. -/
theorem Represents.serves {calls : List Protocol} (h : r.Represents protocols)
    (hmem : ∀ p, p ∈ protocols ↔ p ∈ calls) : r.Serves calls where
  register_of_mem p hp :=
    ⟨h.register_of_mem ((hmem p).2 hp), h.after_of_mem ((hmem p).2 hp)⟩
  register_of_not_mem p hp := h.register_of_not_mem (mt (hmem p).1 hp)
  nodup_allFields := h.nodup_allFields
  isSome_field?_iff d := by
    simp only [Option.isSome_iff_exists, h.field?_eq_some_iff, allFields, List.mem_map]
  mem_allFields_iff := h.lawful_catalog.coherent
  field?_eq_some d f hf := by
    obtain ⟨hfields, rfl⟩ := h.field?_eq_some_iff.1 hf
    obtain ⟨p, -, hdeclared⟩ := h.mem_fields_iff.1 hfields
    rw [Protocol.protocol_of_mem_declaredFields hdeclared,
      Protocol.plugin_of_mem_declaredFields hdeclared]
    exact ⟨rfl, rfl⟩
  fieldsOf_of_mem p hp := by
    have hmem : p ∈ protocols := (hmem p).2 hp
    rw [h.fieldsOf_of_mem hmem]
    refine ⟨p.map_descriptor_declaredFields, p.map_index_declaredFields, fun f hf => ?_⟩
    refine ⟨Protocol.protocol_of_mem_declaredFields hf, h.field?_eq_some_iff.2 ⟨?_, rfl⟩⟩
    exact h.mem_fields_iff.2 ⟨p, hmem, hf⟩
  fieldsOf_of_not_mem p hp := h.fieldsOf_of_not_mem (mt (hmem p).1 hp)
  pluginFields?_eq_some_iff plugin fields := by
    rw [h.pluginFields?_eq_some_iff]
    refine exists_congr fun p => ?_
    rw [← hmem p]
    exact and_congr_right fun hp => by rw [h.fieldsOf_of_mem hp]
  flatMap_pluginNames_perm := h.flatMap_pluginNames_perm
  pluginNames_eq := by simp only [h.pluginNames_eq, hmem]

/-- Registries of the same protocols answer alike, though their fields may stand in another
order. -/
theorem Represents.answersAlike {r' : Registry} {protocols' : List Protocol}
    (h : r.Represents protocols) (h' : r'.Represents protocols')
    (hmem : ∀ p, p ∈ protocols ↔ p ∈ protocols') : r.AnswersAlike r' := by
  have hfield : ∀ d, r.field? d = r'.field? d := by
    refine fun d => Option.ext fun f => ?_
    simp only [h.field?_eq_some_iff, h'.field?_eq_some_iff, h.mem_fields_iff, h'.mem_fields_iff,
      hmem]
  refine ⟨hfield, fun d o => ?_, fun plugin => Option.ext fun fields => ?_, ?_⟩
  · rw [read, read, hfield]
  · simp only [h.pluginFields?_eq_some_iff, h'.pluginFields?_eq_some_iff, hmem]
  · simp only [h.pluginNames_eq, h'.pluginNames_eq, hmem]

/-- **Registries keep in step.** After every sequence of registrations, whatever its order and its
repetitions, a further registration fails exactly if the protocol was registered; the fields are
found by their descriptors, listed plugin by plugin in the order of declaration, and dealt out among
the plugins, each to one; and another sequence over the same protocols gives a registry that answers
alike. -/
theorem registerAll_serves (calls : List Protocol) :
    (registerAll calls).Serves calls ∧
    ∀ calls' : List Protocol, (∀ p, p ∈ calls ↔ p ∈ calls') →
      (registerAll calls).AnswersAlike (registerAll calls') := by
  obtain ⟨protocols, h, hmem⟩ := exists_represents calls
  refine ⟨h.serves hmem, fun calls' hcalls => ?_⟩
  obtain ⟨protocols', h', hmem'⟩ := exists_represents calls'
  exact h.answersAlike h' fun p => (hmem p).trans ((hcalls p).trans (hmem' p).symm)

/-- Two orders, one with a protocol registered twice, in which the fields stand differently. -/
theorem registerAll_serves_reordered :
    (∀ p, p ∈ [Protocol.quic, .vlan, .quic] ↔ p ∈ [Protocol.vlan, .quic]) ∧
    (registerAll [.quic, .vlan, .quic]).allFields ≠ (registerAll [.vlan, .quic]).allFields ∧
    (registerAll [.quic, .vlan, .quic]).AnswersAlike (registerAll [.vlan, .quic]) := by
  have hmem : ∀ p, p ∈ [Protocol.quic, .vlan, .quic] ↔ p ∈ [Protocol.vlan, .quic] := by
    intro p
    cases p <;> decide
  exact ⟨hmem, by decide, (registerAll_serves [.quic, .vlan, .quic]).2 [.vlan, .quic] hmem⟩

end Registry

end Flowmeter
