import Flowmeter.Export.Component
import Flowmeter.Export.Delivery
import Flowmeter.Proofs.Export.Registry
import Flowmeter.Proofs.Flow.Handling

/-!
# Values are delivered by name

A field is read through its position among the getters of its protocol, a component by what it is.
Both come to the same: the names of a protocol's fields are those of its components, in an order
(`Protocol.declaredFields_eq`), and its getters stand in that order too (`Protocol.map_getters`), so
that each field reads the value of its component (`Component.read_field`). So what a flow delivers
for a list of descriptors are the values of the components that the descriptors name
(`handled_flow_delivers`).
-/

namespace Flowmeter

/-! ## Fields and components -/

/-- The components of a protocol, in the order of declaration. -/
def Protocol.components : Protocol → List Component
  | .vlan => [.vlanId]
  | .mpls => [.mplsTopLabel]
  | .icmp => [.icmpTypeCode]
  | .quic => [.quicVersion, .quicClientVersion, .quicTokenLength, .quicClientId,
      .quicOriginalServerId, .quicServerId, .quicRetryId, .quicMultiplexed, .quicZeroRtt,
      .quicServerPort, .quicPacketTypes]
  | .mqtt => [.mqttTypesSeen, .mqttVersion, .mqttConnectFlags, .mqttKeepAlive, .mqttReturnCode,
      .mqttPublishFlags, .mqttTopics]
  | .http => [.httpMethod, .httpHost, .httpTarget, .httpUserAgent, .httpReferer, .httpStatus,
      .httpContentType, .httpServer, .httpCookieNames]

/-- The field that exports a component. -/
def Component.field (k : Component) : RegisteredField :=
  ⟨k.descriptor, k.protocol, k.protocol.components.idxOf k⟩

/-- Names are declared in the order of the components. -/
theorem Protocol.declaredFields_eq (p : Protocol) :
    p.declaredFields = p.components.map Component.field := by
  cases p <;> decide

/-- Getters stand in the order of the components, and each reads the value of its own. -/
theorem Protocol.map_getters (p : Protocol) (o : Observation) :
    p.getters.map (· o) = p.components.map (·.value? o) := by
  cases p <;> cases o <;> rfl

theorem Protocol.protocol_of_mem_components {p : Protocol} {k : Component}
    (hk : k ∈ p.components) : k.protocol = p :=
  protocol_of_mem_declaredFields (f := k.field) (p.declaredFields_eq ▸ List.mem_map_of_mem hk)

namespace Component

theorem mem_components (k : Component) : k ∈ k.protocol.components := by
  cases k <;> decide

theorem field_mem_declaredFields (k : Component) : k.field ∈ k.protocol.declaredFields := by
  rw [Protocol.declaredFields_eq]
  exact List.mem_map_of_mem k.mem_components

theorem value?_eq_none {k : Component} {o : Observation} (ho : o.protocol ≠ k.protocol) :
    k.value? o = none := by
  cases k <;> cases o <;> first | rfl | exact absurd rfl ho

/-- The getter at the position of a component reads its value. -/
theorem getElem?_getters (k : Component) (o : Observation) :
    (k.field.protocol.getters[k.field.index]?).map (· o) = some (k.value? o) := by
  have hindex : k.field.protocol.components[k.field.index]? = some k :=
    List.getElem?_idxOf k.mem_components
  rw [← List.getElem?_map, Protocol.map_getters, List.getElem?_map, hindex, Option.map_some]

/-- A field reads the value of its component. -/
theorem read_field (k : Component) (o : Observation) : k.field.read o = k.value? o := by
  by_cases ho : o.protocol = k.field.protocol
  · obtain ⟨get, hget, hvalue⟩ := Option.map_eq_some_iff.1 (k.getElem?_getters o)
    rw [RegisteredField.read, if_pos ho, hget]
    exact hvalue
  · rw [RegisteredField.read, if_neg ho, value?_eq_none ho]

/-- A getter finds nothing on an observation of another protocol. -/
theorem eq_none_of_mem_getters {p : Protocol} {get : Getter Observation} {o : Observation}
    (hget : get ∈ p.getters) (ho : o.protocol ≠ p) : get o = none := by
  have hvalue : get o ∈ p.components.map (·.value? o) :=
    p.map_getters o ▸ List.mem_map_of_mem hget
  obtain ⟨k, hk, hvalue⟩ := List.mem_map.1 hvalue
  rw [← hvalue]
  exact value?_eq_none (Protocol.protocol_of_mem_components hk ▸ ho)

/-- No two components go by the same names. -/
theorem descriptor_injective : Function.Injective descriptor := by
  intro k k' h
  have hnodup : ((Protocol.all.flatMap Protocol.components).map descriptor).Nodup := by
    have hfields := Protocol.nodup_flatMap_declaredFields Protocol.nodup_all
    rw [List.map_flatMap] at hfields ⊢
    simp only [Protocol.declaredFields_eq, List.map_map] at hfields
    exact hfields
  have hmem : ∀ k : Component, k ∈ Protocol.all.flatMap Protocol.components :=
    fun k => List.mem_flatMap.2 ⟨k.protocol, Protocol.mem_all _, k.mem_components⟩
  exact List.inj_on_of_nodup_map hnodup (hmem k) (hmem k') h

end Component

/-- The registered fields are those of the components of the registered protocols. -/
theorem Registry.Represents.field?_eq_some_iff_component {r : Registry} {protocols : List Protocol}
    (h : r.Represents protocols) {d : Descriptor} {f : RegisteredField} :
    r.field? d = some f ↔
      ∃ k : Component, k.descriptor = d ∧ k.protocol ∈ protocols ∧ k.field = f := by
  rw [h.field?_eq_some_iff, h.mem_fields_iff]
  constructor
  · rintro ⟨⟨p, hp, hf⟩, rfl⟩
    obtain ⟨k, -, rfl⟩ := List.mem_map.1 (Protocol.declaredFields_eq p ▸ hf)
    have hprotocol : k.protocol = p := Protocol.protocol_of_mem_declaredFields hf
    exact ⟨k, rfl, hprotocol ▸ hp, rfl⟩
  · rintro ⟨k, rfl, hp, rfl⟩
    exact ⟨⟨k.protocol, hp, k.field_mem_declaredFields⟩, rfl⟩

namespace FlowRecord

/-! ## Delivery -/

/-- The flow has the value `v` for the component that `d` names, which is one of a protocol in the
list. -/
def Shows (r : FlowRecord) (protocols : List Protocol) (d : Descriptor) (v : FieldValue) : Prop :=
  ∃ k : Component, k.descriptor = d ∧ k.protocol ∈ protocols ∧
    ∃ o, r.observation? k.protocol = some o ∧ k.value? o = some v

/-- The pairs are the descriptors in the list that have a value, each with its value, in the order
of the list. -/
inductive Delivers (has : Descriptor → FieldValue → Prop) :
    List Descriptor → List (Descriptor × FieldValue) → Prop
  | nil : Delivers has [] []
  | value {d : Descriptor} {v : FieldValue} {ds : List Descriptor}
      {pairs : List (Descriptor × FieldValue)} :
      has d v → Delivers has ds pairs → Delivers has (d :: ds) ((d, v) :: pairs)
  | pass {d : Descriptor} {ds : List Descriptor} {pairs : List (Descriptor × FieldValue)} :
      (∀ v, ¬ has d v) → Delivers has ds pairs → Delivers has (d :: ds) pairs

variable {r : FlowRecord} {registry : Registry} {protocols : List Protocol}

theorem delivers_values {has : Descriptor → FieldValue → Prop}
    (h : ∀ d v, r.value? registry d = some v ↔ has d v) (ds : List Descriptor) :
    Delivers has ds (r.values registry ds) := by
  induction ds with
  | nil => exact .nil
  | cons d rest ih =>
    cases hd : r.value? registry d with
    | none =>
      have hnone : ∀ v, ¬ has d v := fun v hv => by
        rw [← h, hd] at hv
        cases hv
      rw [values, List.filterMap_cons_none (by rw [hd, Option.map_none])]
      exact .pass hnone ih
    | some v =>
      rw [values, List.filterMap_cons_some (by rw [hd, Option.map_some])]
      exact .value ((h d v).1 hd) ih

theorem value?_eq_some_iff (h : registry.Represents protocols) (d : Descriptor) (v : FieldValue) :
    r.value? registry d = some v ↔ r.Shows protocols d v := by
  simp only [value?, Option.bind_eq_bind, Option.bind_eq_some_iff,
    h.field?_eq_some_iff_component]
  constructor
  · rintro ⟨_, ⟨k, hd, hp, rfl⟩, o, ho, hv⟩
    exact ⟨k, hd, hp, o, ho, k.read_field o ▸ hv⟩
  · rintro ⟨k, hd, hp, o, ho, hv⟩
    exact ⟨k.field, ⟨k, hd, hp, rfl⟩, o, ho, (k.read_field o).trans hv⟩

theorem shows_congr {protocols' : List Protocol} (h : ∀ p, p ∈ protocols ↔ p ∈ protocols')
    (d : Descriptor) (v : FieldValue) : r.Shows protocols d v ↔ r.Shows protocols' d v := by
  simp only [Shows, h]

/-- **Values are delivered by name.** Whichever protocols have been registered, and however a flow
has been handled, it delivers for a list of descriptors, in the order of the list, the value of the
component that a descriptor names wherever its protocol is registered and the component was
observed, and nothing else. A descriptor names one component at most. What a slot holds is of the
protocol of the slot, and on an observation of another protocol neither a field has a value nor the
getter at its position. -/
theorem handled_flow_delivers (registrations : List Protocol) (steps : List Handling)
    (hsteps : ∀ call, .process call ∈ steps → call.IsBuiltin) :
    (∀ ds, Delivers ((empty.handleAll steps).Shows registrations) ds
      ((empty.handleAll steps).values (.registerAll registrations) ds)) ∧
    Function.Injective Component.descriptor ∧
    (∀ p o, (empty.handleAll steps).observation? p = some o → o.protocol = p) ∧
    ∀ f ∈ (Registry.registerAll registrations).fields, ∀ o : Observation,
      o.protocol ≠ f.protocol → f.read o = none ∧
        ∀ get, f.protocol.getters[f.index]? = some get → get o = none := by
  obtain ⟨protocols, h, hmem⟩ := Registry.exists_represents registrations
  refine ⟨fun ds => ?_, Component.descriptor_injective, fun p o ho => ?_, fun f _ o ho => ?_⟩
  · refine delivers_values (fun d v => ?_) ds
    rw [value?_eq_some_iff h, shows_congr hmem]
  · exact isOf_slot_handleAll (fun call hcall => (hsteps call hcall).keepsProtocol) p o ho
  · refine ⟨if_neg ho, fun get hget => ?_⟩
    exact Component.eq_none_of_mem_getters (List.mem_of_getElem? hget) ho

/-- A connection with a server id but no Retry, and a tag; what the descriptors name besides is not
registered, not declared or not observed. -/
theorem handled_flow_delivers_server_id :
    let tagged : Packet := { ipProtocol := 17, payload := ⟨0, []⟩, vlanTag := some 100 }
    let steps : List Handling := [.process ⟨[.vlan, .icmp], tagged⟩,
      .attach (.quic { serverId := some ⟨[0xbb], by decide⟩ }), .detach .icmp]
    let ds : List Descriptor := [⟨"quic", "QUIC_RETRY_SCID"⟩, ⟨"vlan", "VLAN_ID"⟩,
      ⟨"quic", "QUIC_SCID"⟩, ⟨"quic", "VLAN_ID"⟩, ⟨"vlan", "VLAN_ID"⟩, ⟨"http", "HTTP_REQUEST_HOST"⟩]
    (∀ call, .process call ∈ steps → call.IsBuiltin) ∧
    (empty.handleAll steps).values (.registerAll [.quic, .vlan, .quic]) ds =
      [(⟨"vlan", "VLAN_ID"⟩, .unsigned .two 100), (⟨"quic", "QUIC_SCID"⟩, .octets [0xbb]),
        (⟨"vlan", "VLAN_ID"⟩, .unsigned .two 100)] ∧
    Delivers ((empty.handleAll steps).Shows [.quic, .vlan, .quic]) ds
      ((empty.handleAll steps).values (.registerAll [.quic, .vlan, .quic]) ds) := by
  intro tagged steps ds
  have hsteps : ∀ call, Handling.process call ∈ steps → call.IsBuiltin := by
    intro call hcall
    simp only [steps, List.mem_cons, Handling.process.injEq, reduceCtorEq, List.not_mem_nil,
      or_false] at hcall
    subst hcall
    intro plugin hplugin
    simp only [List.mem_cons, List.not_mem_nil, or_false] at hplugin
    rcases hplugin with rfl | rfl
    · exact ⟨{}, .vlan, rfl⟩
    · exact ⟨{}, .icmp, rfl⟩
  exact ⟨hsteps, by decide +kernel, (handled_flow_delivers [.quic, .vlan, .quic] steps hsteps).1 ds⟩

end FlowRecord

end Flowmeter
