import Flowmeter.Proofs.Decoder
import Flowmeter.Proofs.Flow.Attached
import Flowmeter.Proofs.Flow.Reinsertion

/-!
# What the first packet alone tells

The plugins of VLAN, MPLS and ICMP either complete an observation with the first packet of a flow or
find that the flow does not carry their protocol (`Opening.IsSettling`). Either settles the slot,
and nothing moves a settled slot. So what a flow shows of these protocols is read off its first
packet (`first_packet_tells`), whatever the later ones are and whatever the other plugins make of
them.
-/

namespace Flowmeter

/-- The opening is the last word on a slot of the protocol. -/
def Opening.IsSettling (protocol : Protocol) : Opening → Prop
  | .complete o => o.protocol = protocol
  | .irrelevant => True
  | .begun _ | .undecided => False

namespace Slot

variable {protocol : Protocol} {opening : Opening}

theorem isSettled_opened (slot : Slot) (h : opening.IsSettling protocol) :
    (slot.opened protocol opening).IsSettled := by
  cases opening with
  | begun o => exact h.elim
  | undecided => exact h.elim
  | complete o =>
    have ho : o.protocol = protocol := h
    simp only [opened, if_pos ho]
    exact .inl rfl
  | irrelevant => exact .inr rfl

theorem observation_opened_empty (h : opening.IsSettling protocol) :
    (({} : Slot).opened protocol opening).observation = opening.observation? := by
  cases opening with
  | begun o => exact h.elim
  | undecided => exact h.elim
  | complete o =>
    have ho : o.protocol = protocol := h
    simp only [opened, if_pos ho]
    rfl
  | irrelevant => rfl

end Slot

/-! ## Flow records -/

namespace FlowRecord

variable {settings : PluginSettings} {first : Packet} {rest : List Packet} {q : Protocol}

/-- A new flow offers its first packet to every plugin, since none can split it. -/
theorem slot_after_first (first : Packet) {plugins : List Plugin} {plugin : Plugin}
    (hd : (plugins.map Plugin.protocol).Nodup) (hp : plugin ∈ plugins) :
    (empty.after ⟨plugins, first⟩).slot plugin.protocol =
      ({} : Slot).opened plugin.protocol (plugin.start first) := by
  have hslot : (empty.process plugins first).2.slot plugin.protocol =
      ((empty.slot plugin.protocol).advance plugin first).1 :=
    slot_process_of_mem hd isSplitBy_empty hp
  rw [slot_empty, Slot.advance_pending rfl] at hslot
  exact hslot

/-- A flow shows nothing of a protocol that is not enabled. -/
theorem observation?_run_of_not_mem {packets : List Packet} (hq : q ∉ settings.enabled) :
    (empty.run (Call.each settings.build packets)).observation? q = none := by
  have hslot : (empty.run (Call.each settings.build packets)).slot q = {} := by
    refine slot_run_induct (P := (· = {})) (fun call hcall plugin hp hprotocol => ?_)
      (slot_empty q)
    obtain ⟨packet, -, rfl⟩ := List.mem_map.1 hcall
    obtain ⟨protocol, henabled, rfl⟩ := PluginSettings.mem_build_iff.1 hp
    rw [Plugin.protocol_ofProtocol] at hprotocol
    exact absurd (hprotocol ▸ henabled) hq
  rw [observation?, hslot]

/-- If the first packet settles what its plugin makes of a flow, then the flow shows that to the
end. -/
theorem observation?_run_of_isSettling
    (hstart : ((Plugin.ofProtocol settings.mqtt q).start first).IsSettling q) :
    (empty.run (Call.each settings.build (first :: rest))).observation? q =
      if q ∈ settings.enabled then ((Plugin.ofProtocol settings.mqtt q).start first).observation?
      else none := by
  split
  · next hq =>
    have hmem : Plugin.ofProtocol settings.mqtt q ∈ settings.build :=
      PluginSettings.mem_build_iff.2 ⟨q, hq, rfl⟩
    have hfirst := slot_after_first first PluginSettings.nodup_protocols_build hmem
    rw [Plugin.protocol_ofProtocol] at hfirst
    have hsettled : ((empty.after ⟨settings.build, first⟩).slot q).IsSettled :=
      hfirst ▸ Slot.isSettled_opened {} hstart
    rw [observation?, Call.each, List.map_cons, run_cons, slot_run_of_settled hsettled, hfirst]
    exact Slot.observation_opened_empty hstart
  · next hq => exact observation?_run_of_not_mem hq

end FlowRecord

/-! ## The plugins that look at the first packet only -/

namespace Packet

/-- The label section of the first entry of the label stack. -/
def topLabel? (packet : Packet) : Option TopLabel :=
  if 4 ≤ packet.labelStack.length then some ⟨packet.labelStack.bytes.take 3⟩ else none

/-- Type and code of the ICMP message that the packet carries. -/
def icmpTypeCode? (packet : Packet) : Option Icmp.TypeCode :=
  if packet.ipProtocol = 1 ∨ packet.ipProtocol = 58 then
    match packet.payload.bytes with
    | type :: code :: _ => some ⟨type, code⟩
    | _ => none
  else none

end Packet

/-- The four octets of an entry are read and written again, so that its label section is what the
octets begin with. -/
theorem LabelStackEntry.topLabel_decoder (v : View) :
    (∃ fault, decoder v = .error fault ∧ v.length < 4) ∨
      ∃ top rest, decoder v = .ok (top, rest) ∧ 4 ≤ v.length ∧
        top.topLabel = ⟨v.bytes.take 3⟩ := by
  by_cases h : 4 ≤ v.length
  · have htake : (Decoder.take 4 : Decoder Empty View) v = .ok (v.take 4, v.drop 4) := if_pos h
    have hlength : (v.bytes.take 4).length = 4 := List.length_take_of_le h
    have hlt : BigEndian.ofOctets (v.bytes.take 4) < 2 ^ 32 := BigEndian.ofOctets_lt hlength
    have hwritten : BigEndian.toOctets 4 (BigEndian.ofOctets (v.bytes.take 4)) = v.bytes.take 4 :=
      BigEndian.toOctets_ofOctets hlength
    refine .inr ⟨⟨.ofNat (BigEndian.ofOctets (v.bytes.take 4))⟩, v.drop 4, ?_, h, ?_⟩
    · exact Decoder.bind_eq_ok.2 ⟨_, _, Decoder.bind_eq_ok.2 ⟨_, _, htake, rfl⟩, rfl⟩
    · rw [topLabel, UInt32.toNat_ofNat_of_lt' hlt, hwritten, List.take_take]
      rfl
  · have htake : (Decoder.take 4 : Decoder Empty View) v = .error ⟨.read .eof, v⟩ := if_neg h
    exact .inl ⟨_, Decoder.bind_of_error (Decoder.bind_of_error htake), Nat.lt_of_not_le h⟩

namespace Plugin

theorem carriesIcmp_iff {ipProtocol : UInt8} :
    carriesIcmp ipProtocol = true ↔ ipProtocol = 1 ∨ ipProtocol = 58 := by
  simp [carriesIcmp, IpProtocol.icmp, IpProtocol.icmpV6]

variable (packet : Packet)

theorem isSettling_start_vlan : (vlan.start packet).IsSettling .vlan := by
  unfold vlan
  dsimp only
  cases packet.vlanTag with
  | none => trivial
  | some tag => rfl

theorem observation?_start_vlan :
    (vlan.start packet).observation? = packet.vlanTag.map fun tag => .vlan ⟨tag⟩ := by
  unfold vlan
  dsimp only
  cases packet.vlanTag <;> rfl

theorem isSettling_start_mpls : (mpls.start packet).IsSettling .mpls := by
  unfold mpls
  dsimp only
  split
  · rfl
  · trivial

theorem observation?_start_mpls :
    (mpls.start packet).observation? = packet.topLabel?.map .mpls := by
  unfold mpls Packet.topLabel?
  dsimp only
  rcases LabelStackEntry.topLabel_decoder packet.labelStack with
    ⟨fault, hdecoder, hlength⟩ | ⟨top, rest, hdecoder, hlength, htop⟩
  · rw [hdecoder, if_neg (Nat.not_le_of_lt hlength)]
    rfl
  · rw [hdecoder, if_pos hlength]
    exact congrArg (fun label => some (Observation.mpls label)) htop

theorem isSettling_start_icmp : (icmp.start packet).IsSettling .icmp := by
  unfold icmp
  dsimp only
  split
  · split
    · rfl
    · trivial
  · trivial

theorem observation?_start_icmp :
    (icmp.start packet).observation? = packet.icmpTypeCode?.map .icmp := by
  obtain ⟨ipProtocol, ⟨offset, bytes⟩⟩ := packet
  unfold icmp Packet.icmpTypeCode?
  simp only [carriesIcmp_iff]
  split
  · match bytes with
    | [] => rfl
    | [_] => rfl
    | _ :: _ :: _ => rfl
  · rfl

end Plugin

namespace FlowRecord

/-- **What a flow shows of VLAN, MPLS and ICMP, its first packet tells.** The tag, the top label and
the type and code that an enabled plugin finds on the first packet are what the record shows after
any number of further packets; where it finds none, or is not enabled, the record never shows
any. -/
theorem first_packet_tells (settings : PluginSettings) (first : Packet) (rest : List Packet) :
    let record := empty.run (Call.each settings.build (first :: rest))
    record.observation? .vlan =
        (if .vlan ∈ settings.enabled then first.vlanTag.map fun tag => .vlan ⟨tag⟩ else none) ∧
      record.observation? .mpls =
        (if .mpls ∈ settings.enabled then first.topLabel?.map .mpls else none) ∧
      record.observation? .icmp =
        (if .icmp ∈ settings.enabled then first.icmpTypeCode?.map .icmp else none) := by
  rw [← Plugin.observation?_start_vlan, ← Plugin.observation?_start_mpls,
    ← Plugin.observation?_start_icmp]
  exact ⟨observation?_run_of_isSettling (Plugin.isSettling_start_vlan first),
    observation?_run_of_isSettling (Plugin.isSettling_start_mpls first),
    observation?_run_of_isSettling (Plugin.isSettling_start_icmp first)⟩

end FlowRecord

end Flowmeter
