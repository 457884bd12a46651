import Flowmeter.Proofs.Flow.Lifecycle
import Flowmeter.Proofs.Flow.Product

/-!
# The plugins of a probe

`PluginSettings.build` makes the built-in plugin of each enabled protocol once, at its first
occurrence (`build_eq_map_eraseDups`). So each plugin that runs is the built-in plugin of its
protocol (`eq_ofProtocol_of_mem_build`), and the only one of it (`nodup_protocols_build`).

A slot of a flow that a probe follows moves by the built-in plugin of its protocol, once for each
packet, and only if this plugin does not ask for the flow to be split (`slot_run_build_induct`). No
two plugins of a probe share a slot (`build_once_each`).
-/

namespace Flowmeter

theorem Protocol.eq_of_index_eq {p q : Protocol} (h : p.index = q.index) : p = q := by
  have hp := all_getElem?_index p
  rw [h, all_getElem?_index] at hp
  exact (Option.some.inj hp).symm

namespace Plugin

@[simp] theorem protocol_ofProtocol (options : Mqtt.Options) (protocol : Protocol) :
    (ofProtocol options protocol).protocol = protocol := by
  cases protocol <;> rfl

/-- Only the plugin of HTTP ever asks for a flow to be split. -/
theorem splits_ofProtocol_of_ne_http {protocol : Protocol} (options : Mqtt.Options)
    (packet : Packet) (o : Observation) (h : protocol ≠ .http) :
    (ofProtocol options protocol).splits packet o = false := by
  cases protocol with
  | http => exact absurd rfl h
  | _ => rfl

/-- The built-in plugins keep the protocol of an observation. -/
theorem keepsProtocol_ofProtocol (options : Mqtt.Options) (protocol : Protocol) :
    (ofProtocol options protocol).KeepsProtocol := by
  intro packet o
  cases protocol with
  | vlan | mpls | icmp => rfl
  | quic =>
    cases o with
    | quic connection =>
      simp only [ofProtocol, quic]
      split <;> rfl
    | _ => rfl
  | mqtt =>
    cases o with
    | mqtt session =>
      simp only [ofProtocol, mqtt]
      split <;> rfl
    | _ => rfl
  | http => cases o <;> rfl

end Plugin

namespace PluginSettings

variable {settings : PluginSettings}

/-- Adding the plugins of further protocols appends one for each that is new, at its first
occurrence. -/
theorem foldl_addPlugin (protocols : List Protocol) (plugins : List Plugin) :
    protocols.foldl settings.addPlugin plugins =
      plugins ++ ((protocols.filter fun protocol =>
        !plugins.any (·.protocol == protocol)).eraseDups.map
          (Plugin.ofProtocol settings.mqtt)) := by
  induction protocols generalizing plugins with
  | nil => simp
  | cons head rest ih =>
    rw [List.foldl_cons, ih, addPlugin]
    cases hseen : plugins.any (·.protocol == head) with
    | true => simp only [hseen, ↓reduceIte, Bool.not_true, Bool.false_eq_true, List.filter_cons]
    | false =>
      have hfilter : (rest.filter fun protocol =>
            !(plugins ++ [Plugin.ofProtocol settings.mqtt head]).any (·.protocol == protocol)) =
          (rest.filter fun protocol => !plugins.any (·.protocol == protocol)).filter
            fun protocol => !protocol == head := by
        rw [List.filter_filter]
        refine List.filter_congr fun protocol _ => ?_
        simp only [List.any_append, List.any_cons, List.any_nil, Bool.or_false,
          Plugin.protocol_ofProtocol, Bool.not_or]
        rw [Bool.and_comm, BEq.comm]
      simp only [hseen, Bool.false_eq_true, ↓reduceIte, Bool.not_false, List.filter_cons,
        List.eraseDups_cons, List.map_cons, hfilter, List.append_assoc, List.singleton_append]

/-- The plugins that run are those of the enabled protocols, each at its first occurrence. -/
theorem build_eq_map_eraseDups :
    settings.build = settings.enabled.eraseDups.map (Plugin.ofProtocol settings.mqtt) := by
  have hall : (settings.enabled.filter fun protocol =>
      !([] : List Plugin).any (·.protocol == protocol)) = settings.enabled :=
    List.filter_eq_self.2 fun _ _ => rfl
  rw [build, foldl_addPlugin, List.nil_append, hall]

theorem mem_build_iff {plugin : Plugin} :
    plugin ∈ settings.build ↔
      ∃ protocol ∈ settings.enabled, Plugin.ofProtocol settings.mqtt protocol = plugin := by
  simp only [build_eq_map_eraseDups, List.mem_map, List.mem_eraseDups]

theorem eq_ofProtocol_of_mem_build {plugin : Plugin} (h : plugin ∈ settings.build) :
    plugin = Plugin.ofProtocol settings.mqtt plugin.protocol := by
  obtain ⟨protocol, -, rfl⟩ := mem_build_iff.1 h
  rw [Plugin.protocol_ofProtocol]

theorem nodup_protocols_addPlugin {plugins : List Plugin} (protocol : Protocol)
    (h : (plugins.map Plugin.protocol).Nodup) :
    ((settings.addPlugin plugins protocol).map Plugin.protocol).Nodup := by
  unfold addPlugin
  split
  · exact h
  · next hnew =>
    have hne : ∀ plugin ∈ plugins, plugin.protocol ≠ protocol := by
      intro plugin hp hq
      exact hnew (List.any_eq_true.2 ⟨plugin, hp, beq_iff_eq.2 hq⟩)
    rw [List.map_append, List.nodup_append]
    refine ⟨h, List.pairwise_singleton .., ?_⟩
    intro q hq q' hq' heq
    obtain ⟨plugin, hp, rfl⟩ := List.mem_map.1 hq
    rw [List.map_singleton, List.mem_singleton, Plugin.protocol_ofProtocol] at hq'
    exact hne plugin hp (heq.trans hq')

theorem nodup_protocols_build : (settings.build.map Plugin.protocol).Nodup := by
  have hfold : ∀ (protocols : List Protocol) (plugins : List Plugin),
      (plugins.map Plugin.protocol).Nodup →
      ((protocols.foldl settings.addPlugin plugins).map Plugin.protocol).Nodup := by
    intro protocols
    induction protocols with
    | nil => exact fun _ h => h
    | cons protocol rest ih => exact fun plugins h => ih _ (nodup_protocols_addPlugin protocol h)
  exact hfold settings.enabled [] List.Pairwise.nil

theorem map_protocol_build : settings.build.map Plugin.protocol = settings.enabled.eraseDups := by
  rw [build_eq_map_eraseDups, List.map_map]
  exact List.map_id'' (Plugin.protocol_ofProtocol settings.mqtt) _

theorem length_build_le : settings.build.length ≤ Protocol.all.length := by
  have hsubset : settings.build.map Plugin.protocol ⊆ Protocol.all := fun p _ => Protocol.mem_all p
  have hle := nodup_protocols_build.length_le_of_subset hsubset
  rwa [List.length_map] at hle

end PluginSettings

/-! ## Flow records -/

namespace FlowRecord

variable {settings : PluginSettings} {r : FlowRecord} {q : Protocol}

/-- A packet leaves a slot as it is, or moves it by the built-in plugin of its protocol, which then
has not asked for the flow to be split. -/
theorem slot_after_build_cases (settings : PluginSettings) (r : FlowRecord) (packet : Packet)
    (q : Protocol) :
    (r.after ⟨settings.build, packet⟩).slot q = r.slot q ∨
      (r.slot q).splits (Plugin.ofProtocol settings.mqtt q) packet = false ∧
        (r.after ⟨settings.build, packet⟩).slot q =
          ((r.slot q).advance (Plugin.ofProtocol settings.mqtt q) packet).1 := by
  by_cases hsplit : r.isSplitBy settings.build packet = true
  · left
    rw [after, process_of_isSplitBy hsplit]
  rw [Bool.not_eq_true] at hsplit
  by_cases hq : ∃ plugin ∈ settings.build, plugin.protocol = q
  · right
    obtain ⟨plugin, hp, rfl⟩ := hq
    have hslot := slot_process_of_mem PluginSettings.nodup_protocols_build hsplit hp
    rw [← PluginSettings.eq_ofProtocol_of_mem_build hp]
    refine ⟨?_, hslot⟩
    rw [← Bool.not_eq_true]
    intro hsplits
    rw [isSplitBy_eq_true_iff.2 ⟨plugin, hp, hsplits⟩] at hsplit
    cases hsplit
  · left
    exact slot_process_of_forall_ne fun plugin hp he => hq ⟨plugin, hp, he⟩

/-- What such a move keeps, every history under the plugins of a probe keeps. -/
theorem slot_run_build_induct {P : Slot → Prop} {packets : List Packet}
    (hstep : ∀ slot packet, slot.splits (Plugin.ofProtocol settings.mqtt q) packet = false →
      P slot → P (slot.advance (Plugin.ofProtocol settings.mqtt q) packet).1)
    (h : P (r.slot q)) : P ((r.run (Call.each settings.build packets)).slot q) := by
  induction packets generalizing r with
  | nil => exact h
  | cons packet rest ih =>
    apply ih
    rcases slot_after_build_cases settings r packet q with hstay | ⟨hsplits, hmove⟩
    · rw [hstay]
      exact h
    · rw [hmove]
      exact hstep _ packet hsplits h

end FlowRecord

/-- **Each enabled protocol is observed by one plugin.** The plugins that run are the built-in ones
of the enabled protocols, each at its first occurrence; their protocols, which are distinct and at
most six, give each of them a slot of its own; and a packet moves the slot of each as if the others
were not there. -/
theorem PluginSettings.build_once_each (settings : PluginSettings) :
    settings.build = settings.enabled.eraseDups.map (Plugin.ofProtocol settings.mqtt) ∧
    settings.build.map Plugin.protocol = settings.enabled.eraseDups ∧
    (settings.build.map Plugin.protocol).Nodup ∧
    settings.build.length ≤ 6 ∧
    settings.build.Pairwise (fun p q => p.protocol.index ≠ q.protocol.index) ∧
    ∀ (r : FlowRecord) (packet : Packet), (r.process settings.build packet).1 ≠ .split →
      ∀ plugin ∈ settings.build, (r.process settings.build packet).2.slot plugin.protocol =
        ((r.slot plugin.protocol).advance plugin packet).1 := by
  refine ⟨build_eq_map_eraseDups, map_protocol_build, nodup_protocols_build, length_build_le, ?_,
    fun r packet h plugin hp => ?_⟩
  · have hdistinct : settings.build.Pairwise fun p q => p.protocol ≠ q.protocol :=
      List.pairwise_map.1 nodup_protocols_build
    exact hdistinct.imp fun hne hindex => hne (Protocol.eq_of_index_eq hindex)
  · have hsplit : r.isSplitBy settings.build packet = false := by
      rwa [ne_eq, FlowRecord.process_fst_eq_split_iff, Bool.not_eq_true] at h
    exact FlowRecord.slot_process_of_mem nodup_protocols_build hsplit hp

/-- A protocol that is enabled twice, and a packet on a new flow. -/
theorem PluginSettings.build_once_each_repeated :
    let settings : PluginSettings := { enabled := [.http, .quic, .http] }
    let packet : Packet := { ipProtocol := 17, payload := ⟨0, [0x40]⟩ }
    settings.build.map Plugin.protocol = [.http, .quic] ∧
    (FlowRecord.empty.process settings.build packet).1 ≠ .split ∧
    ∀ plugin ∈ settings.build,
      (FlowRecord.empty.process settings.build packet).2.slot plugin.protocol =
        ((FlowRecord.empty.slot plugin.protocol).advance plugin packet).1 := by
  intro settings packet
  obtain ⟨-, hprotocols, -, -, -, hslots⟩ := build_once_each settings
  have hfirst : settings.enabled.eraseDups = [.http, .quic] := by decide
  have hsplit : (FlowRecord.empty.process settings.build packet).1 ≠ .split := by decide
  exact ⟨hprotocols.trans hfirst, hsplit, hslots _ packet hsplit⟩

end Flowmeter
