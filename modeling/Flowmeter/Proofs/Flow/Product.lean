import Flowmeter.Flow.Builtin
import Flowmeter.Proofs.Flow.Step

/-!
# A call is the product of its plugins

In a list of plugins of distinct protocols, each plugin is offered the packet on the slot that the
call started with, whatever stands before it in the list (`get_foldl_offer_of_mem`), and the flow
is flushed when one of them flushes it (`snd_foldl_offer_iff`). So a call does to each slot what the
plugin of the slot does alone, and the order of the list does not show
(`process_slotwise_product`).
-/

namespace Flowmeter.FlowRecord

/-! ## The plugins of a call -/

section Offer

variable {packet : Packet} {state : PerProtocol Slot × Bool} {plugins : List Plugin}

/-- A slot moves as if its plugin were the only one. -/
theorem get_foldl_offer_of_mem {plugin : Plugin} (hd : (plugins.map Plugin.protocol).Nodup)
    (hp : plugin ∈ plugins) :
    (plugins.foldl (offer packet) state).1.get plugin.protocol =
      ((state.1.get plugin.protocol).advance plugin packet).1 := by
  induction plugins generalizing state with
  | nil => cases hp
  | cons head rest ih =>
    rw [List.map_cons, List.nodup_cons] at hd
    obtain ⟨hhead, hrest⟩ := hd
    rw [List.foldl_cons]
    rcases List.mem_cons.1 hp with rfl | hp
    · have hne : ∀ p ∈ rest, p.protocol ≠ plugin.protocol :=
        fun p hp he => hhead (he ▸ List.mem_map_of_mem hp)
      rw [get_foldl_offer_of_forall_ne hne, get_offer_self]
    · have hne : head.protocol ≠ plugin.protocol :=
        fun he => hhead (he ▸ List.mem_map_of_mem hp)
      rw [ih hrest hp, get_offer_of_ne hne]

/-- The flow is flushed if it was before, or if some plugin flushes it. -/
theorem snd_foldl_offer_iff (hd : (plugins.map Plugin.protocol).Nodup) :
    (plugins.foldl (offer packet) state).2 = true ↔
      state.2 = true ∨
        ∃ plugin ∈ plugins, ((state.1.get plugin.protocol).advance plugin packet).2 = true := by
  induction plugins generalizing state with
  | nil => simp
  | cons head rest ih =>
    rw [List.map_cons, List.nodup_cons] at hd
    obtain ⟨hhead, hrest⟩ := hd
    have hsame : ∀ plugin ∈ rest, (offer packet state head).1.get plugin.protocol =
        state.1.get plugin.protocol :=
      fun plugin hp => get_offer_of_ne fun he => hhead (he ▸ List.mem_map_of_mem hp)
    have hsome : (∃ plugin ∈ rest,
          (((offer packet state head).1.get plugin.protocol).advance plugin packet).2 = true) ↔
        ∃ plugin ∈ rest, ((state.1.get plugin.protocol).advance plugin packet).2 = true :=
      exists_congr fun plugin => and_congr_right fun hp => by rw [hsame plugin hp]
    rw [List.foldl_cons, ih hrest, hsome, snd_offer, Bool.or_eq_true, or_assoc]
    simp only [List.mem_cons, exists_eq_or_imp]

end Offer

/-! ## One call -/

section Process

variable {r : FlowRecord} {plugins : List Plugin} {packet : Packet}

/-- A call that does not split the flow moves the slot of each of its plugins. -/
theorem slot_process_of_mem {plugin : Plugin} (hd : (plugins.map Plugin.protocol).Nodup)
    (hs : r.isSplitBy plugins packet = false) (hp : plugin ∈ plugins) :
    (r.process plugins packet).2.slot plugin.protocol =
      ((r.slot plugin.protocol).advance plugin packet).1 := by
  rw [process_of_not_isSplitBy hs]
  exact get_foldl_offer_of_mem hd hp

theorem slot_process_of_forall_ne {q : Protocol}
    (h : ∀ plugin ∈ plugins, plugin.protocol ≠ q) :
    (r.process plugins packet).2.slot q = r.slot q := by
  have hafter : (r.after ⟨plugins, packet⟩).slot q = r.slot q :=
    slot_after_induct (P := (· = r.slot q)) (fun p hp hq => absurd hq (h p hp)) rfl
  exact hafter

/-- A call that does not split the flow flushes it if one of its plugins does. -/
theorem process_fst_eq_flush_iff (hd : (plugins.map Plugin.protocol).Nodup)
    (hs : r.isSplitBy plugins packet = false) :
    (r.process plugins packet).1 = .flush ↔
      ∃ plugin ∈ plugins, ((r.slot plugin.protocol).advance plugin packet).2 = true := by
  have hflush : (plugins.foldl (offer packet) (r.slots, false)).2 = true ↔
      ∃ plugin ∈ plugins, ((r.slot plugin.protocol).advance plugin packet).2 = true := by
    rw [snd_foldl_offer_iff hd, Bool.false_eq_true, false_or]
    rfl
  rw [process_of_not_isSplitBy hs, ← hflush]
  cases (plugins.foldl (offer packet) (r.slots, false)).2 <;> simp

theorem isSplitBy_singleton_of_mem {plugin : Plugin} (hs : r.isSplitBy plugins packet = false)
    (hp : plugin ∈ plugins) : r.isSplitBy [plugin] packet = false := by
  rw [Bool.eq_false_iff, ne_eq, isSplitBy_eq_true_iff] at hs ⊢
  rintro ⟨p, hmem, hsplits⟩
  rw [List.mem_singleton.1 hmem] at hsplits
  exact hs ⟨plugin, hp, hsplits⟩

theorem slot_process_singleton {plugin : Plugin} (hs : r.isSplitBy [plugin] packet = false) :
    (r.process [plugin] packet).2.slot plugin.protocol =
      ((r.slot plugin.protocol).advance plugin packet).1 :=
  slot_process_of_mem (List.pairwise_singleton ..) hs (List.mem_singleton_self _)

theorem process_singleton_fst_eq_flush_iff {plugin : Plugin}
    (hs : r.isSplitBy [plugin] packet = false) :
    (r.process [plugin] packet).1 = .flush ↔
      ((r.slot plugin.protocol).advance plugin packet).2 = true := by
  have hd : ([plugin].map Plugin.protocol).Nodup := List.pairwise_singleton ..
  rw [process_fst_eq_flush_iff hd hs]
  simp only [List.mem_singleton, exists_eq_left]

end Process

/-! ## The order of the plugins -/

section Order

variable {r : FlowRecord} {plugins plugins' : List Plugin} {packet : Packet}

theorem isSplitBy_perm (hp : plugins.Perm plugins') :
    r.isSplitBy plugins packet = r.isSplitBy plugins' packet := by
  rw [Bool.eq_iff_iff, isSplitBy_eq_true_iff, isSplitBy_eq_true_iff]
  simp only [hp.mem_iff]

/-- Reordered plugins answer the same and leave the same record. -/
theorem process_perm (hp : plugins.Perm plugins') (hd : (plugins.map Plugin.protocol).Nodup) :
    r.process plugins packet = r.process plugins' packet := by
  have hd' : (plugins'.map Plugin.protocol).Nodup := (hp.map _).nodup_iff.1 hd
  cases hs : r.isSplitBy plugins packet with
  | true => rw [process_of_isSplitBy hs, process_of_isSplitBy (isSplitBy_perm hp ▸ hs)]
  | false =>
    have hslots : (plugins.foldl (offer packet) (r.slots, false)).1 =
        (plugins'.foldl (offer packet) (r.slots, false)).1 := by
      refine PerProtocol.ext_get fun q => ?_
      by_cases hq : ∃ plugin ∈ plugins, plugin.protocol = q
      · obtain ⟨plugin, hmem, rfl⟩ := hq
        rw [get_foldl_offer_of_mem hd hmem, get_foldl_offer_of_mem hd' (hp.mem_iff.1 hmem)]
      · have hne : ∀ plugin ∈ plugins, plugin.protocol ≠ q := fun p hmem he => hq ⟨p, hmem, he⟩
        rw [get_foldl_offer_of_forall_ne hne,
          get_foldl_offer_of_forall_ne fun p hmem => hne p (hp.mem_iff.2 hmem)]
    have hflush : (plugins.foldl (offer packet) (r.slots, false)).2 =
        (plugins'.foldl (offer packet) (r.slots, false)).2 := by
      rw [Bool.eq_iff_iff, snd_foldl_offer_iff hd, snd_foldl_offer_iff hd']
      simp only [hp.mem_iff]
    rw [process_of_not_isSplitBy hs, process_of_not_isSplitBy (isSplitBy_perm hp ▸ hs), hslots,
      hflush]

/-- Every call of a history may have its plugins in an order of its own. -/
theorem trace_of_perm {calls : List Call} (hd : (plugins.map Plugin.protocol).Nodup)
    (h : ∀ call ∈ calls, call.plugins.Perm plugins) :
    r.trace calls = r.trace (Call.each plugins (calls.map Call.packet)) := by
  induction calls generalizing r with
  | nil => rfl
  | cons call rest ih =>
    have hp : plugins.Perm call.plugins := (h call List.mem_cons_self).symm
    have hhead : r.process call.plugins call.packet = r.process plugins call.packet :=
      (process_perm hp hd).symm
    simp only [Call.each, List.map_cons, trace, after, hhead]
    congr 1
    exact ih fun c hc => h c (List.mem_cons_of_mem _ hc)

end Order

/-! ## The product -/

/-- **A call is the product of its plugins.** It splits the flow if one of its plugins, on an
active slot with an observation, asks for it. Else each slot moves as under its plugin alone, the
slots without a plugin stay, and the flow is flushed if one of the plugins alone flushes it. The
order of the plugins shows in no answer and no record of any history. -/
theorem process_slotwise_product (r : FlowRecord) (plugins : List Plugin) (packet : Packet)
    (hd : (plugins.map Plugin.protocol).Nodup) :
    ((r.process plugins packet).1 = .split ↔
      ∃ plugin ∈ plugins, (r.slot plugin.protocol).phase = .active ∧
        ∃ o, (r.slot plugin.protocol).observation = some o ∧ plugin.splits packet o = true) ∧
    ((r.process plugins packet).1 ≠ .split →
      (∀ plugin ∈ plugins, (r.process plugins packet).2.slot plugin.protocol =
        (r.process [plugin] packet).2.slot plugin.protocol) ∧
      (∀ q, (∀ plugin ∈ plugins, plugin.protocol ≠ q) →
        (r.process plugins packet).2.slot q = r.slot q) ∧
      ((r.process plugins packet).1 = .flush ↔
        ∃ plugin ∈ plugins, (r.process [plugin] packet).1 = .flush)) ∧
    ∀ calls : List Call, (∀ call ∈ calls, call.plugins.Perm plugins) →
      r.trace calls = r.trace (Call.each plugins (calls.map Call.packet)) := by
  refine ⟨?_, fun h => ?_, fun calls hp => trace_of_perm hd hp⟩
  · rw [process_fst_eq_split_iff, isSplitBy_eq_true_iff]
    simp only [Slot.splits_eq_true_iff]
  · have hs : r.isSplitBy plugins packet = false := by
      rwa [ne_eq, process_fst_eq_split_iff, Bool.not_eq_true] at h
    have halone : ∀ plugin ∈ plugins, r.isSplitBy [plugin] packet = false :=
      fun plugin hp => isSplitBy_singleton_of_mem hs hp
    refine ⟨fun plugin hp => ?_, fun q hq => slot_process_of_forall_ne hq, ?_⟩
    · rw [slot_process_of_mem hd hs hp, slot_process_singleton (halone plugin hp)]
    · rw [process_fst_eq_flush_iff hd hs]
      exact exists_congr fun plugin => and_congr_right fun hp =>
        (process_singleton_fst_eq_flush_iff (halone plugin hp)).symm

/-- A tagged ICMP packet on a new flow, once with either order of the plugins. -/
theorem process_icmp_vlan_product :
    let packet : Packet := { ipProtocol := 1, payload := ⟨0, [3, 1]⟩, vlanTag := some 100 }
    ([Plugin.icmp, Plugin.vlan].map Plugin.protocol).Nodup ∧
    (empty.process [Plugin.icmp, Plugin.vlan] packet).1 ≠ .split ∧
    (∀ plugin ∈ [Plugin.icmp, Plugin.vlan],
      (empty.process [Plugin.icmp, Plugin.vlan] packet).2.slot plugin.protocol =
        (empty.process [plugin] packet).2.slot plugin.protocol) ∧
    empty.trace [⟨[Plugin.icmp, Plugin.vlan], packet⟩, ⟨[Plugin.vlan, Plugin.icmp], packet⟩] =
      empty.trace [⟨[Plugin.icmp, Plugin.vlan], packet⟩, ⟨[Plugin.icmp, Plugin.vlan], packet⟩] := by
  intro packet
  have hd : ([Plugin.icmp, Plugin.vlan].map Plugin.protocol).Nodup := by decide
  have hns : (empty.process [Plugin.icmp, Plugin.vlan] packet).1 ≠ .split := by decide
  obtain ⟨-, hslots, horder⟩ := process_slotwise_product empty [.icmp, .vlan] packet hd
  refine ⟨hd, hns, (hslots hns).1, horder [⟨_, packet⟩, ⟨_, packet⟩] ?_⟩
  intro call hcall
  simp only [List.mem_cons, List.not_mem_nil, or_false] at hcall
  rcases hcall with rfl | rfl
  · exact .rfl
  · exact .swap ..

end Flowmeter.FlowRecord
