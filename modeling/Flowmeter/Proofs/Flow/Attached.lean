import Flowmeter.Proofs.Flow.Builtin
import Flowmeter.Proofs.Flow.Observing
import Mathlib.Data.List.Induction

/-!
# Attached observations

A slot gets an observation when its plugin begins one, and keeps it or has it updated
(`Slot.observation_advance_cases`). So what is attached to a flow is what the plugin of the protocol
comes to on its own, over some of the packets of the flow (`FlowRecord.exists_run?_of_attached`):
what holds of every run of a plugin holds of every observation that a flow shows.
-/

namespace Flowmeter

namespace Slot

variable {slot : Slot} {plugin : Plugin} {packet : Packet} {o : Observation}

theorem observation_opened_cases {protocol : Protocol} {opening : Opening}
    (h : (slot.opened protocol opening).observation = some o) :
    slot.observation = some o ∨ opening.observation? = some o := by
  cases opening with
  | begun o' | complete o' =>
    simp only [opened] at h
    split at h
    · exact .inr h
    · exact .inl h
  | undecided | irrelevant => exact .inl h

theorem observation_updated {o' : Observation}
    (h : (slot.updated (plugin.update packet o')).1.observation = some o) :
    plugin.take? o' packet = some o := by
  unfold Plugin.take?
  generalize plugin.update packet o' = taken at h ⊢
  obtain ⟨o'', verdict⟩ := taken
  cases verdict with
  | drop => cases h
  | more | final | flush => exact h

/-- The observation after a packet stood in the slot before it, is begun with it, or has taken it
in. -/
theorem observation_advance_cases (h : (slot.advance plugin packet).1.observation = some o) :
    slot.observation = some o ∨ (plugin.start packet).observation? = some o ∨
      ∃ o', slot.observation = some o' ∧ plugin.take? o' packet = some o := by
  cases hp : slot.phase with
  | pending =>
    rw [advance_pending hp] at h
    exact (observation_opened_cases h).imp_right .inl
  | active =>
    cases ho : slot.observation with
    | none =>
      simp only [advance, hp, ho] at h
      cases h
    | some o' =>
      rw [advance_active hp ho] at h
      exact .inr (.inr ⟨o', rfl, observation_updated h⟩)
  | finished =>
    rw [advance_finished hp] at h
    exact .inl h
  | ignored =>
    rw [advance_ignored hp] at h
    exact .inl h

end Slot

namespace FlowRecord

theorem run_each_append (r : FlowRecord) (plugins : List Plugin) (packets : List Packet)
    (packet : Packet) : r.run (Call.each plugins (packets ++ [packet])) =
      (r.run (Call.each plugins packets)).after ⟨plugins, packet⟩ := by
  simp only [run, Call.each, List.map_append, List.foldl_append]
  rfl

/-- **Flows show what plugins come to on their own.** An observation that is attached to a flow is
that of a run of its plugin over some of the packets, in their order. -/
theorem exists_run?_of_attached {settings : PluginSettings} {packets : List Packet} {q : Protocol}
    {o : Observation}
    (h : (empty.run (Call.each settings.build packets)).observation? q = some o) :
    ∃ taken, taken.Sublist packets ∧ (Plugin.ofProtocol settings.mqtt q).run? taken = some o := by
  induction packets using List.reverseRecOn generalizing o with
  | nil =>
    rw [observation?, Call.each, List.map_nil, run_nil, slot_empty] at h
    cases h
  | append_singleton past packet ih =>
    rw [observation?, run_each_append] at h
    rcases slot_after_build_cases settings (empty.run (Call.each settings.build past)) packet q with
      hstay | ⟨-, hmove⟩
    · rw [hstay] at h
      obtain ⟨taken, hsub, hrun⟩ := ih h
      exact ⟨taken, hsub.trans (List.sublist_append_left ..), hrun⟩
    · rw [hmove] at h
      rcases Slot.observation_advance_cases h with hold | hstart | ⟨o', hold, htake⟩
      · obtain ⟨taken, hsub, hrun⟩ := ih hold
        exact ⟨taken, hsub.trans (List.sublist_append_left ..), hrun⟩
      · refine ⟨[packet], List.sublist_append_right .., ?_⟩
        rw [Plugin.run?, hstart]
        rfl
      · obtain ⟨taken, hsub, hrun⟩ := ih hold
        refine ⟨taken ++ [packet], hsub.append_right _, ?_⟩
        rw [Plugin.run?_append hrun, htake]

end FlowRecord

end Flowmeter
