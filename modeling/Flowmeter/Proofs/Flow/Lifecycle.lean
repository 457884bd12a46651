import Flowmeter.Flow.Builtin
import Flowmeter.Proofs.Flow.Step

/-!
# The lifecycle of a slot

A slot is pending, then active, then finished or ignored. While it is pending or ignored it holds
no observation; while it is active or finished it holds one of its own protocol
(`Slot.Consistent`). The moves of a slot keep this, whatever its plugins answer, as long as an
update leaves an observation one of the same protocol (`Plugin.KeepsProtocol`). A finished or
ignored slot never moves again (`slot_run_of_settled`).
-/

namespace Flowmeter

/-! ## Plugins that keep the protocol -/

/-- An update leaves an observation one of the protocol that it was of. -/
def Plugin.KeepsProtocol (plugin : Plugin) : Prop :=
  ∀ packet o, (plugin.update packet o).1.protocol = o.protocol

def Call.KeepsProtocol (call : Call) : Prop :=
  ∀ plugin ∈ call.plugins, plugin.KeepsProtocol

/-! ## One slot -/

namespace Slot

/-- A slot of `protocol` holds an observation of that protocol if it is active or finished, and
none otherwise. -/
def Consistent (protocol : Protocol) (slot : Slot) : Prop :=
  match slot.phase with
  | .pending | .ignored => slot.observation = none
  | .active | .finished => ∃ o, slot.observation = some o ∧ o.protocol = protocol

/-- Nothing moves a slot in this phase. -/
def IsSettled (slot : Slot) : Prop :=
  slot.phase = .finished ∨ slot.phase = .ignored

section

variable {slot : Slot} {protocol : Protocol} {plugin : Plugin} {packet : Packet}

theorem Consistent.observation_eq_none (h : slot.Consistent protocol)
    (hp : slot.phase = .pending ∨ slot.phase = .ignored) : slot.observation = none := by
  unfold Consistent at h
  rcases hp with hp | hp <;> rw [hp] at h <;> exact h

theorem Consistent.exists_observation (h : slot.Consistent protocol)
    (hp : slot.phase = .active ∨ slot.phase = .finished) :
    ∃ o, slot.observation = some o ∧ o.protocol = protocol := by
  unfold Consistent at h
  rcases hp with hp | hp <;> rw [hp] at h <;> exact h

/-- An opening leaves a pending slot consistent; a foreign observation is not taken in. -/
theorem Consistent.opened (h : slot.Consistent protocol) (hp : slot.phase = .pending)
    (opening : Opening) : (slot.opened protocol opening).Consistent protocol := by
  have hnone : slot.observation = none := h.observation_eq_none (.inl hp)
  cases opening with
  | begun o =>
    simp only [Slot.opened]
    split
    · next ho => exact ⟨o, rfl, ho⟩
    · exact hnone
  | complete o =>
    simp only [Slot.opened]
    split
    · next ho => exact ⟨o, rfl, ho⟩
    · exact hnone
  | undecided => exact h
  | irrelevant => exact hnone

theorem consistent_updated {o : Observation} (hp : slot.phase = .active)
    (ho : o.protocol = protocol) (verdict : Verdict) :
    (slot.updated (o, verdict)).1.Consistent protocol := by
  cases verdict with
  | more | flush =>
    simp only [updated, Consistent, hp]
    exact ⟨o, rfl, ho⟩
  | final => exact ⟨o, rfl, ho⟩
  | drop => rfl

theorem Consistent.advance (h : slot.Consistent plugin.protocol) (hk : plugin.KeepsProtocol) :
    (slot.advance plugin packet).1.Consistent plugin.protocol := by
  cases hp : slot.phase with
  | pending =>
    rw [advance_pending hp]
    exact h.opened hp _
  | active =>
    obtain ⟨o, ho, hprotocol⟩ := h.exists_observation (.inl hp)
    rw [advance_active hp ho]
    exact consistent_updated hp ((hk packet o).trans hprotocol) _
  | finished =>
    rw [advance_finished hp]
    exact h
  | ignored =>
    rw [advance_ignored hp]
    exact h

theorem IsSettled.advance (h : slot.IsSettled) : (slot.advance plugin packet).1 = slot := by
  rcases h with h | h
  · rw [advance_finished h]
  · rw [advance_ignored h]

end

end Slot

/-! ## Flow records -/

namespace FlowRecord

variable {r : FlowRecord} {q : Protocol}

/-- Every history from a new flow leaves the slots consistent. -/
theorem consistent_slot_run {calls : List Call} (h : ∀ call ∈ calls, call.KeepsProtocol) :
    ((empty.run calls).slot q).Consistent q := by
  refine slot_run_induct (fun call hc plugin hp hq slot hs => ?_) ?_
  · subst hq
    exact hs.advance (h call hc plugin hp)
  · rw [slot_empty]
    rfl

theorem consistent_get_foldl_offer (packet : Packet) {plugins : List Plugin}
    (hk : ∀ plugin ∈ plugins, plugin.KeepsProtocol) (h : (r.slot q).Consistent q) :
    ((plugins.foldl (offer packet) (r.slots, false)).1.get q).Consistent q := by
  refine get_foldl_offer_induct (fun plugin hp hq slot hs => ?_) h
  subst hq
  exact hs.advance (hk plugin hp)

theorem slot_run_of_settled {calls : List Call} (h : (r.slot q).IsSettled) :
    (r.run calls).slot q = r.slot q := by
  refine slot_run_induct (P := (· = r.slot q)) (fun _ _ plugin _ _ slot hs => ?_) rfl
  rw [hs]
  exact h.advance

/-- **The lifecycle of a slot.** After every history from a new flow, whatever the plugins answer
and in whatever lists they come, a slot is consistent; a finished slot is as it is from then on; an
ignored slot stays ignored and empty; and no plugin of a further call comes upon an active slot
without an observation. -/
theorem run_lifecycle (past future : List Call) (h : ∀ call ∈ past, call.KeepsProtocol)
    (q : Protocol) :
    ((empty.run past).slot q).Consistent q ∧
    (((empty.run past).slot q).phase = .finished →
      ((empty.run past).run future).slot q = (empty.run past).slot q) ∧
    (((empty.run past).slot q).phase = .ignored →
      (((empty.run past).run future).slot q).phase = .ignored ∧
        (((empty.run past).run future).slot q).observation = none) ∧
    ∀ call : Call, call.KeepsProtocol →
      ∀ before plugin rest, call.plugins = before ++ plugin :: rest →
        ((before.foldl (offer call.packet) ((empty.run past).slots, false)).1.get
          plugin.protocol).phase = .active →
        ((before.foldl (offer call.packet) ((empty.run past).slots, false)).1.get
          plugin.protocol).observation ≠ none := by
  have hc : ((empty.run past).slot q).Consistent q := consistent_slot_run h
  refine ⟨hc, fun hf => slot_run_of_settled (.inl hf), fun hi => ?_, ?_⟩
  · rw [slot_run_of_settled (.inr hi)]
    exact ⟨hi, hc.observation_eq_none (.inr hi)⟩
  · intro call hcall before plugin rest hplugins hactive
    have hbefore : ∀ p ∈ before, p.KeepsProtocol := fun p hp =>
      hcall p (hplugins ▸ List.mem_append_left _ hp)
    have hslot := consistent_get_foldl_offer call.packet hbefore
      (consistent_slot_run (q := plugin.protocol) h)
    obtain ⟨o, ho, -⟩ := hslot.exists_observation (.inl hactive)
    rw [ho]
    exact Option.some_ne_none o

/-- Two plugins of one protocol, and one that begins with an observation of another protocol. -/
theorem run_lifecycle_foreign :
    let packet : Packet := { ipProtocol := 6, payload := ⟨0, []⟩, vlanTag := some 100 }
    let past : List Call := [⟨[{ Plugin.vlan with protocol := .mpls }, .vlan, .vlan], packet⟩]
    let future : List Call := [⟨[.mpls, .vlan], { packet with vlanTag := some 200 }⟩]
    (∀ call ∈ past, call.KeepsProtocol) ∧
    ((empty.run past).slot .vlan).phase = .finished ∧
    ((empty.run past).run future).slot .vlan = (empty.run past).slot .vlan ∧
    ((empty.run past).slot .mpls).phase = .ignored ∧
    (((empty.run past).run future).slot .mpls).observation = none := by
  intro packet past future
  have hk : ∀ call ∈ past, call.KeepsProtocol := by
    intro call hcall plugin hp
    rw [List.mem_singleton.1 hcall] at hp
    simp only [List.mem_cons, List.not_mem_nil, or_false] at hp
    rcases hp with rfl | rfl | rfl <;> exact fun _ _ => rfl
  have hf : ((empty.run past).slot .vlan).phase = .finished := by decide
  have hi : ((empty.run past).slot .mpls).phase = .ignored := by decide
  obtain ⟨-, hfinished, -⟩ := run_lifecycle past future hk .vlan
  obtain ⟨-, -, hignored, -⟩ := run_lifecycle past future hk .mpls
  exact ⟨hk, hf, hfinished hf, hi, (hignored hi).2⟩

end FlowRecord

end Flowmeter
