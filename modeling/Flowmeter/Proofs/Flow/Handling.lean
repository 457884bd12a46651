import Flowmeter.Proofs.Flow.Builtin

/-!
# Handling flow records

A flow record processes packets, and observations are attached to it and taken off it in between.
Then a slot may hold an observation in any phase, but never one of another protocol
(`isOf_slot_handleAll`).
-/

namespace Flowmeter

/-- What is done to a flow record. -/
inductive Handling where
  | attach (o : Observation)
  | detach (p : Protocol)
  | process (call : Call)

/-- All plugins are built-in ones, with any options. -/
def Call.IsBuiltin (call : Call) : Prop :=
  ∀ plugin ∈ call.plugins, ∃ options p, plugin = Plugin.ofProtocol options p

/-- No built-in plugin ever changes the protocol of what it observes. -/
theorem Call.IsBuiltin.keepsProtocol {call : Call} (h : call.IsBuiltin) : call.KeepsProtocol := by
  intro plugin hp
  obtain ⟨options, p, rfl⟩ := h plugin hp
  exact Plugin.keepsProtocol_ofProtocol options p

/-! ## One slot -/

/-- If the slot holds an observation, it is one of the protocol. -/
def Slot.IsOf (p : Protocol) (slot : Slot) : Prop :=
  ∀ o, slot.observation = some o → o.protocol = p

namespace Slot.IsOf

variable {slot : Slot} {p : Protocol} {plugin : Plugin} {packet : Packet}

/-- An empty slot holds nothing of another protocol. -/
theorem of_none (phase : Phase) : Slot.IsOf p ⟨none, phase⟩ := by
  intro o ho
  cases ho

theorem of_some {o : Observation} (h : o.protocol = p) (phase : Phase) :
    Slot.IsOf p ⟨some o, phase⟩ := by
  intro o' ho
  cases ho
  exact h

/-- An opening puts in an observation of the protocol, or leaves what the slot holds. -/
theorem opened (h : slot.IsOf p) (opening : Opening) : (slot.opened p opening).IsOf p := by
  cases opening with
  | begun o | complete o =>
    simp only [Slot.opened]
    split
    · next ho => exact of_some ho _
    · exact h
  | undecided | irrelevant => exact h

theorem updated {o : Observation} (h : o.protocol = p) (verdict : Verdict) :
    (slot.updated (o, verdict)).1.IsOf p := by
  cases verdict with
  | more | final | flush => exact of_some h _
  | drop => exact of_none _

/-- A packet leaves a slot with an observation of its protocol, if the plugin keeps the protocol. -/
theorem advance (h : slot.IsOf plugin.protocol) (hk : plugin.KeepsProtocol) :
    (slot.advance plugin packet).1.IsOf plugin.protocol := by
  cases hp : slot.phase with
  | pending =>
    rw [advance_pending hp]
    exact h.opened _
  | active =>
    cases ho : slot.observation with
    | none =>
      simp only [Slot.advance, hp, ho]
      exact of_none _
    | some o =>
      rw [advance_active hp ho]
      exact updated ((hk packet o).trans (h o ho)) _
  | finished =>
    rw [advance_finished hp]
    exact h
  | ignored =>
    rw [advance_ignored hp]
    exact h

end Slot.IsOf

/-! ## Flow records -/

namespace FlowRecord

variable {r : FlowRecord} {p q : Protocol}

def handle (r : FlowRecord) : Handling → FlowRecord
  | .attach o => r.attach o
  | .detach p => r.detach p
  | .process call => r.after call

def handleAll (r : FlowRecord) (steps : List Handling) : FlowRecord :=
  steps.foldl handle r

/-- An attached observation goes to the slot of its own protocol. -/
theorem isOf_slot_attach (o : Observation) (h : (r.slot q).IsOf q) :
    ((r.attach o).slot q).IsOf q := by
  by_cases hq : q = o.protocol
  · subst hq
    simp only [slot, attach, PerProtocol.get_set_self]
    exact .of_some rfl _
  · simp only [slot, attach, PerProtocol.get_set_of_ne _ _ hq]
    exact h

/-- Taking an observation off empties one slot and leaves the others. -/
theorem isOf_slot_detach (p : Protocol) (h : (r.slot q).IsOf q) :
    ((r.detach p).slot q).IsOf q := by
  by_cases hq : q = p
  · subst hq
    simp only [slot, detach, PerProtocol.get_set_self]
    exact .of_none _
  · simp only [slot, detach, PerProtocol.get_set_of_ne _ _ hq]
    exact h

theorem isOf_slot_after {call : Call} (hk : call.KeepsProtocol) (h : (r.slot q).IsOf q) :
    ((r.after call).slot q).IsOf q := by
  refine slot_after_induct (fun plugin hp hq slot hs => ?_) h
  subst hq
  exact hs.advance (hk plugin hp)

/-- However a new flow is handled, no slot holds an observation of another protocol. -/
theorem isOf_slot_handleAll {steps : List Handling}
    (h : ∀ call, .process call ∈ steps → call.KeepsProtocol) (q : Protocol) :
    ((empty.handleAll steps).slot q).IsOf q := by
  have hsteps : ∀ (steps : List Handling) (r : FlowRecord), (r.slot q).IsOf q →
      (∀ call, .process call ∈ steps → call.KeepsProtocol) →
      ((r.handleAll steps).slot q).IsOf q := by
    intro steps
    induction steps with
    | nil => exact fun _ hr _ => hr
    | cons step rest ih =>
      intro r hr h
      refine ih (r.handle step) ?_ fun call hcall => h call (List.mem_cons_of_mem _ hcall)
      cases step with
      | attach o => exact isOf_slot_attach o hr
      | detach p => exact isOf_slot_detach p hr
      | process call => exact isOf_slot_after (h call List.mem_cons_self) hr
  refine hsteps steps empty ?_ h
  rw [slot_empty]
  exact .of_none _

end FlowRecord

end Flowmeter
