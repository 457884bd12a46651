import Flowmeter.Flow.Record

/-!
# Calls on flow records

A call offers one packet to a list of plugins (`FlowRecord.after`); a flow record lives through a
history of calls (`FlowRecord.run`, and `FlowRecord.trace` with all results on the way).

A slot moves only when a plugin of its own protocol is offered the packet (`get_offer_of_ne`), and
then by `Slot.advance` (`get_offer_self`). So a property of one slot that every such move keeps is
kept by the plugins of a call (`get_foldl_offer_induct`), by the call (`slot_after_induct`) and by
a whole history (`slot_run_induct`).
-/

namespace Flowmeter

/-- A packet, and the plugins that it is offered to. -/
structure Call where
  plugins : List Plugin
  packet : Packet

def Call.each (plugins : List Plugin) (packets : List Packet) : List Call :=
  packets.map (Call.mk plugins)

/-! ## One slot -/

namespace Slot

variable {slot : Slot} {plugin : Plugin} {packet : Packet}

/-- A plugin is asked to start on a slot that it has not decided on. -/
theorem advance_pending (h : slot.phase = .pending) :
    slot.advance plugin packet = (slot.opened plugin.protocol (plugin.start packet), false) := by
  simp only [advance, h]

/-- A plugin updates an observation that is going on. -/
theorem advance_active {o : Observation} (h : slot.phase = .active)
    (ho : slot.observation = some o) :
    slot.advance plugin packet = slot.updated (plugin.update packet o) := by
  simp only [advance, h, ho]

/-- A finished observation takes nothing in any more. -/
theorem advance_finished (h : slot.phase = .finished) :
    slot.advance plugin packet = (slot, false) := by
  simp only [advance, h]

theorem advance_ignored (h : slot.phase = .ignored) :
    slot.advance plugin packet = (slot, false) := by
  simp only [advance, h]

/-- Only on an observation that is going on can a plugin ask for a split. -/
theorem splits_eq_true_iff :
    slot.splits plugin packet = true ↔
      slot.phase = .active ∧ ∃ o, slot.observation = some o ∧ plugin.splits packet o = true := by
  simp only [splits, Bool.and_eq_true, beq_iff_eq, Option.any_eq_true]

end Slot

namespace FlowRecord

/-! ## The plugins of a call -/

section Offer

variable {packet : Packet} {state : PerProtocol Slot × Bool} {plugin : Plugin}

/-- The plugin moves the slot of its own protocol. -/
@[simp] theorem get_offer_self :
    (offer packet state plugin).1.get plugin.protocol =
      ((state.1.get plugin.protocol).advance plugin packet).1 :=
  PerProtocol.get_set_self ..

/-- Slots of other protocols stay as they are. -/
theorem get_offer_of_ne {q : Protocol} (h : plugin.protocol ≠ q) :
    (offer packet state plugin).1.get q = state.1.get q :=
  PerProtocol.get_set_of_ne _ _ h.symm

/-- The flow is flushed if some plugin says so. -/
@[simp] theorem snd_offer :
    (offer packet state plugin).2 =
      (state.2 || ((state.1.get plugin.protocol).advance plugin packet).2) :=
  rfl

/-- What the moves of a slot keep, the plugins of a call keep. -/
theorem get_foldl_offer_induct {P : Slot → Prop} {q : Protocol} {plugins : List Plugin}
    (hstep : ∀ plugin ∈ plugins, plugin.protocol = q →
      ∀ slot, P slot → P (slot.advance plugin packet).1)
    (h : P (state.1.get q)) : P ((plugins.foldl (offer packet) state).1.get q) := by
  induction plugins generalizing state with
  | nil => exact h
  | cons plugin rest ih =>
    rw [List.foldl_cons]
    refine ih (fun p hp => hstep p (List.mem_cons_of_mem _ hp)) ?_
    by_cases hq : plugin.protocol = q
    · subst hq
      rw [get_offer_self]
      exact hstep plugin List.mem_cons_self rfl _ h
    · rw [get_offer_of_ne hq]
      exact h

/-- A slot that none of the plugins is for stays as it is. -/
theorem get_foldl_offer_of_forall_ne {q : Protocol} {plugins : List Plugin}
    (h : ∀ plugin ∈ plugins, plugin.protocol ≠ q) :
    (plugins.foldl (offer packet) state).1.get q = state.1.get q :=
  get_foldl_offer_induct (P := (· = state.1.get q)) (fun p hp hq => absurd hq (h p hp)) rfl

end Offer

/-! ## One call -/

section Process

variable {r : FlowRecord} {plugins : List Plugin} {packet : Packet}

/-- One plugin is enough to split a flow. -/
theorem isSplitBy_eq_true_iff :
    r.isSplitBy plugins packet = true ↔
      ∃ plugin ∈ plugins, (r.slot plugin.protocol).splits plugin packet = true := by
  simp only [isSplitBy, List.any_eq_true]

/-- A packet that splits the flow is not taken in. -/
theorem process_of_isSplitBy (h : r.isSplitBy plugins packet = true) :
    r.process plugins packet = (.split, r) := by
  simp only [process, h, ↓reduceIte]

/-- Any other packet is counted and offered to every plugin in turn. -/
theorem process_of_not_isSplitBy (h : r.isSplitBy plugins packet = false) :
    r.process plugins packet =
      (if (plugins.foldl (offer packet) (r.slots, false)).2 then .flush else .proceed,
        ⟨(plugins.foldl (offer packet) (r.slots, false)).1, r.packets + 1⟩) := by
  simp only [process, h, Bool.false_eq_true, ↓reduceIte]

/-- A split is answered for no other reason. -/
theorem process_fst_eq_split_iff :
    (r.process plugins packet).1 = .split ↔ r.isSplitBy plugins packet = true := by
  cases h : r.isSplitBy plugins packet with
  | true => simp only [process_of_isSplitBy h]
  | false =>
    rw [process_of_not_isSplitBy h]
    cases (plugins.foldl (offer packet) (r.slots, false)).2 <;> simp

end Process

/-! ## Histories -/

def after (r : FlowRecord) (call : Call) : FlowRecord :=
  (r.process call.plugins call.packet).2

/-- The record after a history of calls. -/
def run (r : FlowRecord) (calls : List Call) : FlowRecord :=
  calls.foldl after r

/-- What each call of a history answers, and the record after it. -/
def trace (r : FlowRecord) : List Call → List (Action × FlowRecord)
  | [] => []
  | call :: rest => r.process call.plugins call.packet :: (r.after call).trace rest

@[simp] theorem run_nil (r : FlowRecord) : r.run [] = r := rfl

@[simp] theorem run_cons (r : FlowRecord) (call : Call) (rest : List Call) :
    r.run (call :: rest) = (r.after call).run rest := rfl

@[simp] theorem slot_empty (q : Protocol) : empty.slot q = {} :=
  PerProtocol.get_replicate ..

/-- What the moves of a slot keep, a call keeps. -/
theorem slot_after_induct {P : Slot → Prop} {q : Protocol} {r : FlowRecord} {call : Call}
    (hstep : ∀ plugin ∈ call.plugins, plugin.protocol = q →
      ∀ slot, P slot → P (slot.advance plugin call.packet).1)
    (h : P (r.slot q)) : P ((r.after call).slot q) := by
  unfold after
  cases hs : r.isSplitBy call.plugins call.packet with
  | true =>
    rw [process_of_isSplitBy hs]
    exact h
  | false =>
    rw [process_of_not_isSplitBy hs]
    exact get_foldl_offer_induct hstep h

/-- What the moves of a slot keep, every history keeps. -/
theorem slot_run_induct {P : Slot → Prop} {q : Protocol} {r : FlowRecord} {calls : List Call}
    (hstep : ∀ call ∈ calls, ∀ plugin ∈ call.plugins, plugin.protocol = q →
      ∀ slot, P slot → P (slot.advance plugin call.packet).1)
    (h : P (r.slot q)) : P ((r.run calls).slot q) := by
  induction calls generalizing r with
  | nil => exact h
  | cons call rest ih =>
    rw [run_cons]
    exact ih (fun c hc => hstep c (List.mem_cons_of_mem _ hc))
      (slot_after_induct (hstep call List.mem_cons_self) h)

end FlowRecord

end Flowmeter
