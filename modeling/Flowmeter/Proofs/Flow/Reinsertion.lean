import Flowmeter.Proofs.Flow.Step

/-!
# Packets that split a flow

A packet that splits a flow is not processed by it: the record stays as it is, and any other packet
is counted (`packets_process`), so that the two can be told apart by the record alone. The packet
then starts a new flow. On a new flow every plugin is pending, and a pending plugin splits nothing
(`isSplitBy_empty`), so that no packet is handed on twice.
-/

namespace Flowmeter.FlowRecord

variable {r : FlowRecord} {plugins : List Plugin} {packet : Packet}

/-- A packet splits the flow if one plugin asks for it, wherever that plugin stands. -/
theorem splits_iff_exists_active : (r.process plugins packet).1 = .split ↔
    ∃ plugin ∈ plugins, (r.slot plugin.protocol).phase = .active ∧
      ∃ o, r.observation? plugin.protocol = some o ∧ plugin.splits packet o = true := by
  rw [process_fst_eq_split_iff, isSplitBy_eq_true_iff]
  simp only [Slot.splits_eq_true_iff, observation?]

/-- A packet is counted unless it splits the flow. -/
theorem packets_process : (r.process plugins packet).2.packets =
    r.packets + if (r.process plugins packet).1 = .split then 0 else 1 := by
  by_cases hs : (r.process plugins packet).1 = .split
  · rw [if_pos hs, process_of_isSplitBy (process_fst_eq_split_iff.1 hs), Nat.add_zero]
  · have hns : r.isSplitBy plugins packet = false := by
      rwa [process_fst_eq_split_iff, Bool.not_eq_true] at hs
    rw [if_neg hs, process_of_not_isSplitBy hns]

theorem process_snd_eq_self_iff :
    (r.process plugins packet).2 = r ↔ (r.process plugins packet).1 = .split := by
  constructor
  · intro hsame
    refine Decidable.by_contra fun hns => ?_
    have hcount := @packets_process r plugins packet
    rw [hsame, if_neg hns] at hcount
    omega
  · intro hs
    rw [process_of_isSplitBy (process_fst_eq_split_iff.1 hs)]

theorem isSplitBy_empty : empty.isSplitBy plugins packet = false := by
  rw [Bool.eq_false_iff, ne_eq, ← process_fst_eq_split_iff, splits_iff_exists_active]
  rintro ⟨plugin, -, hactive, -⟩
  rw [slot_empty] at hactive
  cases hactive

/-- A history counts the packets that did not split the flow. -/
theorem packets_run (r : FlowRecord) (calls : List Call) :
    (r.run calls).packets =
      r.packets + (r.trace calls).countP fun answer => answer.1 ≠ .split := by
  induction calls generalizing r with
  | nil => rfl
  | cons call rest ih =>
    rw [run_cons, ih, trace, List.countP_cons, after, packets_process]
    by_cases hs : (r.process call.plugins call.packet).1 = .split
    · simp only [hs, ↓reduceIte, ne_eq, not_true_eq_false, decide_false, Bool.false_eq_true,
        Nat.add_zero]
    · simp only [hs, ↓reduceIte, ne_eq, not_false_eq_true, decide_true]
      omega

/-- **A split is atomic and is not repeated.** Whatever the plugins answer and in whatever order
they stand, a packet splits a flow exactly if an active plugin asks for it, and exactly if the
record after it is the record before it; the same packet never splits a new flow, which takes it in
as its first; and after every history of a new flow the packets counted are the calls that did not
split it. -/
theorem process_split_atomic :
    (∀ (r : FlowRecord) (plugins : List Plugin) (packet : Packet),
      ((r.process plugins packet).1 = .split ↔
        ∃ plugin ∈ plugins, (r.slot plugin.protocol).phase = .active ∧
          ∃ o, r.observation? plugin.protocol = some o ∧ plugin.splits packet o = true) ∧
      ((r.process plugins packet).1 = .split ↔ (r.process plugins packet).2 = r)) ∧
    (∀ (plugins : List Plugin) (packet : Packet),
      (empty.process plugins packet).1 ≠ .split ∧ (empty.process plugins packet).2.packets = 1) ∧
    ∀ calls : List Call,
      (empty.run calls).packets = (empty.trace calls).countP fun answer => answer.1 ≠ .split := by
  refine ⟨fun r plugins packet => ⟨splits_iff_exists_active, process_snd_eq_self_iff.symm⟩,
    fun plugins packet => ?_, fun calls => ?_⟩
  · have hns : (empty.process plugins packet).1 ≠ .split := by
      rw [ne_eq, process_fst_eq_split_iff, isSplitBy_empty]
      exact Bool.false_ne_true
    refine ⟨hns, ?_⟩
    rw [packets_process, if_neg hns]
    rfl
  · rw [packets_run]
    exact Nat.zero_add _

end Flowmeter.FlowRecord
