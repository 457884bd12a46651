import Flowmeter.Flow.Plugin

/-!
# Observations of a plugin on its own

A plugin that is offered packets one after the other begins an observation with the first and takes
the others in, unless it drops the observation on the way (`Plugin.run?`). What beginning
establishes and taking in keeps holds of every observation that it comes to (`run?_induct`).
-/

namespace Flowmeter

/-- The observation of an opening, if there is one. -/
def Opening.observation? : Opening → Option Observation
  | .begun o | .complete o => some o
  | .undecided | .irrelevant => none

namespace Plugin

variable {plugin : Plugin}

/-- The observation after one more packet, unless it is dropped. -/
def take? (plugin : Plugin) (o : Observation) (packet : Packet) : Option Observation :=
  match plugin.update packet o with
  | (_, .drop) => none
  | (o', _) => some o'

/-- The observation that begins with the first packet and takes in the others. -/
def run? (plugin : Plugin) : List Packet → Option Observation
  | [] => none
  | first :: rest => (plugin.start first).observation?.bind fun o => rest.foldlM plugin.take? o

theorem take?_of_update {o o' : Observation} {packet : Packet} {verdict : Verdict}
    (h : plugin.update packet o = (o', verdict)) (hv : verdict ≠ .drop) :
    plugin.take? o packet = some o' := by
  unfold take?
  rw [h]
  cases verdict with
  | drop => exact absurd rfl hv
  | _ => rfl

/-- A run goes on from the observation that it has come to. -/
theorem run?_append_foldlM {past : List Packet} {o : Observation}
    (h : plugin.run? past = some o) (future : List Packet) :
    plugin.run? (past ++ future) = future.foldlM plugin.take? o := by
  cases past with
  | nil => cases h
  | cons first rest =>
    obtain ⟨begun, hbegun, hrest⟩ := Option.bind_eq_some_iff.1 h
    rw [List.cons_append, run?, hbegun, Option.bind_some, List.foldlM_append, hrest]
    rfl

theorem run?_append {packets : List Packet} {o : Observation}
    (h : plugin.run? packets = some o) (packet : Packet) :
    plugin.run? (packets ++ [packet]) = plugin.take? o packet :=
  (run?_append_foldlM h [packet]).trans (Option.bind_fun_some _)

/-- What holds of an observation and is kept by every packet taken in after it holds from then
on. -/
theorem run?_append_induct {P : Observation → Prop} {past future : List Packet}
    {o o' : Observation} (h : plugin.run? past = some o) (ho : P o)
    (htake : ∀ packets o packet o', plugin.run? packets = some o → P o →
      plugin.take? o packet = some o' → P o')
    (h' : plugin.run? (past ++ future) = some o') : P o' := by
  induction future generalizing past o with
  | nil =>
    rw [List.append_nil, h] at h'
    cases h'
    exact ho
  | cons packet future ih =>
    rw [run?_append_foldlM h] at h'
    obtain ⟨o₁, htaken, hrest⟩ := Option.bind_eq_some_iff.1 h'
    have hpast : plugin.run? (past ++ [packet]) = some o₁ := (run?_append h packet).trans htaken
    refine ih hpast (htake past o packet o₁ h ho htaken) ?_
    rw [run?_append_foldlM hpast, hrest]

/-- What holds of the observation that is begun and is kept by every packet taken in holds of every
observation. -/
theorem run?_induct {P : List Packet → Observation → Prop}
    (hstart : ∀ packet o, (plugin.start packet).observation? = some o → P [packet] o)
    (htake : ∀ packets o packet o', P packets o → plugin.take? o packet = some o' →
      P (packets ++ [packet]) o')
    {packets : List Packet} {o : Observation} (h : plugin.run? packets = some o) :
    P packets o := by
  have hrun : ∀ rest past o', P past o' → rest.foldlM plugin.take? o' = some o →
      P (past ++ rest) o := by
    intro rest
    induction rest with
    | nil =>
      intro past o' hpast hrest
      cases hrest
      rwa [List.append_nil]
    | cons packet rest ih =>
      intro past o' hpast hrest
      obtain ⟨o'', htaken, hrest⟩ := Option.bind_eq_some_iff.1 hrest
      have hstep := ih (past ++ [packet]) o'' (htake past o' packet o'' hpast htaken) hrest
      rwa [List.append_assoc] at hstep
  cases packets with
  | nil => cases h
  | cons first rest =>
    obtain ⟨begun, hbegun, hrest⟩ := Option.bind_eq_some_iff.1 h
    exact hrun rest [first] begun (hstart first begun hbegun) hrest

/-- The observation after the packets up to the first verdict other than `more`, and that
verdict. -/
def follow (plugin : Plugin) (o : Observation) : List Packet → Observation × Verdict
  | [] => (o, .more)
  | packet :: rest =>
    match plugin.update packet o with
    | (o', .more) => plugin.follow o' rest
    | (o', verdict) => (o', verdict)

variable {o o' : Observation} {packet : Packet} {rest : List Packet}

/-- An observation that wants more takes in the next packet. -/
theorem follow_cons_of_more (h : plugin.update packet o = (o', .more)) :
    plugin.follow o (packet :: rest) = plugin.follow o' rest := by
  simp only [follow, h]

/-- Any other verdict is the last one. -/
theorem follow_cons_of_ne_more (h : (plugin.update packet o).2 ≠ .more) :
    plugin.follow o (packet :: rest) = plugin.update packet o := by
  rw [follow]
  generalize plugin.update packet o = taken at h ⊢
  obtain ⟨o', verdict⟩ := taken
  cases verdict with
  | more => exact absurd rfl h
  | _ => rfl

end Plugin

end Flowmeter
