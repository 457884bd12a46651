import Flowmeter.Flow.Observation
import Flowmeter.Flow.Verdict
import Flowmeter.Packet

/-!
# Plugins

A plugin observes one protocol on a flow. It is offered packets until it begins an observation or
finds that the flow does not carry its protocol (`start`); from then on it updates the observation
(`update`), and may ask that a packet start a flow of its own (`splits`).
-/

namespace Flowmeter

/-- What a plugin makes of a packet while it has no observation. -/
inductive Opening where
  /-- An observation that later packets add to. -/
  | begun (observation : Observation)
  /-- An observation that is complete. -/
  | complete (observation : Observation)
  /-- Nothing recognised yet; the next packet may tell. -/
  | undecided
  /-- The flow does not carry the protocol. -/
  | irrelevant
  deriving DecidableEq, Repr

/-- The observer of one protocol. -/
structure Plugin where
  protocol : Protocol
  start : Packet → Opening
  /-- Whether the flow must be exported as it is, and the packet start a new one. -/
  splits : Packet → Observation → Bool := fun _ _ => false
  update : Packet → Observation → Observation × Verdict

/-- The name that settings know the plugin by. -/
def Plugin.name (p : Plugin) : String :=
  p.protocol.name

end Flowmeter
