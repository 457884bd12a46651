/-!
# Verdicts

What a plugin makes of a packet offered to an observation it has begun.
-/

namespace Flowmeter

/-- What follows from an update. -/
inductive Verdict where
  /-- Later packets are of interest. -/
  | more
  /-- The observation is complete; no further packets are offered. -/
  | final
  /-- The observation is dropped from the flow. -/
  | drop
  /-- The flow is exported, this packet included. -/
  | flush
  deriving DecidableEq, Repr

end Flowmeter
