import Flowmeter.Flow.Plugin

/-!
# Flow records

A flow record holds one slot for each protocol: an observation, if there is one, and the phase
that the plugin of the protocol is in. `FlowRecord.process` offers a packet to a list of plugins.
First every active plugin may ask for the flow to be split; then nothing changes. Otherwise each
plugin moves the slot of its protocol on (`Slot.advance`).
-/

namespace Flowmeter

/-- The phase of a plugin on a flow. -/
inductive Phase where
  /-- Nothing recognised yet. -/
  | pending
  /-- An observation is being updated. -/
  | active
  /-- The observation is complete. -/
  | finished
  /-- The flow does not carry the protocol, or its observation was dropped. -/
  | ignored
  deriving DecidableEq, Repr

/-- The place of one protocol on a flow. -/
structure Slot where
  observation : Option Observation := none
  phase : Phase := .pending
  deriving DecidableEq, Repr

/-- What becomes of a flow after a packet. -/
inductive Action where
  /-- The flow goes on. -/
  | proceed
  /-- The flow is exported and ends. -/
  | flush
  /-- The flow is exported without the packet, which then starts a new flow. -/
  | split
  deriving DecidableEq, Repr

namespace Slot

/-- The slot after a plugin has begun or declined an observation. One of another protocol counts
as declined. -/
def opened (slot : Slot) (protocol : Protocol) : Opening → Slot
  | .begun o => if o.protocol = protocol then ⟨some o, .active⟩ else { slot with phase := .ignored }
  | .complete o =>
    if o.protocol = protocol then ⟨some o, .finished⟩ else { slot with phase := .ignored }
  | .undecided => slot
  | .irrelevant => { slot with phase := .ignored }

/-- The slot after a plugin has updated its observation, and whether the flow is flushed. -/
def updated (slot : Slot) : Observation × Verdict → Slot × Bool
  | (o, .more) => ({ slot with observation := some o }, false)
  | (o, .final) => (⟨some o, .finished⟩, false)
  | (_, .drop) => (⟨none, .ignored⟩, false)
  | (o, .flush) => ({ slot with observation := some o }, true)

/-- Offers a packet to the plugin of the slot: the slot after it, and whether the flow is
flushed. -/
def advance (slot : Slot) (plugin : Plugin) (packet : Packet) : Slot × Bool :=
  match slot.phase with
  | .pending => (slot.opened plugin.protocol (plugin.start packet), false)
  | .active =>
    match slot.observation with
    | some o => slot.updated (plugin.update packet o)
    | none => ({ slot with phase := .ignored }, false)
  | .finished | .ignored => (slot, false)

/-- Whether the plugin of the slot wants a packet to start a new flow. -/
def splits (slot : Slot) (plugin : Plugin) (packet : Packet) : Bool :=
  slot.phase == .active && slot.observation.any (plugin.splits packet)

end Slot

/-- What is known of a flow. -/
structure FlowRecord where
  slots : PerProtocol Slot
  /-- Number of packets processed. -/
  packets : Nat
  deriving DecidableEq, Repr

namespace FlowRecord

/-- A flow of which nothing is known. -/
def empty : FlowRecord :=
  ⟨.replicate {}, 0⟩

def slot (r : FlowRecord) (p : Protocol) : Slot :=
  r.slots.get p

def observation? (r : FlowRecord) (p : Protocol) : Option Observation :=
  (r.slot p).observation

def observations (r : FlowRecord) : List Observation :=
  r.slots.toList.filterMap Slot.observation

/-- Stores an observation in the slot of its protocol, in place of the one there. -/
def attach (r : FlowRecord) (o : Observation) : FlowRecord :=
  { r with slots := r.slots.set o.protocol { r.slot o.protocol with observation := some o } }

/-- Takes the observation of a protocol out of its slot. -/
def detach (r : FlowRecord) (p : Protocol) : FlowRecord :=
  { r with slots := r.slots.set p { r.slot p with observation := none } }

/-- Whether some plugin wants the packet to start a new flow. -/
def isSplitBy (r : FlowRecord) (plugins : List Plugin) (packet : Packet) : Bool :=
  plugins.any fun plugin => (r.slot plugin.protocol).splits plugin packet

/-- Offers a packet to one plugin: the slots after it, and whether the flow is flushed. -/
def offer (packet : Packet) (state : PerProtocol Slot × Bool) (plugin : Plugin) :
    PerProtocol Slot × Bool :=
  let (slots, flush) := state
  let (slot, flushes) := (slots.get plugin.protocol).advance plugin packet
  (slots.set plugin.protocol slot, flush || flushes)

/-- Processes a packet with a list of plugins. -/
def process (r : FlowRecord) (plugins : List Plugin) (packet : Packet) : Action × FlowRecord :=
  if r.isSplitBy plugins packet then (.split, r)
  else
    let (slots, flush) := plugins.foldl (offer packet) (r.slots, false)
    (if flush then .flush else .proceed, ⟨slots, r.packets + 1⟩)

end FlowRecord

end Flowmeter
