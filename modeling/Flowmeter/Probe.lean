import Flowmeter.Export.Delivery
import Flowmeter.Settings.Meter

/-!
# Probes

A probe is a meter that has been set up: its plugins, the registry of all fields, and the layout
of its output. It processes packets and exports flow records through its interfaces.
-/

namespace Flowmeter

/-- A meter that has been set up. -/
structure Probe where
  registry : Registry
  plugins : List Plugin
  layout : Layout

namespace Probe

def ofSettings (settings : MeterSettings) : Except LayoutError Probe := do
  let registry := Registry.builtin
  let layout ← settings.output.resolve registry.catalog
  return ⟨registry, settings.plugins.build, layout⟩

def failure (e : LayoutError) : String :=
  "invalid output configuration: " ++ e.message

def process (probe : Probe) (flow : FlowRecord) (packet : Packet) : Action × FlowRecord :=
  flow.process probe.plugins packet

/-- The values of a flow, interface by interface, each with the index of its interface. -/
def deliver (probe : Probe) (flow : FlowRecord) : List (Nat × Descriptor × FieldValue) :=
  probe.layout.interfaces.flatMap fun interface =>
    (flow.values probe.registry interface.fields).map (interface.index, ·)

end Probe

end Flowmeter
