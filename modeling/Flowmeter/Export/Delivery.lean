import Flowmeter.Export.Registry
import Flowmeter.Export.Selection
import Flowmeter.Flow.Record

/-!
# Delivery of field values

The values that a flow record has for given fields, in the order of the fields. Fields that the
registry does not know, or that were not observed, are passed over.
-/

namespace Flowmeter.FlowRecord

/-- The value that a flow has for the field of a descriptor. -/
def value? (r : FlowRecord) (registry : Registry) (d : Descriptor) : Option FieldValue := do
  let field ← registry.field? d
  let observation ← r.observation? field.protocol
  field.read observation

/-- The values that a flow has for the fields in a list. -/
def values (r : FlowRecord) (registry : Registry) (ds : List Descriptor) :
    List (Descriptor × FieldValue) :=
  ds.filterMap fun d => (r.value? registry d).map (d, ·)

/-- The values that a flow has for the selected fields. -/
def selectedValues (r : FlowRecord) (registry : Registry) (s : Selection) :
    List (Descriptor × FieldValue) :=
  r.values registry s.fields

end Flowmeter.FlowRecord
