import Flowmeter.Export.Catalog
import Flowmeter.Export.Schema
import Flowmeter.Text.Quoted

/-!
# The field registry

A registry holds the fields of the registered protocols in the order of registration, with an index
from descriptors to positions and, for each registered protocol, the positions of its fields
(`Registry.insert` keeps the three in step). It finds a field by its descriptor, reads it off an
observation, and serves as the catalog that selections are resolved against.
-/

namespace Flowmeter

/-- A field of a registered protocol. -/
structure RegisteredField where
  descriptor : Descriptor
  protocol : Protocol
  /-- Position among the fields of the protocol. -/
  index : Nat
  deriving DecidableEq, Repr

namespace RegisteredField

/-- The value of the field on an observation of its protocol: what the getter at its position
reads. -/
def read (f : RegisteredField) (o : Observation) : Option FieldValue :=
  if o.protocol = f.protocol then f.protocol.getters[f.index]?.bind fun get => get o else none

def describe (f : RegisteredField) : String :=
  "RegisteredField \x7b descriptor: FieldDescriptor \x7b plugin: " ++ Text.quote f.descriptor.plugin
    ++ ", field: " ++ Text.quote f.descriptor.field ++ " \x7d, protocol: " ++ f.protocol.title
    ++ ", index: " ++ toString f.index ++ " \x7d"

end RegisteredField

/-- The fields of a protocol, numbered in the order of declaration. -/
def Protocol.declaredFields (p : Protocol) : List RegisteredField :=
  p.fieldNames.mapIdx fun index name => ⟨⟨p.name, name⟩, p, index⟩

/-- The fields of the registered protocols. -/
structure Registry where
  /-- In the order of registration. -/
  fields : List RegisteredField
  /-- Where the field with a descriptor stands, the latest first. -/
  positions : List (Descriptor × Nat)
  /-- Where the fields of each registered protocol stand. -/
  plugins : PerProtocol (Option (List Nat))
  deriving DecidableEq, Repr

/-- Why a protocol is not registered. -/
inductive RegistryError where
  | duplicatePlugin (protocol : Protocol)
  deriving DecidableEq, Repr

def RegistryError.message : RegistryError → String
  | .duplicatePlugin protocol => s!"Plugin '{protocol.name}' is already registered."

namespace Registry

def empty : Registry :=
  ⟨[], [], .replicate none⟩

/-- Puts a field behind the others. -/
def push (r : Registry) (f : RegisteredField) : Registry :=
  { r with
    fields := r.fields ++ [f]
    positions := (f.descriptor, r.fields.length) :: r.positions }

/-- Puts the fields of a protocol behind the others. -/
def insert (r : Registry) (p : Protocol) : Registry :=
  { p.declaredFields.foldl push r with
    plugins := r.plugins.set p (some (List.range' r.fields.length p.declaredFields.length)) }

def isRegistered (r : Registry) (p : Protocol) : Bool :=
  (r.plugins.get p).isSome

/-- Registers a protocol behind the others, once. -/
def register (r : Registry) (p : Protocol) : Except RegistryError Registry :=
  if r.isRegistered p then .error (.duplicatePlugin p) else .ok (r.insert p)

def builtin : Registry :=
  Protocol.all.foldl insert empty

def field? (r : Registry) (d : Descriptor) : Option RegisteredField :=
  (r.positions.lookup d).bind (r.fields[·]?)

/-- The fields at the given positions. -/
def fieldsAt (r : Registry) (positions : List Nat) : List RegisteredField :=
  positions.filterMap (r.fields[·]?)

/-- The fields of a protocol, in the order of declaration. -/
def fieldsOf (r : Registry) (p : Protocol) : List RegisteredField :=
  ((r.plugins.get p).map r.fieldsAt).getD []

/-- The registered protocols, in the order of the protocols. -/
def registered (r : Registry) : List Protocol :=
  Protocol.all.filter r.isRegistered

/-- The names of the registered protocols, in the order of the protocols. -/
def pluginNames (r : Registry) : List String :=
  r.registered.map Protocol.name

/-- The descriptors of a registered plugin, in the order of declaration. -/
def pluginFields? (r : Registry) (plugin : String) : Option (List Descriptor) := do
  let p ← Protocol.ofName? plugin
  let positions ← r.plugins.get p
  return (r.fieldsAt positions).map RegisteredField.descriptor

/-- The descriptors of all fields, in the order of registration. -/
def allFields (r : Registry) : List Descriptor :=
  r.fields.map RegisteredField.descriptor

def catalog (r : Registry) : Catalog :=
  ⟨r.pluginFields?, r.allFields⟩

/-- The value of the field with the given descriptor on an observation. -/
def read (r : Registry) (d : Descriptor) (o : Observation) : Option FieldValue :=
  (r.field? d).bind (·.read o)

end Registry

end Flowmeter
