import Flowmeter.Octets.Hex

/-!
# Field values

The values that are exported, with the number of octets each takes and its text.
-/

namespace Flowmeter

/-- Sizes of exported numbers. -/
inductive Width where
  | one | two | four | eight
  deriving DecidableEq, Repr

def Width.octets : Width → Nat
  | .one => 1
  | .two => 2
  | .four => 4
  | .eight => 8

/-- An exported value. -/
inductive FieldValue where
  /-- A number of the given size. -/
  | unsigned (width : Width) (value : Nat)
  | text (value : String)
  /-- A string of octets. -/
  | octets (value : Octets)
  /-- A list of numbers of one octet. -/
  | octetList (value : Octets)
  deriving DecidableEq, Repr

namespace FieldValue

/-- Number of octets that the value takes, without any length in front. -/
def size : FieldValue → Nat
  | .unsigned width _ => width.octets
  | .text value => value.utf8ByteSize
  | .octets value | .octetList value => value.length

/-- The value as text: numbers in decimal, octet strings in hexadecimal. -/
def render : FieldValue → String
  | .unsigned _ value => toString value
  | .text value => value
  | .octets value => Octets.hex value
  | .octetList value =>
    "[" ++ String.intercalate "," (value.map fun b => toString b.toNat) ++ "]"

def ofUInt8 (n : UInt8) : FieldValue := .unsigned .one n.toNat

def ofUInt16 (n : UInt16) : FieldValue := .unsigned .two n.toNat

def ofUInt32 (n : UInt32) : FieldValue := .unsigned .four n.toNat

end FieldValue

end Flowmeter
