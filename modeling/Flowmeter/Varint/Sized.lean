import Flowmeter.Octets.BigEndian
import Flowmeter.Varint.Continued

/-!
# Integers that announce their size

The top two bits of the first octet say whether the integer takes 1, 2, 4 or 8 octets; all other
bits are the value, most significant first.
-/

namespace Flowmeter.Varint

/-- The sizes that two bits can announce. -/
inductive Size where
  | one | two | four | eight
  deriving DecidableEq, Repr

namespace Size

/-- The two bits that announce the size. -/
def mark : Size → Nat
  | .one => 0
  | .two => 1
  | .four => 2
  | .eight => 3

/-- Number of octets of an integer of this size. -/
def octets : Size → Nat
  | .one => 1
  | .two => 2
  | .four => 4
  | .eight => 8

/-- Values below this limit fit the size, beside the two bits that announce it. -/
def limit : Size → Nat
  | .one => 0x40
  | .two => 0x4000
  | .four => 0x40000000
  | .eight => 0x4000000000000000

/-- The size that a first octet announces. -/
def announcedBy (first : UInt8) : Size :=
  if first < 0x40 then .one
  else if first < 0x80 then .two
  else if first < 0xC0 then .four
  else .eight

end Size

/-- Reads a sized integer from the front. Absent when there are fewer octets than the first one
announces. -/
def readSized? : Octets → Option Varint
  | [] => none
  | first :: rest =>
    let size := (Size.announcedBy first).octets
    if size ≤ rest.length + 1 then
      some ⟨BigEndian.append (first.toNat % 64) (rest.take (size - 1)), size⟩
    else none

def encodeSized (s : Size) (value : Nat) : Octets :=
  BigEndian.toOctets s.octets (s.mark * s.limit + value)

end Flowmeter.Varint
