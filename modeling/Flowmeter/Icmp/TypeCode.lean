import Flowmeter.Decoder

/-!
# ICMP type and code

The first two octets of an ICMP message.
-/

namespace Flowmeter.Icmp

/-- Type and code of an ICMP message. -/
structure TypeCode where
  type : UInt8
  code : UInt8
  deriving DecidableEq, Repr

namespace TypeCode

/-- The type in the high octet, the code in the low one. -/
def value (t : TypeCode) : Nat :=
  t.type.toNat * 256 + t.code.toNat

def decoder : Decoder Empty TypeCode := do
  let type ← Decoder.octet
  let code ← Decoder.octet
  return ⟨type, code⟩

end TypeCode

end Flowmeter.Icmp
