/-!
# VLAN tag control information

Sixteen bits: a priority of three bits, the drop eligible bit, and a VLAN identifier of twelve.
-/

namespace Flowmeter

/-- The tag control information of a tagged frame. -/
structure TagControl where
  word : UInt16
  deriving DecidableEq, Repr

namespace TagControl

/-- Priority code point. -/
def priority (t : TagControl) : UInt16 :=
  t.word >>> 13

/-- Whether the frame may be dropped under congestion. -/
def dropEligible (t : TagControl) : Bool :=
  t.word &&& 0x1000 != 0

/-- VLAN identifier. -/
def vlanId (t : TagControl) : UInt16 :=
  t.word &&& 0x0FFF

end TagControl

end Flowmeter
