import Flowmeter.Decoder

/-!
# MPLS label stack entries

Thirty-two bits: a label of twenty bits, a traffic class of three, the bottom of stack bit and a
time to live of eight. What is recorded of an entry is its label section, the three octets before
the time to live.
-/

namespace Flowmeter

/-- An entry of a label stack. -/
structure LabelStackEntry where
  word : UInt32
  deriving DecidableEq, Repr

/-- The label section of the top entry of a stack. -/
structure TopLabel where
  octets : Octets
  deriving DecidableEq, Repr

namespace LabelStackEntry

def label (e : LabelStackEntry) : UInt32 :=
  e.word >>> 12

def trafficClass (e : LabelStackEntry) : UInt32 :=
  (e.word >>> 9) &&& 0x07

def isBottom (e : LabelStackEntry) : Bool :=
  e.word &&& 0x100 != 0

def timeToLive (e : LabelStackEntry) : UInt32 :=
  e.word &&& 0xFF

/-- The entry without its time to live. -/
def topLabel (e : LabelStackEntry) : TopLabel :=
  ⟨(BigEndian.toOctets 4 e.word.toNat).take 3⟩

def decoder : Decoder Empty LabelStackEntry := do
  return ⟨← Decoder.uint32⟩

end LabelStackEntry

end Flowmeter
