import Flowmeter.Octets.View

/-!
# Integers with a continuation bit

Each octet carries seven bits of value; its top bit says that another octet follows. The octets
count as base-256 digits, most significant first, so the digits are all below 128. At most
`maxOctets` octets are read.
-/

namespace Flowmeter

/-- A self-delimiting integer together with the number of octets it took. -/
structure Varint where
  value : Nat
  size : Nat
  deriving DecidableEq, Repr

namespace Varint

/-- Longest continued integer. -/
def maxOctets : Nat := 4

/-- Reads on with `budget` octets left, `read` being the number read so far. -/
def readContinuedFrom : (budget read : Nat) → Octets → Option Varint
  | 0, _, _ => none
  | _ + 1, _, [] => none
  | budget + 1, read, b :: rest =>
    let value := read * 256 + b.toNat % 128
    if b < 0x80 then some ⟨value, 1⟩
    else (readContinuedFrom budget value rest).map fun v => { v with size := v.size + 1 }

/-- Reads a continued integer from the front. Absent when the octets end, or `maxOctets` of them
are read, before one without the continuation bit. -/
def readContinued? (octets : Octets) : Option Varint :=
  readContinuedFrom maxOctets 0 octets

/-- The octets of a continued integer with the given digits: all but the last are marked. -/
def encodeContinued : (digits : Octets) → Octets
  | [] => []
  | [d] => [d]
  | d :: rest => (d ||| 0x80) :: encodeContinued rest

end Varint

end Flowmeter
