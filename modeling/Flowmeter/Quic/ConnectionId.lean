import Flowmeter.Decoder
import Flowmeter.Octets.Hex

/-!
# QUIC connection ids

Up to twenty octets; on the wire they follow an octet with their number.
-/

namespace Flowmeter.Quic

/-- The rules that a long header packet can break. On a platform whose words have fewer than 64 bits
there is one more, that the length of a token fit a word. Here words are taken to have 64 bits, so
that every length fits and one that is too great runs past the end of the packet instead. -/
inductive Error where
  /-- The packet has a short header. -/
  | shortHeader
  /-- The fixed bit of a packet with a version is clear. -/
  | fixedBitNotSet
  /-- A connection id of this many octets. -/
  | connectionIdTooLong (length : UInt8)
  deriving DecidableEq, Repr

/-- Longest connection id. -/
def ConnectionId.maxLength : Nat := 20

/-- A connection id. -/
structure ConnectionId where
  octets : Octets
  length_le : octets.length ≤ ConnectionId.maxLength
  deriving DecidableEq, Repr

def Error.message : Error → String
  | .shortHeader => "expected a long header packet"
  | .fixedBitNotSet => "QUIC fixed bit is not set"
  | .connectionIdTooLong length =>
    s!"connection id length {length.toNat} exceeds {ConnectionId.maxLength}"

namespace ConnectionId

/-- The id with the given octets, if they are not too many. -/
def ofOctets? (octets : Octets) : Option ConnectionId :=
  if h : octets.length ≤ maxLength then some ⟨octets, h⟩ else none

def isEmpty (id : ConnectionId) : Bool :=
  id.octets.isEmpty

def describe (id : ConnectionId) : String :=
  "ConnectionId(" ++ Octets.hex id.octets ++ ")"

def decoder : Decoder Error ConnectionId := do
  let start ← Decoder.here
  let length ← Decoder.octet
  Decoder.require (length.toNat ≤ maxLength) (.connectionIdTooLong length) start
  let value ← Decoder.take length.toNat
  match ofOctets? value.bytes with
  | some id => return id
  | none => Decoder.breaks (.connectionIdTooLong length) start

def encode (id : ConnectionId) : Octets :=
  UInt8.ofNat id.octets.length :: id.octets

theorem nonGrowing_decoder : Decoder.NonGrowing decoder := by
  refine Decoder.nonGrowing_here.bind fun start => Decoder.nonGrowing_octet.bind fun length =>
    (Decoder.nonGrowing_require _ _ _).bind fun _ => (Decoder.nonGrowing_take _).bind fun value => ?_
  cases ofOctets? value.bytes with
  | some id => exact Decoder.nonGrowing_pure id
  | none => exact fun _ _ _ h => nomatch h

end ConnectionId

end Flowmeter.Quic
