import Flowmeter.Quic.LongHeader

/-!
# QUIC long header packets

A whole long header packet, and how it is put on the wire (`LongPacket.encode`). The lengths of
token and payload are written in any size that holds them. `LongPacket.header` is what a reader of
the unprotected part gets to see.

A payload of UDP carries packets that tell their length, and an `Ending`.
-/

namespace Flowmeter.Quic

/-- The two bits that code the type in a packet of the given version. A version negotiation, which
has no version, leaves them unused. -/
def PacketType.codePoint (version : UInt32) : PacketType → Nat
  | .initial => if version = version2 then 1 else 0
  | .zeroRtt => if version = version2 then 2 else 1
  | .handshake => if version = version2 then 3 else 2
  | .retry => if version = version2 then 0 else 3
  | .versionNegotiation => 0

/-- A long header packet. -/
structure LongPacket where
  firstByte : FirstByte
  version : UInt32
  type : PacketType
  destinationId : ConnectionId
  sourceId : ConnectionId
  /-- The token of an Initial packet. -/
  token : Octets
  /-- Size of the length of the token. -/
  tokenSize : Varint.Size
  /-- Size of the length of the payload, on a packet that carries it. -/
  payloadSize : Varint.Size
  /-- Packet number and payload, or all that follows the ids on a packet without a length. -/
  payload : Octets
  deriving DecidableEq, Repr

namespace LongPacket

/-- Whether the packet tells where it ends. -/
def IsDelimited (p : LongPacket) : Prop :=
  p.type = .initial ∨ p.type = .zeroRtt ∨ p.type = .handshake

/-- The token with its length in front, on a packet that carries one. -/
def encodeToken (p : LongPacket) : Octets :=
  match p.type with
  | .initial => Varint.encodeSized p.tokenSize p.token.length ++ p.token
  | .versionNegotiation | .zeroRtt | .handshake | .retry => []

/-- The length of the payload, on a packet that carries it. -/
def encodePayloadLength (p : LongPacket) : Octets :=
  match p.type with
  | .initial | .zeroRtt | .handshake => Varint.encodeSized p.payloadSize p.payload.length
  | .versionNegotiation | .retry => []

def encodeHeader (p : LongPacket) : Octets :=
  p.firstByte.octet :: BigEndian.toOctets 4 p.version.toNat ++ p.destinationId.encode
    ++ p.sourceId.encode ++ p.encodeToken ++ p.encodePayloadLength

def encode (p : LongPacket) : Octets :=
  p.encodeHeader ++ p.payload

/-- The unprotected part of the packet. -/
def header (p : LongPacket) : LongHeader where
  firstByte := p.firstByte
  version := p.version
  type := p.type
  destinationId := p.destinationId
  sourceId := p.sourceId
  tokenLength :=
    match p.type with
    | .initial => some p.token.length
    | .versionNegotiation | .zeroRtt | .handshake | .retry => none
  payloadLength :=
    match p.type with
    | .initial | .zeroRtt | .handshake => some p.payload.length
    | .versionNegotiation | .retry => none

/-- Version 0 marks a version negotiation, which only sets the top bit of the first octet. In every
other packet the high half of the first octet is the bits 11 and the code point of the type. The
lengths fit their sizes. -/
structure WellFormed (p : LongPacket) : Prop where
  versionNegotiation_iff : p.type = .versionNegotiation ↔ p.version = 0
  top_bit : p.version = 0 → 0x80 ≤ p.firstByte.octet.toNat
  high_half : p.version ≠ 0 →
    p.firstByte.octet.toNat / 16 = 0b1100 + p.type.codePoint p.version
  token_lt : p.type = .initial → p.token.length < p.tokenSize.limit
  payload_lt : p.IsDelimited → p.payload.length < p.payloadSize.limit

instance (p : LongPacket) : Decidable p.IsDelimited :=
  inferInstanceAs (Decidable (_ ∨ _ ∨ _))

theorem wellFormed_iff (p : LongPacket) : p.WellFormed ↔
    (p.type = .versionNegotiation ↔ p.version = 0) ∧
      (p.version = 0 → 0x80 ≤ p.firstByte.octet.toNat) ∧
      (p.version ≠ 0 → p.firstByte.octet.toNat / 16 = 0b1100 + p.type.codePoint p.version) ∧
      (p.type = .initial → p.token.length < p.tokenSize.limit) ∧
      (p.IsDelimited → p.payload.length < p.payloadSize.limit) := by
  constructor
  · rintro ⟨h₁, h₂, h₃, h₄, h₅⟩
    exact ⟨h₁, h₂, h₃, h₄, h₅⟩
  · rintro ⟨h₁, h₂, h₃, h₄, h₅⟩
    exact ⟨h₁, h₂, h₃, h₄, h₅⟩

instance (p : LongPacket) : Decidable p.WellFormed :=
  decidable_of_iff _ p.wellFormed_iff.symm

end LongPacket

/-- What follows the packets that tell where they end. -/
inductive Ending where
  /-- A Retry or a version negotiation, which takes all that is left. -/
  | packet (p : LongPacket)
  /-- Nothing, a short header packet, or too little for a packet. -/
  | tail (octets : Octets)
  deriving DecidableEq, Repr

namespace Ending

def encode : Ending → Octets
  | .packet p => p.encode
  | .tail octets => octets

def packets : Ending → List LongPacket
  | .packet p => [p]
  | .tail _ => []

def WellFormed : Ending → Prop
  | .packet p =>
    p.WellFormed ∧ (p.type = .retry ∨ p.type = .versionNegotiation) ∧ 8 ≤ p.encode.length
  | .tail octets => octets.length < 8 ∨ ∃ first rest, octets = first :: rest ∧ first < 0x80

end Ending

end Flowmeter.Quic
