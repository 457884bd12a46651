import Flowmeter.Quic.ConnectionId
import Flowmeter.Tokens

/-!
# QUIC long headers

The unprotected part of a long header packet: first octet, version, the two connection ids, and,
depending on the packet type, the length of a token and the length of what follows the header.
Packets of one datagram are cut at those lengths (`LongHeader.tokenizer`). A packet without a
length takes the rest of the datagram, and a short header packet ends it.
-/

namespace Flowmeter.Quic

/-- Version 2, whose packet type code points are rotated. -/
def version2 : UInt32 := 0x6B3343CF

/-- First octet of a packet. -/
structure FirstByte where
  octet : UInt8
  deriving DecidableEq, Repr

namespace FirstByte

def isLong (b : FirstByte) : Bool :=
  b.octet &&& 0x80 != 0

def hasFixedBit (b : FirstByte) : Bool :=
  b.octet &&& 0x40 != 0

/-- The two bits that code the packet type. -/
def typeBits (b : FirstByte) : UInt8 :=
  (b.octet >>> 4) &&& 0x03

/-- The four bits that each packet type uses on its own. -/
def specificBits (b : FirstByte) : UInt8 :=
  b.octet &&& 0x0F

end FirstByte

/-- Types of long header packets. -/
inductive PacketType where
  | versionNegotiation
  | initial
  | zeroRtt
  | handshake
  | retry
  deriving DecidableEq, Repr

namespace PacketType

def all : List PacketType :=
  [.versionNegotiation, .initial, .zeroRtt, .handshake, .retry]

def name : PacketType → String
  | .versionNegotiation => "VersionNegotiation"
  | .initial => "Initial"
  | .zeroRtt => "ZeroRtt"
  | .handshake => "Handshake"
  | .retry => "Retry"

/-- The bit that stands for the type in a set of types. -/
def bit : PacketType → UInt8
  | .versionNegotiation => 0x01
  | .initial => 0x02
  | .zeroRtt => 0x04
  | .handshake => 0x08
  | .retry => 0x10

/-- The type that a bit stands for. -/
def ofBit? (bit : UInt8) : Option PacketType :=
  all.find? (·.bit == bit)

/-- The type that the two type bits code in a packet of the given version. -/
def ofTypeBits (bits : UInt8) (version : UInt32) : PacketType :=
  match version == version2, (bits &&& 0x03).toNat with
  | false, 0 | true, 1 => .initial
  | false, 1 | true, 2 => .zeroRtt
  | false, 2 | true, 3 => .handshake
  | _, _ => .retry

/-- The type of a packet; version 0 marks a version negotiation. -/
def ofHeader (first : FirstByte) (version : UInt32) : PacketType :=
  if version = 0 then .versionNegotiation else ofTypeBits first.typeBits version

/-- Whether packets of the type carry a token before their length. -/
def hasToken (t : PacketType) : Bool :=
  t == .initial

/-- Whether packets of the type carry the length of what follows the header. -/
def hasLength : PacketType → Bool
  | .initial | .zeroRtt | .handshake => true
  | .versionNegotiation | .retry => false

end PacketType

/-- The unprotected part of a long header packet. -/
structure LongHeader where
  firstByte : FirstByte
  version : UInt32
  type : PacketType
  destinationId : ConnectionId
  sourceId : ConnectionId
  /-- Length of the token of an Initial packet. -/
  tokenLength : Option Nat
  /-- Length of packet number and payload. -/
  payloadLength : Option Nat
  deriving DecidableEq, Repr

namespace LongHeader

/-- Reads a token and gives its length, on a packet that carries one. -/
def tokenLengthDecoder (type : PacketType) : Decoder Error (Option Nat) :=
  if type.hasToken then do
    let length ← Decoder.sized
    let _ ← Decoder.take length
    return some length
  else return none

/-- Reads the length of what follows the header, on a packet that carries it. -/
def payloadLengthDecoder (type : PacketType) : Decoder Error (Option Nat) :=
  if type.hasLength then some <$> Decoder.sized else return none

/-- Reads a long header. The fixed bit counts only on packets with a version. -/
def decoder : Decoder Error LongHeader := do
  let start ← Decoder.here
  let firstByte := FirstByte.mk (← Decoder.octet)
  Decoder.require firstByte.isLong .shortHeader start
  let version ← Decoder.uint32
  Decoder.require (version == 0 || firstByte.hasFixedBit) .fixedBitNotSet start
  let destinationId ← ConnectionId.decoder
  let sourceId ← ConnectionId.decoder
  let type := PacketType.ofHeader firstByte version
  let tokenLength ← tokenLengthDecoder type
  let payloadLength ← payloadLengthDecoder type
  return { firstByte, version, type, destinationId, sourceId, tokenLength, payloadLength }

theorem nonGrowing_tokenLengthDecoder (type : PacketType) :
    Decoder.NonGrowing (tokenLengthDecoder type) := by
  unfold tokenLengthDecoder
  split
  · exact Decoder.nonGrowing_sized.bind fun n =>
      (Decoder.nonGrowing_take n).bind fun _ => Decoder.nonGrowing_pure _
  · exact Decoder.nonGrowing_pure _

theorem nonGrowing_payloadLengthDecoder (type : PacketType) :
    Decoder.NonGrowing (payloadLengthDecoder type) := by
  unfold payloadLengthDecoder
  split
  · rw [map_eq_pure_bind]
    exact Decoder.nonGrowing_sized.bind fun _ => Decoder.nonGrowing_pure _
  · exact Decoder.nonGrowing_pure _

theorem decoder_shortens {v rest : View} {h : LongHeader} (hd : decoder v = .ok (h, rest)) :
    rest.length < v.length := by
  obtain ⟨start, mid, h₁, h₂⟩ := Decoder.bind_eq_ok.1 hd
  cases h₁
  obtain ⟨first, mid', h₃, h₄⟩ := Decoder.bind_eq_ok.1 h₂
  refine Nat.lt_of_le_of_lt ?_ (Decoder.octet_shortens h₃)
  refine Decoder.NonGrowing.bind (Decoder.nonGrowing_require _ _ _) (fun _ => ?_) _ _ _ h₄
  refine Decoder.nonGrowing_uint32.bind fun version =>
    (Decoder.nonGrowing_require _ _ _).bind fun _ => ConnectionId.nonGrowing_decoder.bind fun _ =>
    ConnectionId.nonGrowing_decoder.bind fun _ =>
    (nonGrowing_tokenLengthDecoder _).bind fun _ =>
    (nonGrowing_payloadLengthDecoder _).bind fun _ => Decoder.nonGrowing_pure _

/-- First octet, version and the lengths of both connection ids. -/
def minPacketLength : Nat := 8

/-- Number of octets after the header that belong to the packet, of `available` ones. -/
def bodyLength (h : LongHeader) (available : Nat) : Nat :=
  match h.payloadLength with
  | some length => min length available
  | none => available

def step (v : View) : Step LongHeader :=
  if v.length < minPacketLength || (v.byte? 0).any (· < 0x80) then .finished v
  else
    match decoder v with
    | .ok (h, rest) => .token h (rest.drop (h.bodyLength rest.length))
    | .error _ => .stop

theorem step_shortens {v : View} {h : LongHeader} {rest : View} (hs : step v = .token h rest) :
    rest.length < v.length := by
  simp only [step] at hs
  repeat' split at hs
  all_goals cases hs
  rename_i hd
  have := decoder_shortens hd
  simp only [View.length_drop]
  omega

def tokenizer : Tokenizer LongHeader :=
  ⟨step, step_shortens⟩

end LongHeader

end Flowmeter.Quic
