import Flowmeter.Tokens
import Flowmeter.Varint.Continued

/-!
# MQTT control packets

A segment is a run of control packets: an octet with the packet type in its high half and flags in
its low half, the length of the body as an integer with a continuation bit, and the body.
`ControlPacket.tokenizer` cuts a segment into them; the sequence succeeds when the last packet ends
with the segment.
-/

namespace Flowmeter.Mqtt

/-- Types of control packets. -/
inductive PacketType where
  | reserved
  | connect
  | connAck
  | publish
  | pubAck
  | pubRec
  | pubRel
  | pubComp
  | subscribe
  | subAck
  | unsubscribe
  | unsubAck
  | pingReq
  | pingResp
  | disconnect
  | auth
  deriving DecidableEq, Repr

namespace PacketType

def all : List PacketType :=
  [.reserved, .connect, .connAck, .publish, .pubAck, .pubRec, .pubRel, .pubComp, .subscribe,
    .subAck, .unsubscribe, .unsubAck, .pingReq, .pingResp, .disconnect, .auth]

def name : PacketType → String
  | .reserved => "Reserved"
  | .connect => "Connect"
  | .connAck => "ConnAck"
  | .publish => "Publish"
  | .pubAck => "PubAck"
  | .pubRec => "PubRec"
  | .pubRel => "PubRel"
  | .pubComp => "PubComp"
  | .subscribe => "Subscribe"
  | .subAck => "SubAck"
  | .unsubscribe => "Unsubscribe"
  | .unsubAck => "UnsubAck"
  | .pingReq => "PingReq"
  | .pingResp => "PingResp"
  | .disconnect => "Disconnect"
  | .auth => "Auth"

/-- The type of a code; there is one for each code below 16. -/
def ofCode (code : Nat) : PacketType :=
  all[code]?.getD .reserved

end PacketType

/-- First octet of a control packet. -/
structure FixedHeader where
  octet : UInt8
  deriving DecidableEq, Repr

namespace FixedHeader

/-- The high half. -/
def typeCode (h : FixedHeader) : UInt8 :=
  h.octet >>> 4

def type (h : FixedHeader) : PacketType :=
  PacketType.ofCode h.typeCode.toNat

/-- The low half. -/
def flags (h : FixedHeader) : UInt8 :=
  h.octet &&& 0x0F

end FixedHeader

/-- A control packet. -/
structure ControlPacket where
  header : FixedHeader
  /-- Variable header and payload. -/
  body : View
  deriving DecidableEq, Repr

namespace ControlPacket

def step (v : View) : Step ControlPacket :=
  match v.bytes with
  | [] => .finished v
  | first :: _ =>
    let rest := v.drop 1
    match Varint.readContinued? rest.bytes with
    | none => .stop
    | some length =>
      match rest.subview? length.size (length.size + length.value) with
      | none => .stop
      | some body => .token ⟨⟨first⟩, body⟩ (rest.drop (length.size + length.value))

theorem step_shortens {v : View} {p : ControlPacket} {rest : View} (h : step v = .token p rest) :
    rest.length < v.length := by
  simp only [step] at h
  repeat' split at h
  all_goals cases h
  rename_i hv _ _ _ _ _ _
  simp only [View.length_drop]
  simp only [View.length, hv, List.length_cons]
  omega

def tokenizer : Tokenizer ControlPacket :=
  ⟨step, step_shortens⟩

/-- A control packet on the wire; `digits` are the base-256 digits of the length of the body, all
below 128. -/
def encode (header : FixedHeader) (digits body : Octets) : Octets :=
  header.octet :: Varint.encodeContinued digits ++ body

end ControlPacket

end Flowmeter.Mqtt
