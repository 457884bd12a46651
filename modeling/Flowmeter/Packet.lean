import Flowmeter.Octets.View

/-!
# Dissected packets

What the capture hands to the plugins: addresses and link headers are already taken apart, the
payload is not.
-/

namespace Flowmeter

/-! ## IP protocol numbers -/

namespace IpProtocol

def icmp : UInt8 := 1
def tcp : UInt8 := 6
def udp : UInt8 := 17
def icmpV6 : UInt8 := 58

end IpProtocol

/-- Which side of the flow sent a packet. -/
inductive Direction where
  | clientToServer
  | serverToClient
  deriving DecidableEq, Repr

/-- A dissected packet. -/
structure Packet where
  ipProtocol : UInt8
  /-- Payload of the transport protocol. -/
  payload : View
  /-- Tag control information, on a tagged packet. -/
  vlanTag : Option UInt16 := none
  /-- Label stack entries of four octets each, top of the stack first. -/
  labelStack : View := ⟨0, []⟩
  sourcePort : UInt16 := 0
  destinationPort : UInt16 := 0
  direction : Direction := .clientToServer
  deriving DecidableEq, Repr

namespace Packet

def isTcp (p : Packet) : Bool :=
  p.ipProtocol == IpProtocol.tcp

def isUdp (p : Packet) : Bool :=
  p.ipProtocol == IpProtocol.udp

/-- Port of the side that answers. -/
def serverPort (p : Packet) : UInt16 :=
  match p.direction with
  | .clientToServer => p.destinationPort
  | .serverToClient => p.sourcePort

end Packet

end Flowmeter
