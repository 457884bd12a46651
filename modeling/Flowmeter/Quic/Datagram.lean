import Flowmeter.Quic.LongHeader

/-!
# QUIC datagrams

The long header packets that one UDP payload carries, and what they say together: the set of their
types, the number of their 0-RTT packets, and the packet that decides what the datagram means for
the connection.
-/

namespace Flowmeter.Quic

/-- Greatest value of a one octet counter, which then stands still. -/
def counterLimit : Nat := 255

/-- The long header packets of one datagram. -/
structure Datagram where
  packets : List LongHeader
  deriving DecidableEq, Repr

namespace Datagram

/-- The packets of a payload; absent when a long header is malformed. A payload that starts with a
short header packet, or is too short for a long one, has none. -/
def parse? (payload : View) : Option Datagram :=
  let (packets, last) := LongHeader.tokenizer.tokens payload
  if last.hasSucceeded then some ⟨packets⟩ else none

/-- The set of packet types, a bit for each. -/
def types (d : Datagram) : UInt8 :=
  d.packets.foldl (fun set h => set ||| h.type.bit) 0

/-- Whether the datagram has a packet of the type. -/
def hasType (d : Datagram) (t : PacketType) : Bool :=
  d.types &&& t.bit != 0

/-- Counts a packet if it is a 0-RTT packet. -/
def countZeroRtt (count : Nat) (h : LongHeader) : Nat :=
  if h.type == .zeroRtt then min counterLimit (count + 1) else count

/-- Number of 0-RTT packets, as far as the counter goes. -/
def zeroRttCount (d : Datagram) : Nat :=
  d.packets.foldl countZeroRtt 0

def firstOf? (d : Datagram) (t : PacketType) : Option LongHeader :=
  d.packets.find? (·.type == t)

/-- Packet types from the one that says most about the connection to the one that says least. -/
def precedence : List PacketType :=
  [.versionNegotiation, .initial, .retry, .zeroRtt, .handshake]

/-- The packet that decides what the datagram means: the first one of the type that says most. -/
def decisive? (d : Datagram) : Option LongHeader :=
  precedence.findSome? d.firstOf?

end Datagram

end Flowmeter.Quic
